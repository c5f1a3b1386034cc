import Disasm32.Proofs.Word.Fields
import Mathlib.Data.List.Basic
import Mathlib.Tactic.Ring

/-! The immediate formats in both directions. Laying fields side by side and cutting a number
into fields undo each other. A format cuts its immediate into groups and lays them, in another
order, between the other fields of a word, so an immediate and these fields are read back from
the word, and every word is assembled from what is read from it. -/
namespace Disasm32.Word

def lay : List (Nat × Nat) → Nat
  | [] => 0
  | (width, value) :: fields => value + lay fields * 2 ^ width

def cut (w : Int) : Nat → List Nat → List (Nat × Nat)
  | _, [] => []
  | lsb, width :: widths => (width, bits w lsb width) :: cut w (lsb + width) widths

theorem lay_cut (w : Int) {lsb : Nat} {widths : List Nat} (inside : lsb + widths.sum ≤ 32) :
    lay (cut w lsb widths) = bits w lsb widths.sum := by
  induction widths generalizing lsb with
  | nil =>
    have none : bits w lsb 0 = 0 := Nat.lt_one_iff.1 (bits_lt w lsb 0)
    exact none.symm
  | cons width widths ih =>
    rw [List.sum_cons] at inside ⊢
    rw [cut, lay, ih (by omega), bits_add w lsb width widths.sum (by omega)]

/-- Above the lowest field, the fields are those of what is laid on it. -/
theorem cut_add_mul {value width : Nat} (fits : value < 2 ^ width) (rest lsb : Nat)
    (widths : List Nat) :
    cut ((value + rest * 2 ^ width : Nat) : Int) (width + lsb) widths = cut rest lsb widths := by
  induction widths generalizing lsb with
  | nil => rfl
  | cons next widths ih =>
    rw [cut, cut, Nat.add_assoc, ih, bits_natCast, bits_natCast, Nat.pow_add,
      ← Nat.div_div_eq_div_mul, Nat.add_mul_div_right _ _ (Nat.two_pow_pos width),
      Nat.div_eq_of_lt fits, Nat.zero_add]

theorem cut_lay {fields : List (Nat × Nat)}
    (fit : fields.Forall fun field => field.2 < 2 ^ field.1) :
    cut (lay fields) 0 (fields.map (·.1)) = fields := by
  induction fields with
  | nil => rfl
  | cons field fields ih =>
    obtain ⟨width, value⟩ := field
    obtain ⟨fits, fit⟩ := (List.forall_cons _ _ _).1 fit
    have lowest : bits (lay ((width, value) :: fields)) 0 width = value := by
      rw [bits_natCast, Nat.pow_zero, Nat.div_one, lay, Nat.add_mul_mod_self_right,
        Nat.mod_eq_of_lt fits]
    have upper := cut_add_mul fits (lay fields) 0 (fields.map (·.1))
    rw [Nat.add_zero, ih fit] at upper
    rw [List.map_cons, cut, lowest, Nat.zero_add, lay, upper]

theorem bits_add_mul (a c : Int) {lsb width size : Nat} (inside : lsb + width ≤ size) :
    bits (a + c * (2 ^ size : Nat)) lsb width = bits a lsb width := by
  have power : ((2 ^ size : Nat) : Int) =
      2 ^ (size - lsb - width) * (2 ^ width : Nat) * (2 ^ lsb : Nat) := by
    push_cast
    rw [← pow_add, ← pow_add]
    congr 1
    omega
  have positive : ((2 ^ lsb : Nat) : Int) ≠ 0 := by
    exact_mod_cast (Nat.two_pow_pos lsb).ne'
  simp only [bits, Nat.pow_eq]
  rw [power, ← mul_assoc, Int.add_mul_ediv_right _ _ positive, ← mul_assoc,
    Int.add_mul_emod_self_right]

theorem exists_signExtend_eq (width n : Nat) :
    ∃ c : Int, signExtend width n = n + c * (2 ^ width : Nat) := by
  unfold signExtend
  split
  · exact ⟨0, by simp⟩
  · exact ⟨-1, by omega⟩

/-- The fields of a number in two's complement are those of its bits. -/
theorem cut_signExtend {size n lsb : Nat} {widths : List Nat} (inside : lsb + widths.sum ≤ size) :
    cut (signExtend size n) lsb widths = cut n lsb widths := by
  obtain ⟨c, equal⟩ := exists_signExtend_eq size n
  induction widths generalizing lsb with
  | nil => rfl
  | cons width widths ih =>
    rw [List.sum_cons] at inside
    rw [cut, cut, ih (by omega), equal, bits_add_mul _ _ (by omega)]

theorem signExtend_bits {k : Nat} {imm : Int} (lower : -(2 ^ k : Nat) ≤ imm)
    (upper : imm < (2 ^ k : Nat)) : signExtend (k + 1) (bits imm 0 (k + 1)) = imm := by
  have half : (2 : Nat) ^ (k + 1) = 2 ^ k * 2 := Nat.pow_succ 2 k
  have raw : bits imm 0 (k + 1) = (imm % (2 ^ k * 2 : Nat)).toNat := by
    simp [bits, half]
  rw [raw, signExtend, Nat.add_sub_cancel, half]
  rcases lt_or_ge imm 0 with negative | natural
  · rw [← Int.add_emod_right, Int.emod_eq_of_lt (by omega) (by omega), if_neg (by omega)]
    omega
  · rw [Int.emod_eq_of_lt natural (by omega), if_pos (by omega)]
    omega

theorem signExtend_range {k n : Nat} (bound : n < 2 ^ (k + 1)) :
    -(2 ^ k : Nat) ≤ signExtend (k + 1) n ∧ signExtend (k + 1) n < (2 ^ k : Nat) := by
  have half : (2 : Nat) ^ (k + 1) = 2 ^ k * 2 := Nat.pow_succ 2 k
  rw [signExtend, Nat.add_sub_cancel]
  split <;> omega

theorem immU_eq (w : Int) : immU w = signExtend 32 (bits w 12 20 * 0x1000) := by
  have h12 := bits_lt w 12 19
  have top := bits_add w 12 19 1 (by decide)
  simp only [Nat.pow_eq, Nat.reduceAdd, Nat.reducePow] at *
  rw [immU, withSign_eq w 31 (show 0x80000000 = 2 ^ 31 from rfl) (by omega), top]
  exact congrArg (signExtend 32) (by omega)

inductive Format where
  | i | s | b | u | j
  deriving DecidableEq, Repr

structure Fields where
  opcode : Fin 0x80
  rd : Fin 0x20
  funct3 : Fin 8
  rs1 : Fin 0x20
  rs2 : Fin 0x20
  deriving DecidableEq, Repr

def Fields.ofWord (w : Int) : Fields where
  opcode := ⟨Word.opcode w, opcode_lt w⟩
  rd := ⟨Word.rd w, rd_lt w⟩
  funct3 := ⟨Word.funct3 w, funct3_lt w⟩
  rs1 := ⟨Word.rs1 w, rs1_lt w⟩
  rs2 := ⟨Word.rs2 w, rs2_lt w⟩

namespace Format

def imm : Format → Int → Int
  | i => immI
  | s => immS
  | b => immB
  | u => immU
  | j => immJ

def assemble : Format → Fields → Int → Int
  | i, f => assembleI f.opcode f.rd f.funct3 f.rs1
  | s, f => assembleS f.opcode f.funct3 f.rs1 f.rs2
  | b, f => assembleB f.opcode f.funct3 f.rs1 f.rs2
  | u, f => assembleU f.opcode f.rd
  | j, f => assembleJ f.opcode f.rd

def InRange : Format → Int → Prop
  | i, imm | s, imm => -2048 ≤ imm ∧ imm ≤ 2047
  | b, imm => -4096 ≤ imm ∧ imm ≤ 4094 ∧ imm % 2 = 0
  | u, imm => -2 ^ 31 ≤ imm ∧ imm ≤ 2 ^ 31 - 1 ∧ imm % 0x1000 = 0
  | j, imm => -2 ^ 20 ≤ imm ∧ imm ≤ 2 ^ 20 - 2 ∧ imm % 2 = 0

/-- A word has the given fields, as far as they belong to the format. -/
def Carries (f : Fields) (w : Int) : Format → Prop
  | i => opcode w = f.opcode ∧ rd w = f.rd ∧ funct3 w = f.funct3 ∧ rs1 w = f.rs1
  | s | b => opcode w = f.opcode ∧ funct3 w = f.funct3 ∧ rs1 w = f.rs1 ∧ rs2 w = f.rs2
  | u | j => opcode w = f.opcode ∧ rd w = f.rd

def slots (f : Fields) (imm : Int) : Format → List (Nat × Nat)
  | i => [(7, f.opcode), (5, f.rd), (3, f.funct3), (5, f.rs1), (12, bits imm 0 12)]
  | s => [(7, f.opcode), (5, bits imm 0 5), (3, f.funct3), (5, f.rs1), (5, f.rs2),
      (7, bits imm 5 7)]
  | b => [(7, f.opcode), (1, bits imm 11 1), (4, bits imm 1 4), (3, f.funct3), (5, f.rs1),
      (5, f.rs2), (6, bits imm 5 6), (1, bits imm 12 1)]
  | u => [(7, f.opcode), (5, f.rd), (20, bits imm 12 20)]
  | j => [(7, f.opcode), (5, f.rd), (8, bits imm 12 8), (1, bits imm 11 1), (10, bits imm 1 10),
      (1, bits imm 20 1)]

def widths : Format → List Nat
  | i => [7, 5, 3, 5, 12]
  | s => [7, 5, 3, 5, 5, 7]
  | b => [7, 1, 4, 3, 5, 5, 6, 1]
  | u => [7, 5, 20]
  | j => [7, 5, 8, 1, 10, 1]

def groups (w : Int) : Format → List (Nat × Nat)
  | i => [(12, bits w 20 12)]
  | s => [(5, bits w 7 5), (7, bits w 25 7)]
  | b => [(1, 0), (4, bits w 8 4), (6, bits w 25 6), (1, bits w 7 1), (1, bits w 31 1)]
  | u => [(12, 0), (20, bits w 12 20)]
  | j => [(1, 0), (10, bits w 21 10), (1, bits w 20 1), (8, bits w 12 8), (1, bits w 31 1)]

def groupWidths : Format → List Nat
  | i => [12]
  | s => [5, 7]
  | b => [1, 4, 6, 1, 1]
  | u => [12, 20]
  | j => [1, 10, 1, 8, 1]

def top : Format → Nat
  | i | s => 11
  | b => 12
  | u => 31
  | j => 20

def zeros : Format → Nat
  | i | s => 0
  | b | j => 1
  | u => 12

variable (format : Format) (f : Fields) (imm w : Int)

theorem assemble_eq_lay : format.assemble f imm = lay (format.slots f imm) := by
  cases format <;>
    simp only [assemble, assembleI, assembleS, assembleB, assembleU, assembleJ, slots, lay] <;>
    push_cast <;> ring

theorem slots_fit : (format.slots f imm).Forall fun slot => slot.2 < 2 ^ slot.1 := by
  have field := bits_lt imm
  cases format with
  | i => exact ⟨f.opcode.isLt, f.rd.isLt, f.funct3.isLt, f.rs1.isLt, field 0 12⟩
  | s => exact ⟨f.opcode.isLt, field 0 5, f.funct3.isLt, f.rs1.isLt, f.rs2.isLt, field 5 7⟩
  | b => exact ⟨f.opcode.isLt, field 11 1, field 1 4, f.funct3.isLt, f.rs1.isLt, f.rs2.isLt,
      field 5 6, field 12 1⟩
  | u => exact ⟨f.opcode.isLt, f.rd.isLt, field 12 20⟩
  | j => exact ⟨f.opcode.isLt, f.rd.isLt, field 12 8, field 11 1, field 1 10, field 20 1⟩

theorem map_slots : (format.slots f imm).map (·.1) = format.widths := by
  cases format <;> rfl

theorem cut_assemble : cut (format.assemble f imm) 0 format.widths = format.slots f imm := by
  rw [assemble_eq_lay, ← map_slots format f imm, cut_lay (slots_fit format f imm)]

theorem imm_eq_signExtend :
    format.imm w = signExtend format.groupWidths.sum (lay (format.groups w)) := by
  cases format <;> simp only [Format.imm, immI_eq, immS_eq, immB_eq, immU_eq, immJ_eq] <;>
    refine congrArg (signExtend _) ?_ <;> simp only [groups, lay] <;> omega

theorem groups_fit : (format.groups w).Forall fun group => group.2 < 2 ^ group.1 := by
  have field := bits_lt w
  have zero (width : Nat) : 0 < 2 ^ width := Nat.two_pow_pos width
  cases format with
  | i => exact field 20 12
  | s => exact ⟨field 7 5, field 25 7⟩
  | b => exact ⟨zero 1, field 8 4, field 25 6, field 7 1, field 31 1⟩
  | u => exact ⟨zero 12, field 12 20⟩
  | j => exact ⟨zero 1, field 21 10, field 20 1, field 12 8, field 31 1⟩

theorem map_groups : (format.groups w).map (·.1) = format.groupWidths := by
  cases format <;> rfl

theorem cut_imm : cut (format.imm w) 0 format.groupWidths = format.groups w := by
  rw [imm_eq_signExtend, cut_signExtend (Nat.zero_add _).le, ← map_groups format w,
    cut_lay (groups_fit format w)]

theorem sum_groupWidths : format.groupWidths.sum = format.top + 1 := by
  cases format <;> rfl

theorem lay_cut_groupWidths :
    lay (cut imm 0 format.groupWidths) = bits imm 0 (format.top + 1) := by
  have inside : format.top + 1 ≤ 32 := by cases format <;> decide
  rw [lay_cut imm (by rw [sum_groupWidths]; omega), sum_groupWidths]

theorem inRange_iff {format : Format} {imm : Int} : format.InRange imm ↔
    (-(2 ^ format.top : Nat) ≤ imm ∧ imm < (2 ^ format.top : Nat)) ∧
      bits imm 0 format.zeros = 0 := by
  cases format <;> simp only [InRange, top, zeros, bits, Nat.pow_eq] <;> omega

theorem carries_assemble : format.Carries f (format.assemble f imm) := by
  have read := cut_assemble format f imm
  cases format <;> simp_all [widths, cut, slots, Carries, opcode, rd, funct3, rs1, rs2]

theorem groups_assemble {imm : Int} (inRange : format.InRange imm) :
    format.groups (format.assemble f imm) = cut imm 0 format.groupWidths := by
  have read := cut_assemble format f imm
  have low := (inRange_iff.1 inRange).2
  cases format <;> simp_all [widths, cut, slots, groups, groupWidths, zeros]

theorem imm_assemble {imm : Int} (inRange : format.InRange imm) :
    format.imm (format.assemble f imm) = imm := by
  obtain ⟨lower, upper⟩ := (inRange_iff.1 inRange).1
  rw [imm_eq_signExtend, groups_assemble format f inRange, lay_cut_groupWidths, sum_groupWidths,
    signExtend_bits lower upper]

theorem inRange_imm : format.InRange (format.imm w) := by
  have whole : lay (format.groups w) < 2 ^ (format.top + 1) := by
    rw [← cut_imm, lay_cut_groupWidths]
    exact bits_lt _ _ _
  have bounds := signExtend_range whole
  rw [← sum_groupWidths, ← imm_eq_signExtend] at bounds
  refine inRange_iff.2 ⟨bounds, ?_⟩
  have read := cut_imm format w
  cases format <;> simp_all [cut, groups, groupWidths, zeros, bits]

theorem slots_ofWord : format.slots (.ofWord w) (format.imm w) = cut w 0 format.widths := by
  have read := cut_imm format w
  cases format <;>
    simp_all [widths, cut, slots, groups, groupWidths, Fields.ofWord, opcode, rd, funct3, rs1, rs2]

theorem assemble_imm : format.assemble (.ofWord w) (format.imm w) = w % 0x100000000 := by
  have whole : format.widths.sum = 32 := by cases format <;> rfl
  rw [assemble_eq_lay, slots_ofWord, lay_cut w (by omega), whole, ← low_eq_bits, low]
  omega

/-- Immediates in range, with the other fields of their format, are the same thing as words. -/
theorem imm_assemble_bijective :
    (∀ f imm, format.InRange imm →
      format.imm (format.assemble f imm) = imm ∧ format.Carries f (format.assemble f imm)) ∧
    ∀ w, format.InRange (format.imm w) ∧
      format.assemble (.ofWord w) (format.imm w) = w % 0x100000000 :=
  ⟨fun f _ inRange => ⟨imm_assemble format f inRange, carries_assemble format f _⟩,
    fun w => ⟨inRange_imm format w, assemble_imm format w⟩⟩

/-- The farthest jump back. -/
theorem imm_assemble_farthest :
    let link : Fields := ⟨0x6f, 1, 0, 0, 0⟩
    j.InRange (-0x100000) ∧ j.assemble link (-0x100000) = 0x800000ef ∧
      (j.imm (j.assemble link (-0x100000)) = -0x100000 ∧
        j.Carries link (j.assemble link (-0x100000))) ∧
      j.InRange (j.imm (-1)) ∧ j.assemble (.ofWord (-1)) (j.imm (-1)) = -1 % 0x100000000 :=
  have inRange : j.InRange (-0x100000) := ⟨by decide, by decide, by decide⟩
  ⟨inRange, by decide, (imm_assemble_bijective j).1 _ _ inRange, (imm_assemble_bijective j).2 (-1)⟩

end Format

end Disasm32.Word
