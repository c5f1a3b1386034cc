import Disasm32.Instruction.Decode
import Disasm32.Proofs.Encoding.Form

/-! Which bits decide what the decoder finds. Its tables read the opcode, then the minor
function, then the upper function, and at last the whole word; the rows of the encoding table
fix their bits in the same four ways. Main statement: the decoder finds exactly the instructions
of the rows, if `slli` is given the mask of the minor function (`ofWord?_eq_some_iff`). -/
namespace Disasm32

open Word Encoding

namespace Encoding

theorem and_run (n lsb width : Nat) :
    n &&& ((2 ^ width - 1) <<< lsb) = n / 2 ^ lsb % 2 ^ width * 2 ^ lsb := by
  rw [← Nat.shiftRight_eq_div_pow, ← Nat.and_two_pow_sub_one_eq_mod, ← Nat.shiftLeft_eq]
  apply Nat.eq_of_testBit_eq
  intro i
  simp only [Nat.testBit_and, Nat.testBit_shiftLeft, Nat.testBit_shiftRight]
  by_cases inside : lsb ≤ i
  · simp [inside, Nat.add_sub_cancel' inside]
  · simp [inside]

/-- A mask extended by a run of bits above it keeps one more field. -/
theorem and_extend (n mask lsb width : Nat) (below : mask < 2 ^ lsb) :
    n &&& (mask ||| (2 ^ width - 1) <<< lsb) =
      (n &&& mask) + n / 2 ^ lsb % 2 ^ width * 2 ^ lsb := by
  have bound : n &&& mask < 2 ^ lsb := Nat.lt_of_le_of_lt Nat.and_le_right below
  rw [Nat.and_or_distrib_left, and_run, Nat.or_comm, Nat.mul_comm,
    ← Nat.two_pow_add_eq_or_of_lt bound, Nat.add_comm]

theorem and_opcodeMask (w : Int) : low w &&& opcodeMask = opcode w := by
  have h := and_run (low w) 0 7
  rw [← bits_eq_low_div w (by decide)] at h
  simpa [opcodeMask, opcode] using h

theorem and_funct3Mask (w : Int) : low w &&& funct3Mask = opcode w + funct3 w * 0x1000 := by
  have h := and_extend (low w) opcodeMask 12 3 (by decide)
  rw [← bits_eq_low_div w (by decide), and_opcodeMask] at h
  exact h

theorem and_funct7Mask (w : Int) :
    low w &&& funct7Mask = opcode w + funct3 w * 0x1000 + funct7 w * 0x2000000 := by
  have h := and_extend (low w) funct3Mask 25 7 (by decide)
  rw [← bits_eq_low_div w (by decide), and_funct3Mask] at h
  exact h

theorem and_wholeMask (w : Int) : low w &&& wholeMask = low w := by
  have bound := low_lt w
  exact (Nat.and_two_pow_sub_one_eq_mod (low w) 32).trans (Nat.mod_eq_of_lt bound)

theorem covers_iff (e : Encoding) (w : Int) : e.covers w ↔ low w &&& e.mask = e.pattern := by
  simp [covers]

/-- The row as the decoder reads it: of `slli` it ignores the upper function. -/
def lenient (e : Encoding) : Encoding :=
  if e.name = "SLLI" then { e with mask := funct3Mask } else e

@[simp] theorem lenient_pattern (e : Encoding) : e.lenient.pattern = e.pattern := by
  unfold lenient
  split <;> rfl

/-- A table row with the given fixed bits, form and mnemonic. -/
def Row (mask pattern : Nat) (f : Form) (m : String) : Prop :=
  ∃ e ∈ table, e.lenient.mask = mask ∧ e.pattern = pattern ∧ e.form = f ∧ e.mnemonic = m

instance (mask pattern : Nat) (f : Form) (m : String) : Decidable (Row mask pattern f m) :=
  inferInstanceAs (Decidable (∃ e ∈ table, _))

theorem exists_of_row {mask pattern : Nat} {f : Form} {m : String} (row : Row mask pattern f m)
    {w : Int} (fixed : low w &&& mask = pattern) :
    ∃ e ∈ table, e.lenient.covers w ∧ e.form = f ∧ e.mnemonic = m := by
  obtain ⟨e, listed, rfl, rfl, rest⟩ := row
  exact ⟨e, listed, (covers_iff _ _).2 (by simpa using fixed), rest⟩

end Encoding

namespace Instruction

def byOpcode? : Nat → Option (Form × String)
  | 0b0110111 => some (.upper, "lui")
  | 0b0010111 => some (.upper, "auipc")
  | 0b1101111 => some (.jump, "jal")
  | _ => none

def byFunct3? (code minor : Nat) : Option (Form × String) :=
  match code with
  | 0b1100111 => if minor = 0 then some (.memory, "jalr") else none
  | 0b1100011 => (branchMnemonic? minor).map (.branch, ·)
  | 0b0000011 => (loadMnemonic? minor).map (.memory, ·)
  | 0b0100011 => (storeMnemonic? minor).map (.store, ·)
  | 0b0010011 =>
    if minor = 1 then some (.shift, "slli") else (constantMnemonic? minor).map (.constant, ·)
  | 0b0001111 => (fenceMnemonic? minor).map (.bare, ·)
  | 0b1110011 =>
    (csrMnemonic? minor).map (.csr, ·) <|> (csrConstantMnemonic? minor).map (.csrConstant, ·)
  | _ => none

def byFunct7? (code minor upper : Nat) : Option (Form × String) :=
  match code with
  | 0b0010011 => if minor = 5 then (shiftMnemonic? minor upper).map (.shift, ·) else none
  | 0b0110011 => (registerMnemonic? upper minor).map (.registers, ·)
  | _ => none

def byWord? (w : Int) : Option (Form × String) :=
  if opcode w = 0b1110011 ∧ funct3 w = 0 ∧ rd w = 0 ∧ rs1 w = 0 then
    (environmentMnemonic? (funct12 w)).map (.bare, ·)
  else none

def select? (w : Int) : Option (Form × String) :=
  byOpcode? (opcode w) <|> byFunct3? (opcode w) (funct3 w) <|>
    byFunct7? (opcode w) (funct3 w) (funct7 w) <|> byWord? w

theorem shiftMnemonic?_one (upper : Nat) : shiftMnemonic? 1 upper = some "slli" := rfl

theorem shiftMnemonic?_eq_none {minor : Nat} (h1 : minor ≠ 1) (h5 : minor ≠ 5) (upper : Nat) :
    shiftMnemonic? minor upper = none := by
  unfold shiftMnemonic?
  split <;> simp_all

theorem decodeConstant?_eq (w : Int) :
    decodeConstant? w =
      (byFunct3? 0b0010011 (funct3 w) <|> byFunct7? 0b0010011 (funct3 w) (funct7 w)).map
        fun choice => ⟨choice.2, choice.1.read w⟩ := by
  unfold decodeConstant? byFunct3? byFunct7?
  by_cases h1 : funct3 w = 1
  · simp [h1, constantMnemonic?, shiftMnemonic?_one]
  by_cases h5 : funct3 w = 5
  · cases hs : shiftMnemonic? 5 (funct7 w) <;> simp [h5, hs, constantMnemonic?]
  · cases hc : constantMnemonic? (funct3 w) <;> simp [h1, h5, shiftMnemonic?_eq_none h1 h5]

theorem decodeSystem?_eq (w : Int) (system : opcode w = 0b1110011) :
    decodeSystem? w =
      (byFunct3? 0b1110011 (funct3 w) <|> byWord? w).map
        fun choice => ⟨choice.2, choice.1.read w⟩ := by
  unfold decodeSystem? byFunct3? byWord?
  by_cases h0 : funct3 w = 0
  · by_cases plain : rd w = 0 ∧ rs1 w = 0 <;>
      cases environmentMnemonic? (funct12 w) <;>
      simp [system, h0, plain, csrMnemonic?, csrConstantMnemonic?]
  · cases csrMnemonic? (funct3 w) <;> cases csrConstantMnemonic? (funct3 w) <;> simp [h0]

theorem decodeBits?_eq (w : Int) :
    decodeBits? w = (select? w).map fun choice => ⟨choice.2, choice.1.read w⟩ := by
  unfold decodeBits? select?
  split
  case h_8 code => simp [code, decodeConstant?_eq, byOpcode?, byWord?]
  case h_11 code => simp [code, decodeSystem?_eq w code, byOpcode?, byFunct7?]
  case h_4 code =>
    by_cases h0 : funct3 w = 0 <;> simp [code, h0, byOpcode?, byFunct3?, byFunct7?, byWord?]
  case h_12 => simp_all [byOpcode?, byFunct3?, byFunct7?, byWord?]
  all_goals
    rename_i code
    simp [code, byOpcode?, byFunct3?, byFunct7?, byWord?, Function.comp_def]

theorem select?_low (w : Int) : select? (low w) = select? w := by
  simp only [select?, byWord?, opcode_low, funct3_low, funct7_low, rd_low, rs1_low, funct12_low]

theorem select?_slli {w : Int} (code : opcode w = 0b0010011) (minor : funct3 w = 1) :
    select? w = some (.shift, "slli") := by
  simp [select?, code, minor, byOpcode?, byFunct3?]

theorem select?_fence {w : Int} (code : opcode w = 0b0001111) :
    select? w = (fenceMnemonic? (funct3 w)).map (.bare, ·) := by
  simp [select?, code, byOpcode?, byFunct3?, byFunct7?, byWord?]

-- Every choice of the decoder is a row with the same fixed bits, and every row is chosen. Both are
-- finite once the fields are numbers, and are settled by going through the tables.

theorem row_of_byOpcode? {code : Nat} {f : Form} {m : String}
    (chosen : byOpcode? code = some (f, m)) : Row opcodeMask code f m := by
  unfold byOpcode? at chosen
  split at chosen <;> cases chosen <;> decide

theorem rows_by_funct3 :
    ∀ code ∈ [0b1100111, 0b1100011, 0b0000011, 0b0100011, 0b0010011, 0b0001111, 0b1110011],
      ∀ minor < 8, ∀ choice ∈ byFunct3? code minor,
        Row funct3Mask (code + minor * 0x1000) choice.1 choice.2 := by decide +kernel

theorem row_of_byFunct3? {code minor : Nat} (small : minor < 8) {f : Form} {m : String}
    (chosen : byFunct3? code minor = some (f, m)) : Row funct3Mask (code + minor * 0x1000) f m := by
  refine rows_by_funct3 code ?_ minor small (f, m) chosen
  unfold byFunct3? at chosen
  split at chosen
  case h_8 => cases chosen
  all_goals decide

theorem rows_by_funct7 :
    ∀ code ∈ [0b0010011, 0b0110011], ∀ minor < 8, ∀ upper < 0x80,
      ∀ choice ∈ byFunct7? code minor upper,
        Row funct7Mask (code + minor * 0x1000 + upper * 0x2000000) choice.1 choice.2 := by
  decide +kernel

theorem row_of_byFunct7? {code minor upper : Nat} (small : minor < 8) (below : upper < 0x80)
    {f : Form} {m : String} (chosen : byFunct7? code minor upper = some (f, m)) :
    Row funct7Mask (code + minor * 0x1000 + upper * 0x2000000) f m := by
  refine rows_by_funct7 code ?_ minor small upper below (f, m) chosen
  unfold byFunct7? at chosen
  split at chosen
  case h_3 => cases chosen
  all_goals decide

theorem row_of_environment {code : Nat} {m : String} (found : environmentMnemonic? code = some m) :
    Row wholeMask (0b1110011 + code * 0x100000) .bare m := by
  unfold environmentMnemonic? at found
  split at found <;> cases found <;> decide

theorem chosen_of_mem : ∀ e ∈ table,
    (e.lenient.mask = opcodeMask → byOpcode? e.pattern = some (e.form, e.mnemonic)) ∧
    (e.lenient.mask = funct3Mask → byOpcode? (e.pattern % 0x80) = none ∧
      byFunct3? (e.pattern % 0x80) (e.pattern / 0x1000) = some (e.form, e.mnemonic)) ∧
    (e.lenient.mask = funct7Mask → byOpcode? (e.pattern % 0x80) = none ∧
      byFunct3? (e.pattern % 0x80) (e.pattern / 0x1000 % 8) = none ∧
      byFunct7? (e.pattern % 0x80) (e.pattern / 0x1000 % 8) (e.pattern / 0x2000000) =
        some (e.form, e.mnemonic)) ∧
    (e.lenient.mask = wholeMask → select? e.pattern = some (e.form, e.mnemonic)) := by
  decide +kernel

theorem mask_of_mem : ∀ e ∈ table,
    e.lenient.mask ∈ [opcodeMask, funct3Mask, funct7Mask, wholeMask] := by
  decide

/-- An environment instruction has no bit beside its opcode and its twelve upper ones. -/
theorem low_of_system {w : Int} (system : opcode w = 0b1110011) (minor : funct3 w = 0)
    (target : rd w = 0) (source : rs1 w = 0) : low w = 0b1110011 + funct12 w * 0x100000 := by
  have h1 := bits_add w 0 7 25 (by decide)
  have h2 := bits_add w 7 5 20 (by decide)
  have h3 := bits_add w 12 3 17 (by decide)
  have h4 := bits_add w 15 5 12 (by decide)
  simp only [opcode, funct3, rd, rs1, funct12] at *
  simp only [Nat.reduceAdd, Nat.reducePow] at *
  rw [low_eq_bits]
  omega

theorem exists_of_select? {w : Int} {f : Form} {m : String} (chosen : select? w = some (f, m)) :
    ∃ e ∈ table, e.lenient.covers w ∧ e.form = f ∧ e.mnemonic = m := by
  simp only [select?, Option.orElse_eq_orElse, Option.orElse_eq_or, Option.or_eq_some_iff] at chosen
  rcases chosen with h | ⟨-, h | ⟨-, h | ⟨-, h⟩⟩⟩
  · exact exists_of_row (row_of_byOpcode? h) (and_opcodeMask w)
  · exact exists_of_row (row_of_byFunct3? (funct3_lt w) h) (and_funct3Mask w)
  · exact exists_of_row (row_of_byFunct7? (funct3_lt w) (funct7_lt w) h) (and_funct7Mask w)
  unfold byWord? at h
  split at h
  · rename_i plain
    obtain ⟨system, minor, target, source⟩ := plain
    obtain ⟨_, found, ⟨⟩⟩ := Option.map_eq_some_iff.1 h
    refine exists_of_row (row_of_environment found) ?_
    rw [and_wholeMask, low_of_system system minor target source]
  · cases h

theorem select?_of_covers {e : Encoding} (listed : e ∈ table) {w : Int}
    (covered : e.lenient.covers w) : select? w = some (e.form, e.mnemonic) := by
  have fixed := (covers_iff _ _).1 covered
  obtain ⟨byOpcode, byFunct3, byFunct7, byWord⟩ := chosen_of_mem e listed
  have hc := opcode_lt w
  have hm := funct3_lt w
  have hu := funct7_lt w
  rw [lenient_pattern] at fixed
  have cases := mask_of_mem e listed
  simp only [List.mem_cons, List.not_mem_nil, or_false] at cases
  rcases cases with mask | mask | mask | mask <;> rw [mask] at fixed
  · rw [and_opcodeMask] at fixed
    simp [select?, fixed, byOpcode mask]
  · rw [and_funct3Mask] at fixed
    have code : e.pattern % 0x80 = opcode w := by omega
    have minor : e.pattern / 0x1000 = funct3 w := by omega
    have chosen := byFunct3 mask
    rw [code, minor] at chosen
    simp [select?, chosen]
  · rw [and_funct7Mask] at fixed
    have code : e.pattern % 0x80 = opcode w := by omega
    have minor : e.pattern / 0x1000 % 8 = funct3 w := by omega
    have upper : e.pattern / 0x2000000 = funct7 w := by omega
    have chosen := byFunct7 mask
    rw [code, minor, upper] at chosen
    simp [select?, chosen]
  · rw [and_wholeMask] at fixed
    rw [← select?_low, fixed, byWord mask]

theorem ofWord?_congr {a b : Int} (same : low a = low b) : ofWord? a = ofWord? b := by
  rw [ofWord?, ofWord?, same]

theorem ofWord?_eq (w : Int) :
    ofWord? w = (select? w).map fun choice => ⟨choice.2, choice.1.read w⟩ := by
  rw [ofWord?, decodeBits?_eq, select?_low]
  simp only [Form.read_low]

/-- The decoder finds the instructions of the rows, and no others. -/
theorem ofWord?_eq_some_iff {w : Int} {i : Instruction} :
    ofWord? w = some i ↔ ∃ e ∈ table, e.lenient.covers w ∧ i = e.instruction w := by
  rw [ofWord?_eq, Option.map_eq_some_iff]
  constructor
  · rintro ⟨⟨f, m⟩, chosen, rfl⟩
    obtain ⟨e, listed, covered, rfl, rfl⟩ := exists_of_select? chosen
    exact ⟨e, listed, covered, (instruction_eq listed w).symm⟩
  · rintro ⟨e, listed, covered, rfl⟩
    exact ⟨_, select?_of_covers listed covered, (instruction_eq listed w).symm⟩

end Instruction

end Disasm32
