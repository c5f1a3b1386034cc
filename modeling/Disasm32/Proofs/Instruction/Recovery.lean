import Disasm32.Proofs.Encoding.Tiling
import Disasm32.Proofs.Instruction.Rendering

/-! Decoded text gives the word back. What a row does not fix its operands show, so words with
one text are the same word; only the upper function of `slli` and what stands beside the minor
function of a fence are neither fixed nor shown. -/
namespace Disasm32

open Word Encoding

/-- Shifts left that differ at most in the upper function. -/
structure SameShift (a b : Int) : Prop where
  opcodes : opcode a = 0b0010011 ∧ opcode b = 0b0010011
  minors : funct3 a = 1 ∧ funct3 b = 1
  target : rd a = rd b
  source : rs1 a = rs1 b
  amount : rs2 a = rs2 b

/-- Words of the fence opcode that have one minor function. -/
structure SameFence (a b : Int) : Prop where
  opcodes : opcode a = 0b0001111 ∧ opcode b = 0b0001111
  minors : funct3 a = funct3 b

namespace Instruction

theorem ofWord?_slli {w : Int} (code : opcode w = 0b0010011) (minor : funct3 w = 1) :
    ofWord? w = some ⟨"slli", Form.shift.read w⟩ := by
  rw [ofWord?_eq, select?_slli code minor]
  rfl

theorem ofWord?_fence {w : Int} (code : opcode w = 0b0001111) :
    ofWord? w = (fenceMnemonic? (funct3 w)).map fun m => ⟨m, []⟩ := by
  rw [ofWord?_eq, select?_fence code, Option.map_map]
  rfl

theorem ofWord?_eq_of_sameShift {a b : Int} (shift : SameShift a b) : ofWord? a = ofWord? b := by
  rw [ofWord?_slli shift.opcodes.1 shift.minors.1, ofWord?_slli shift.opcodes.2 shift.minors.2,
    Form.read_shift, Form.read_shift, shift.target, shift.source, shift.amount]

theorem ofWord?_eq_of_sameFence {a b : Int} (fence : SameFence a b) : ofWord? a = ofWord? b := by
  rw [ofWord?_fence fence.opcodes.1, ofWord?_fence fence.opcodes.2, fence.minors]

end Instruction

section

variable {a b : Int}

theorem opcode_eq_of_and_eq (fixed : low a &&& opcodeMask = low b &&& opcodeMask) :
    opcode a = opcode b := by
  rwa [and_opcodeMask, and_opcodeMask] at fixed

theorem funct3_eq_of_and_eq (fixed : low a &&& funct3Mask = low b &&& funct3Mask) :
    opcode a = opcode b ∧ funct3 a = funct3 b := by
  have ha := opcode_lt a
  have hb := opcode_lt b
  rw [and_funct3Mask, and_funct3Mask] at fixed
  omega

theorem funct7_eq_of_and_eq (fixed : low a &&& funct7Mask = low b &&& funct7Mask) :
    opcode a = opcode b ∧ funct3 a = funct3 b ∧ funct7 a = funct7 b := by
  have ha := opcode_lt a
  have hb := opcode_lt b
  have ma := funct3_lt a
  have mb := funct3_lt b
  rw [and_funct7Mask, and_funct7Mask] at fixed
  omega

def Form.mask : Form → Nat
  | .upper | .jump => opcodeMask
  | .constant | .memory | .store | .branch | .csr | .csrConstant => funct3Mask
  | .registers | .shift => funct7Mask
  | .bare => wholeMask

/-- Every bit of a word is in the mask of the form or in an operand. -/
theorem Form.low_eq_of_read_eq (f : Form) (fixed : low a &&& f.mask = low b &&& f.mask)
    (same : f.read a = f.read b) : low a = low b := by
  cases f <;> simp only [read_registers, read_shift, read_constant, read_memory, read_store,
    read_branch, read_upper, read_jump, read_csr, read_csrConstant, read_bare, List.cons.injEq,
    Operand.register.injEq, Operand.immediate.injEq, Operand.literal.injEq, Operand.target.injEq,
    Operand.memory.injEq, Operand.csr.injEq, Int.natCast_inj, and_true] at same
  -- The fixed fields, then those of the operands, then all of them in the order of the form.
  case registers =>
    obtain ⟨code, minor, upper⟩ := funct7_eq_of_and_eq fixed
    obtain ⟨target, first, second⟩ := same
    have all : _ ∧ _ ∧ _ ∧ _ ∧ _ ∧ _ := ⟨code, target, minor, first, second, upper⟩
    exact low_eq_of_fields_eq .registers all
  case shift =>
    obtain ⟨code, minor, upper⟩ := funct7_eq_of_and_eq fixed
    obtain ⟨target, source, amount⟩ := same
    have all : _ ∧ _ ∧ _ ∧ _ ∧ _ ∧ _ := ⟨code, target, minor, source, amount, upper⟩
    exact low_eq_of_fields_eq .shift all
  case constant =>
    obtain ⟨code, minor⟩ := funct3_eq_of_and_eq fixed
    obtain ⟨target, source, immediate⟩ := same
    have all : _ ∧ _ ∧ _ ∧ _ ∧ _ := ⟨code, target, minor, source, bits_eq_of_immI_eq immediate⟩
    exact low_eq_of_fields_eq .constant all
  case memory =>
    obtain ⟨code, minor⟩ := funct3_eq_of_and_eq fixed
    obtain ⟨target, offset, base⟩ := same
    have all : _ ∧ _ ∧ _ ∧ _ ∧ _ := ⟨code, target, minor, base, bits_eq_of_immI_eq offset⟩
    exact low_eq_of_fields_eq .memory all
  case store =>
    obtain ⟨code, minor⟩ := funct3_eq_of_and_eq fixed
    obtain ⟨source, offset, base⟩ := same
    obtain ⟨upper, lower⟩ := bits_eq_of_immS_eq offset
    have all : _ ∧ _ ∧ _ ∧ _ ∧ _ ∧ _ := ⟨code, lower, minor, base, source, upper⟩
    exact low_eq_of_fields_eq .store all
  case branch =>
    obtain ⟨code, minor⟩ := funct3_eq_of_and_eq fixed
    obtain ⟨first, second, offset⟩ := same
    obtain ⟨sign, eleventh, upper, lower⟩ := bits_eq_of_immB_eq offset
    have all : _ ∧ _ ∧ _ ∧ _ ∧ _ ∧ _ ∧ _ ∧ _ :=
      ⟨code, eleventh, lower, minor, first, second, upper, sign⟩
    exact low_eq_of_fields_eq .branch all
  case upper =>
    have code := opcode_eq_of_and_eq fixed
    obtain ⟨target, immediate⟩ := same
    have all : _ ∧ _ ∧ _ := ⟨code, target, bits_eq_of_immU_eq immediate⟩
    exact low_eq_of_fields_eq .upper all
  case jump =>
    have code := opcode_eq_of_and_eq fixed
    obtain ⟨target, offset⟩ := same
    obtain ⟨sign, middle, eleventh, lower⟩ := bits_eq_of_immJ_eq offset
    have all : _ ∧ _ ∧ _ ∧ _ ∧ _ ∧ _ := ⟨code, target, middle, eleventh, lower, sign⟩
    exact low_eq_of_fields_eq .jump all
  case csr =>
    obtain ⟨code, minor⟩ := funct3_eq_of_and_eq fixed
    obtain ⟨target, address, source⟩ := same
    have all : _ ∧ _ ∧ _ ∧ _ ∧ _ := ⟨code, target, minor, source, bits_eq_of_immI_eq address⟩
    exact low_eq_of_fields_eq .csr all
  case csrConstant =>
    obtain ⟨code, minor⟩ := funct3_eq_of_and_eq fixed
    obtain ⟨target, address, immediate⟩ := same
    have all : _ ∧ _ ∧ _ ∧ _ ∧ _ := ⟨code, target, minor, immediate, bits_eq_of_immI_eq address⟩
    exact low_eq_of_fields_eq .csrConstant all
  case bare =>
    rwa [mask, and_wholeMask, and_wholeMask] at fixed

end

namespace Encoding

/-- A row that fixes less than its form's mask is `slli` or a fence. -/
theorem mask_eq_or : ∀ e ∈ table, e.lenient.mask = e.form.mask ∨
    e.lenient.mask = funct3Mask ∧
      (e.form = .shift ∧ e.pattern = 0x1013 ∨ e.form = .bare ∧ e.pattern % 0x80 = 0b0001111) := by
  decide

theorem and_eq_of_covers {e : Encoding} {a b : Int} (ha : e.lenient.covers a)
    (hb : e.lenient.covers b) : low a &&& e.lenient.mask = low b &&& e.lenient.mask := by
  rw [(covers_iff _ a).1 ha, (covers_iff _ b).1 hb]

theorem same_of_read_eq {e : Encoding} (listed : e ∈ table) {a b : Int} (ha : e.lenient.covers a)
    (hb : e.lenient.covers b) (same : e.form.read a = e.form.read b) :
    low a = low b ∨ SameShift a b ∨ SameFence a b := by
  have fixed := and_eq_of_covers ha hb
  rcases mask_eq_or e listed with mask | ⟨mask, loose⟩
  · rw [mask] at fixed
    exact .inl (e.form.low_eq_of_read_eq fixed same)
  · rw [mask] at fixed
    obtain ⟨codes, minors⟩ := funct3_eq_of_and_eq fixed
    -- the pattern tells which kind of looser row it is
    have pattern := (covers_iff _ a).1 ha
    have bound := opcode_lt a
    rw [mask, lenient_pattern, and_funct3Mask] at pattern
    rcases loose with ⟨form, shift⟩ | ⟨-, fence⟩
    · rw [form, Form.read_shift, Form.read_shift] at same
      simp only [List.cons.injEq, Operand.register.injEq, Operand.immediate.injEq, Int.natCast_inj,
        and_true] at same
      obtain ⟨target, source, amount⟩ := same
      exact .inr (.inl ⟨by omega, by omega, target, source, amount⟩)
    · exact .inr (.inr ⟨by omega, minors⟩)

end Encoding

namespace Display

variable {d : Display} {w a b : Int} {text : String}

/-- A text comes from a row that covers the word. -/
theorem exists_of_decode_eq_some (printed : d.decode w = .ok (some text)) :
    ∃ e ∈ Encoding.table, e.lenient.covers w ∧
      text = lineText d.column e.mnemonic ((e.form.read w).map d.operandText) := by
  cases found : Instruction.ofWord? w with
  | none =>
    rw [decode, found] at printed
    cases printed
  | some i =>
    obtain ⟨e, listed, covered, -⟩ := Instruction.ofWord?_eq_some_iff.1 found
    exact ⟨e, listed, covered, Option.some.inj (eq_lineText_of_decode listed covered printed)⟩

theorem same_of_decode_eq (ha : d.decode a = .ok (some text)) (hb : d.decode b = .ok (some text)) :
    low a = low b ∨ SameShift a b ∨ SameFence a b := by
  obtain ⟨e, he, covered, line⟩ := exists_of_decode_eq_some ha
  obtain ⟨f, hf, covered', line'⟩ := exists_of_decode_eq_some hb
  rw [line] at line'
  obtain rfl := Encoding.eq_of_mnemonic_eq he hf (mnemonic_eq_of_lineText_eq he hf line')
  exact Encoding.same_of_read_eq he covered covered' (Form.read_eq_of_lineText_eq line')

/-- Two words have one text only if they are the same word, or shifts left that differ in the
upper function, or fences that differ beside the minor function. -/
theorem decode_eq_decode_iff (printed : d.decode a = .ok (some text)) (b : Int) :
    d.decode a = d.decode b ↔
      a % 0x100000000 = b % 0x100000000 ∨ SameShift a b ∨ SameFence a b := by
  rw [← low_eq_low_iff]
  constructor
  · intro same
    exact same_of_decode_eq printed (same ▸ printed)
  · rintro (same | shift | fence)
    · exact d.decode_congr (Instruction.ofWord?_congr same)
    · exact d.decode_congr (Instruction.ofWord?_eq_of_sameShift shift)
    · exact d.decode_congr (Instruction.ofWord?_eq_of_sameFence fence)

/-- A shift left beside one with a bit in its upper function. -/
theorem decode_eq_decode_shift :
    ({} : Display).decode 0x00309093 = .ok (some "slli     x1, x1, 3") ∧
      (({} : Display).decode 0x00309093 = ({} : Display).decode 0x40309093 ↔
        (0x00309093 : Int) % 0x100000000 = 0x40309093 % 0x100000000 ∨
          SameShift 0x00309093 0x40309093 ∨ SameFence 0x00309093 0x40309093) :=
  have printed : ({} : Display).decode 0x00309093 = .ok (some "slli     x1, x1, 3") := by
    decide +kernel
  ⟨printed, decode_eq_decode_iff printed 0x40309093⟩

end Display

end Disasm32
