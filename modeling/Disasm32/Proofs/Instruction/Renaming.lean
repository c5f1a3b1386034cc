import Disasm32.Proofs.Instruction.Lines
import Mathlib.Data.List.Forall2

/-! One word under two displays. The mnemonic and the number of operands are the same, and
operands differ at most in the name of a register, which stands alone or as the base of a place
in memory; shift amounts and the constants of control registers, which come from the fields
of registers, are no such names. -/
namespace Disasm32

open Digits

def SameRegister (a b : String) : Prop :=
  ∃ n, Register.numbers.lookup a = some n ∧ Register.numbers.lookup b = some n

/-- Operands that are the same but for the name of a register. -/
inductive Renamed : String → String → Prop where
  | refl (p : String) : Renamed p p
  | register {a b : String} : SameRegister a b → Renamed a b
  | base {a b : String} (offset : Int) : SameRegister a b →
      Renamed (String.ofList (decimal offset) ++ "(" ++ a ++ ")")
        (String.ofList (decimal offset) ++ "(" ++ b ++ ")")

/-- Texts that differ at most in the blanks after the mnemonic and in related operands. -/
inductive SameUpTo (r : String → String → Prop) : Option String → Option String → Prop where
  | missing : SameUpTo r none none
  | bare {m : String} : m ∈ bareMnemonics → SameUpTo r (some m) (some m)
  | line {l l' : Line} : l.mnemonic = l'.mnemonic → List.Forall₂ r l.operands l'.operands →
      SameUpTo r (some l.text) (some l'.text)

namespace Display

variable {d d' : Display} {w : Int}

theorem sameRegister_registerText (d d' : Display) {n : Nat} (bound : n < 0x20) :
    SameRegister (d.registerText n) (d'.registerText n) :=
  ⟨n, lookup_registerText bound, lookup_registerText bound⟩

theorem renamed_operandText (d d' : Display) {o : Operand} (fits : o.Fits) :
    Renamed (d.operandText o) (d'.operandText o) := by
  cases o with
  | register n => exact .register (sameRegister_registerText d d' fits)
  | memory offset base => exact .base offset (sameRegister_registerText d d' fits.2)
  | immediate | literal | target | csr => exact .refl _

theorem operandText_congr (names : d.registerNames = d'.registerNames) (o : Operand) :
    d.operandText o = d'.operandText o := by
  have registers (n : Nat) : d.registerText n = d'.registerText n := by
    rw [registerText, registerText, names]
  cases o with
  | register n => exact registers n
  | memory offset base => rw [operandText, operandText, registers]
  | immediate | literal | target | csr => rfl

theorem decode_eq_none_iff (d : Display) (w : Int) :
    d.decode w = .ok none ↔ Instruction.ofWord? w = none := by
  constructor
  · intro decoded
    cases found : Instruction.ofWord? w with
    | none => rfl
    | some i =>
      obtain ⟨e, listed, covered, -⟩ := Instruction.ofWord?_eq_some_iff.1 found
      cases eq_lineText_of_decode listed covered decoded
  · intro missing
    rw [decode, missing]

/-- Two displays show the same line up to what relates their operands. -/
theorem sameUpTo_of_decode {r : String → String → Prop} {text text' : Option String}
    (related : ∀ o : Operand, o.Fits → r (d.operandText o) (d'.operandText o))
    (decoded : d.decode w = .ok text) (decoded' : d'.decode w = .ok text') :
    SameUpTo r text text' := by
  cases found : Instruction.ofWord? w with
  | none =>
    cases decoded.symm.trans ((d.decode_eq_none_iff w).2 found)
    cases decoded'.symm.trans ((d'.decode_eq_none_iff w).2 found)
    exact .missing
  | some i =>
    obtain ⟨e, listed, covered, -⟩ := Instruction.ofWord?_eq_some_iff.1 found
    by_cases bare : e.form = .bare
    · rw [eq_mnemonic_of_decode listed covered bare decoded,
        eq_mnemonic_of_decode listed covered bare decoded']
      exact .bare ((Encoding.form_eq_bare_iff e listed).1 bare)
    · obtain ⟨l, rfl, mnemonic, operands, -⟩ := exists_line_of_decode listed covered bare decoded
      obtain ⟨l', rfl, mnemonic', operands', -⟩ :=
        exists_line_of_decode listed covered bare decoded'
      refine .line (mnemonic.trans mnemonic'.symm) ?_
      rw [operands, operands', List.forall₂_map_left_iff, List.forall₂_map_right_iff,
        List.forall₂_same]
      exact fun o member => related o (Form.fits_of_mem_read o member)

/-- Two displays show a word with the same mnemonic and operands, but for the names of registers,
exactly if both columns can be laid out or none is needed; with the same names, only blanks differ.
Whether the word is an instruction does not depend on the display, and the text does not depend
on the message for other words. -/
theorem sameUpTo_iff (width width' : Int) (names names' format format' : String) (w : Int) :
    let d := ofFields width names format
    let d' := ofFields width' names' format'
    ((∃ text text', d.decode w = .ok text ∧ d'.decode w = .ok text' ∧
          SameUpTo Renamed text text' ∧
          (d.registerNames = d'.registerNames → SameUpTo Eq text text')) ↔
        FitsColumn width ∧ FitsColumn width' ∨ Bare w) ∧
      (¬FitsColumn width → ¬Bare w → d.decode w = .error .columnBeyondIndex) ∧
      (d.decode w = .ok none ↔ d'.decode w = .ok none) ∧
      (ofFields width names format').decode w = d.decode w := by
  intro d d'
  have answers : (∃ text, d.decode w = .ok text) ↔ FitsColumn width ∨ Bare w :=
    exists_decode_iff rfl
  have answers' : (∃ text, d'.decode w = .ok text) ↔ FitsColumn width' ∨ Bare w :=
    exists_decode_iff rfl
  refine ⟨⟨?_, ?_⟩, decode_error_of_operands rfl, ?_, rfl⟩
  · rintro ⟨text, text', decoded, decoded', -⟩
    exact and_or_right.2 ⟨answers.1 ⟨text, decoded⟩, answers'.1 ⟨text', decoded'⟩⟩
  · intro fits
    obtain ⟨text, decoded⟩ := answers.2 (and_or_right.1 fits).1
    obtain ⟨text', decoded'⟩ := answers'.2 (and_or_right.1 fits).2
    refine ⟨text, text', decoded, decoded', ?_, fun names => ?_⟩
    · exact sameUpTo_of_decode (fun o fits => renamed_operandText d d' fits) decoded decoded'
    · exact sameUpTo_of_decode (fun o _ => operandText_congr names o) decoded decoded'
  · rw [decode_eq_none_iff, decode_eq_none_iff]

/-- The leftmost of all columns has no text to compare with that of the usual one. -/
theorem not_sameUpTo_leftmost : ¬∃ text text',
    (ofFields (-0x8000000000000000) "numeric" "").decode 0x00000013 = .ok text ∧
      (ofFields 9 "numeric" "").decode 0x00000013 = .ok text' ∧ SameUpTo Renamed text text' := by
  rintro ⟨text, text', decoded, -, -⟩
  rw [decode_leftmost] at decoded
  cases decoded

end Display

end Disasm32
