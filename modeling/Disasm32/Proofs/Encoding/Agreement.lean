import Disasm32.Proofs.Instruction.Layout

/-! The decoder beside the encoding table. Both recognise the same words under the same names,
but for shifts left whose upper function is not zero, which only the decoder accepts; and the
operands it prints are those that the table describes. Both statements need a mnemonic column
that can be laid out, and are stated with exactly that condition. -/
namespace Disasm32

open Word

/-- A shift left by a constant with bits in its upper function, which the table leaves out. -/
def LooseShift (w : Int) : Prop := opcode w = 0b0010011 ∧ funct3 w = 1 ∧ funct7 w ≠ 0

instance (w : Int) : Decidable (LooseShift w) := by
  unfold LooseShift
  infer_instance

namespace Encoding

theorem eq_of_name_slli : ∀ e ∈ table, e.name = "SLLI" → e = shiftRow "SLLI" 0x00001013 := by
  decide

theorem lenient_of_name_ne {e : Encoding} (other : e.name ≠ "SLLI") : e.lenient = e := by
  rw [lenient, if_neg other]

/-- What a row covers as the decoder reads it, it covers, or it is a loose shift. -/
theorem covers_lenient_iff {e : Encoding} (listed : e ∈ table) (w : Int) :
    e.lenient.covers w ↔ e.covers w ∨ e.name = "SLLI" ∧ LooseShift w := by
  by_cases shift : e.name = "SLLI"
  · have hc := opcode_lt w
    have hm := funct3_lt w
    rw [eq_of_name_slli e listed shift]
    simp only [covers_iff, lenient, shiftRow, if_true, and_funct3Mask, and_funct7Mask, LooseShift,
      true_and]
    omega
  · simp [lenient_of_name_ne shift, shift]

theorem not_covers_of_looseShift {e : Encoding} (listed : e ∈ table) {w : Int}
    (loose : LooseShift w) : ¬e.covers w := by
  intro covered
  obtain ⟨code, minor, upper⟩ := loose
  have lenient := (covers_lenient_iff listed w).2 (.inl covered)
  have chosen := Instruction.select?_of_covers listed lenient
  have slli := Instruction.select?_slli code minor
  have same : e.mnemonic = "slli" := congrArg Prod.snd (Option.some.inj (chosen.symm.trans slli))
  have row := eq_of_mnemonic_eq listed (f := shiftRow "SLLI" 0x00001013) (by decide) same
  have fixed := (covers_iff e w).1 covered
  simp only [row, shiftRow, and_funct7Mask, code, minor] at fixed
  omega

theorem ofWord?_eq_some {w : Int} {e : Encoding} (found : ofWord? w = some e) :
    e ∈ table ∧ e.covers w :=
  ⟨List.mem_of_find?_eq_some found, by simpa using List.find?_some found⟩

theorem ofWord?_eq_none_iff {w : Int} : ofWord? w = none ↔ ∀ e ∈ table, ¬e.covers w := by
  simp [ofWord?]

end Encoding

/-- A word whose instruction, if it has one, takes no operand. -/
def Bare (w : Int) : Prop := ∀ i, Instruction.ofWord? w = some i → i.operands = []

namespace Display

def Names (d : Display) (w : Int) (m : String) : Prop :=
  ∃ text, d.decode w = .ok (some text) ∧ (Text.words text.toList).head? = some m.toList

/-- The decoder and the table agree on a word. -/
structure AgreesOn (d : Display) (w : Int) : Prop where
  listed : ∀ e, Encoding.ofWord? w = some e → d.Names w e.mnemonic
  unlisted : Encoding.ofWord? w = none → ¬LooseShift w → d.decode w = .ok none
  loose : LooseShift w → Encoding.ofWord? w = none ∧ d.Names w "slli"

variable {d : Display} {width : Int} {w : Int} {e : Encoding}

theorem bare_iff (listed : e ∈ Encoding.table) (covered : e.lenient.covers w) :
    Bare w ↔ e.form = .bare := by
  have found := Instruction.ofWord?_eq_some_iff.2 ⟨e, listed, covered, rfl⟩
  simp only [Bare, found, Option.some.injEq, forall_eq', Encoding.instruction_eq listed,
    Form.read_eq_nil_iff]

theorem names_of_covers (columns : d.mnemonicWidth = .columns width)
    (fits : FitsColumn width ∨ Bare w) (listed : e ∈ Encoding.table)
    (covered : e.lenient.covers w) : d.Names w e.mnemonic := by
  rw [bare_iff listed covered] at fits
  exact ⟨_, decode_ok columns listed covered fits, Encoding.head?_words_lineText listed⟩

theorem agreesOn_of_fits (columns : d.mnemonicWidth = .columns width)
    (fits : FitsColumn width ∨ Bare w) : d.AgreesOn w := by
  constructor
  · intro e found
    obtain ⟨listed, covered⟩ := Encoding.ofWord?_eq_some found
    exact names_of_covers columns fits listed
      ((Encoding.covers_lenient_iff listed w).2 (.inl covered))
  · intro missing tight
    refine d.decode_of_not_covers fun e listed covered => ?_
    rcases (Encoding.covers_lenient_iff listed w).1 covered with strict | ⟨-, loose⟩
    · exact Encoding.ofWord?_eq_none_iff.1 missing e listed strict
    · exact tight loose
  · intro loose
    obtain ⟨e, listed, shift, name⟩ : ∃ e ∈ Encoding.table, e.name = "SLLI" ∧ e.mnemonic = "slli" :=
      by decide
    have covered := (Encoding.covers_lenient_iff listed w).2 (.inr ⟨shift, loose⟩)
    refine ⟨Encoding.ofWord?_eq_none_iff.2 fun f member =>
      Encoding.not_covers_of_looseShift member loose, ?_⟩
    rw [← name]
    exact names_of_covers columns fits listed covered

theorem decode_of_error_of_operands {err : TextError}
    (bad : d.mnemonicWidth.error? = some err) (operate : ¬Bare w) : d.decode w = .error err := by
  cases found : Instruction.ofWord? w with
  | none => exact absurd (fun i some => by simp [found] at some) operate
  | some i =>
    obtain ⟨e, listed, covered, -⟩ := Instruction.ofWord?_eq_some_iff.1 found
    rw [bare_iff listed covered] at operate
    exact decode_of_error bad listed covered operate

theorem decode_error_of_operands (columns : d.mnemonicWidth = .columns width)
    (bad : ¬FitsColumn width) (operate : ¬Bare w) : d.decode w = .error .columnBeyondIndex :=
  decode_of_error_of_operands (by rw [columns]; exact columnError?_of_not_fits bad) operate

/-- When the decoder answers at all. -/
theorem exists_decode_iff_error :
    (∃ text, d.decode w = .ok text) ↔ d.mnemonicWidth.error? = none ∨ Bare w := by
  constructor
  · rintro ⟨text, decoded⟩
    cases bad : d.mnemonicWidth.error? with
    | none => exact .inl rfl
    | some err =>
      refine .inr (Classical.byContradiction fun operate => ?_)
      rw [decode_of_error_of_operands bad operate] at decoded
      cases decoded
  · intro fits
    cases found : Instruction.ofWord? w with
    | none => exact ⟨none, by rw [decode, found]⟩
    | some i =>
      obtain ⟨e, listed, covered, -⟩ := Instruction.ofWord?_eq_some_iff.1 found
      rw [bare_iff listed covered] at fits
      obtain ⟨text, written⟩ : ∃ text, d.line e.mnemonic
          ((e.instruction w).operands.map d.operandText) = .ok text := by
        refine exists_line _ (fits.imp_right fun bare => ?_)
        rw [Encoding.instruction_eq listed, bare]
        rfl
      exact ⟨some text, by rw [d.decode_of_covers listed covered, written]; rfl⟩

theorem exists_decode_iff (columns : d.mnemonicWidth = .columns width) :
    (∃ text, d.decode w = .ok text) ↔ FitsColumn width ∨ Bare w := by
  rw [exists_decode_iff_error, columns, ColumnWidth.error?, columnError?_eq_none_iff]

theorem AgreesOn.exists_decode (agrees : d.AgreesOn w) : ∃ text, d.decode w = .ok text := by
  by_cases loose : LooseShift w
  · obtain ⟨-, text, decoded, -⟩ := agrees.loose loose
    exact ⟨text, decoded⟩
  cases found : Encoding.ofWord? w with
  | none => exact ⟨none, agrees.unlisted found loose⟩
  | some e =>
    obtain ⟨text, decoded, -⟩ := agrees.listed e found
    exact ⟨text, decoded⟩

/-- The decoder and the table agree on a word exactly if its column can be laid out or is not
needed; otherwise the decoder fails with the fault of the column. -/
theorem agreesOn_iff (columns : d.mnemonicWidth = .columns width) (w : Int) :
    (d.AgreesOn w ↔ FitsColumn width ∨ Bare w) ∧
      (¬FitsColumn width → ¬Bare w → d.decode w = .error .columnBeyondIndex) := by
  refine ⟨⟨?_, agreesOn_of_fits columns⟩, decode_error_of_operands columns⟩
  intro agrees
  exact (exists_decode_iff columns).1 agrees.exists_decode

/-- A loose shift in the usual column, and one that is negative. -/
theorem agreesOn_loose_shift :
    Display.mnemonicWidth {} = .columns 9 ∧ Display.AgreesOn {} 0x40309093 ∧
      Display.AgreesOn {} (-0xbfcf6f6d) ∧ Encoding.ofWord? (-0xbfcf6f6d) = none :=
  have agrees (w : Int) : Display.AgreesOn {} w := (agreesOn_iff rfl w).1.2 (.inl (by decide))
  ⟨rfl, agrees _, agrees _, by decide +kernel⟩

/-- No column begins this far to the left, although the layout would need only one blank. -/
theorem not_agreesOn_leftmost :
    ¬Display.AgreesOn { mnemonicWidth := .columns (-0x8000000000000000) } 0x00000013 := by
  have failed : Display.decode { mnemonicWidth := .columns (-0x8000000000000000) } 0x00000013 =
      .error .columnBeyondIndex := by
    decide +kernel
  intro agrees
  obtain ⟨text, decoded⟩ := agrees.exists_decode
  rw [failed] at decoded
  cases decoded

/-- What is printed for a covered word is its row's name and the operands rebuilt from the
described fields, exactly if the column can be laid out or is not needed. -/
theorem decode_eq_described_iff (columns : d.mnemonicWidth = .columns width)
    (listed : e ∈ Encoding.table) (covered : e.covers w) :
    (d.decode w = .ok (some
        (lineText width e.mnemonic ((e.form.operands (e.describe w)).map d.operandText))) ↔
      FitsColumn width ∨ e.form = .bare) ∧
    (¬FitsColumn width → e.form ≠ .bare → d.decode w = .error .columnBeyondIndex) := by
  have lenient := (Encoding.covers_lenient_iff listed w).2 (.inl covered)
  refine ⟨⟨?_, decode_ok columns listed lenient⟩, decode_error columns listed lenient⟩
  intro printed
  rw [← bare_iff listed lenient]
  exact (exists_decode_iff columns).1 ⟨_, printed⟩

/-- A store with a negative offset, with registers by their role. -/
theorem decode_eq_described_store :
    let d : Display := { registerNames := .abi }
    let e := Encoding.storeRow "SW" 0x00002023
    d.mnemonicWidth = .columns 9 ∧ e ∈ Encoding.table ∧ e.covers 0xFEA12E23 ∧
      d.decode 0xFEA12E23 = .ok (some
        (lineText 9 e.mnemonic ((e.form.operands (e.describe 0xFEA12E23)).map d.operandText))) :=
  have covered : (Encoding.storeRow "SW" 0x00002023).covers 0xFEA12E23 := by decide
  ⟨rfl, by decide, covered,
    (decode_eq_described_iff rfl (by decide) covered).1.2 (.inl (by decide))⟩

/-- The described operands of an addition that the leftmost column keeps from being printed. -/
theorem decode_ne_described_leftmost :
    let d : Display := { mnemonicWidth := .columns (-0x8000000000000000) }
    let e := Encoding.immediateRow "ADDI" 0x00000013
    e ∈ Encoding.table ∧ e.covers 0x00000013 ∧
      d.decode 0x00000013 ≠ .ok (some (lineText (-0x8000000000000000) e.mnemonic
        ((e.form.operands (e.describe 0x00000013)).map d.operandText))) := by
  intro d e
  have failed : d.decode 0x00000013 = .error .columnBeyondIndex := by decide +kernel
  refine ⟨by decide, by decide, fun printed => ?_⟩
  rw [failed] at printed
  cases printed

end Display

end Disasm32
