import Disasm32.Proofs.Encoding.Agreement
import Disasm32.Proofs.Instruction.Rendering
import Disasm32.Settings.Section

/-! The layout of decoded text. A text is a mnemonic alone, or a line: a mnemonic, blanks and two
or three operands with commas between them, of which the first begins at a column that the
width and the mnemonic fix. A line has one mnemonic, one run of blanks and one list of
operands. -/
namespace Disasm32

open Digits

structure IsPiece (p : String) : Prop where
  filled : p ≠ ""
  solid : ' ' ∉ p.toList
  whole : ',' ∉ p.toList

structure Line where
  mnemonic : String
  blanks : Nat
  operands : List String
  named : IsPiece mnemonic
  apart : 0 < blanks
  count : operands.length = 2 ∨ operands.length = 3
  pieces : ∀ p ∈ operands, IsPiece p

namespace Line

variable {l l' : Line}

def text (l : Line) : String :=
  l.mnemonic ++ String.ofList (List.replicate l.blanks ' ') ++ ", ".intercalate l.operands

def column (l : Line) : Nat := l.mnemonic.length + l.blanks

theorem operands_ne_nil (l : Line) : l.operands ≠ [] := by
  intro none
  have count := l.count
  rw [none] at count
  simp at count

theorem text_toList (l : Line) : l.text.toList = l.mnemonic.toList ++
    (List.replicate l.blanks ' ' ++ (", ".intercalate l.operands).toList) := by
  simp only [text, String.toList_append, String.toList_ofList, List.append_assoc]

theorem head?_blanks (l : Line) (cs : List Char) :
    ∀ c ∈ (List.replicate l.blanks ' ' ++ cs).head?, c = ' ' := by
  obtain ⟨k, more⟩ := Nat.exists_eq_succ_of_ne_zero (Nat.ne_of_gt l.apart)
  rw [more, List.replicate_succ]
  rintro c ⟨⟩
  rfl

theorem head?_operands (l : Line) : ∀ c ∈ (", ".intercalate l.operands).toList.head?, c ≠ ' ' := by
  obtain ⟨p, ps, whole⟩ := List.exists_cons_of_ne_nil l.operands_ne_nil
  have piece := l.pieces p (whole ▸ List.mem_cons_self)
  have filled : p.toList ≠ [] := mt String.toList_eq_nil_iff.1 piece.filled
  have front : ∃ rest, (", ".intercalate l.operands).toList = p.toList ++ rest := by
    rw [whole]
    cases ps with
    | nil => exact ⟨[], by simp⟩
    | cons q ps =>
      rw [String.intercalate_cons_cons, String.append_assoc, String.toList_append]
      exact ⟨_, rfl⟩
  obtain ⟨rest, front⟩ := front
  rw [front, List.head?_append_of_ne_nil _ filled]
  rintro c first rfl
  exact piece.solid (List.mem_of_mem_head? first)

/-- A text is laid out as a line in one way. -/
theorem text_injective : Function.Injective text := by
  intro l l' same
  have texts := congrArg String.toList same
  rw [text_toList, text_toList] at texts
  -- The mnemonic goes up to the first blank, and the blanks go up to the operands.
  have letters (l : Line) : ∀ c ∈ l.mnemonic.toList, (c != ' ') = true :=
    fun c inside => bne_iff_ne.2 fun blank => l.named.solid (blank ▸ inside)
  have stop (l : Line) (cs : List Char) :
      ∀ c ∈ (List.replicate l.blanks ' ' ++ cs).head?, (c != ' ') = false :=
    fun c first => bne_eq_false_iff_eq.2 (l.head?_blanks cs c first)
  obtain ⟨mnemonics, rest⟩ :=
    Text.append_inj_of_stop (letters l) (stop l _) (letters l') (stop l' _) texts
  have blanks (l : Line) : ∀ c ∈ List.replicate l.blanks ' ', (c == ' ') = true :=
    fun c member => beq_iff_eq.2 (List.eq_of_mem_replicate member)
  have stop' (l : Line) : ∀ c ∈ (", ".intercalate l.operands).toList.head?, (c == ' ') = false :=
    fun c first => beq_eq_false_iff_ne.2 (l.head?_operands c first)
  obtain ⟨runs, joins⟩ :=
    Text.append_inj_of_stop (blanks l) (stop' l) (blanks l') (stop' l') rest
  have widths : l.blanks = l'.blanks := by simpa using congrArg List.length runs
  have lists : l.operands = l'.operands := Text.intercalate_inj
    (iff_of_false l.operands_ne_nil l'.operands_ne_nil) (fun p member => (l.pieces p member).whole)
    (fun p member => (l'.pieces p member).whole) (String.toList_inj.1 joins)
  cases l
  cases l'
  cases String.toList_inj.1 mnemonics
  cases widths
  cases lists
  rfl

end Line

theorem isPiece_operandText (d : Display) {o : Operand} (fits : o.Fits) :
    IsPiece (d.operandText o) := by
  have absent {c : Char} (foreign : isOperandChar c = false) : c ∉ (d.operandText o).toList := by
    intro member
    rw [Display.isOperandChar_of_mem_operandText fits c member] at foreign
    cases foreign
  refine ⟨?_, absent (by decide), absent (by decide)⟩
  rw [ne_eq, ← String.toList_eq_nil_iff]
  cases o with
  | register n =>
    intro empty
    have nameless : Register.numbers.lookup "" = none := by decide +kernel
    have listed := Display.lookup_registerText (d := d) fits
    rw [show d.registerText n = "" from String.toList_eq_nil_iff.1 empty, nameless] at listed
    cases listed
  | immediate value => simpa [Display.operandText] using decimal_ne_nil value
  | literal value => simp [Display.operandText]
  | target offset => simp [Display.operandText, targetText_toList]
  | memory offset base => simp [Display.operandText]
  | csr address => simpa [Display.operandText] using Csr.name_ne_empty address

theorem Encoding.isPiece_mnemonic {e : Encoding} (listed : e ∈ table) : IsPiece e.mnemonic := by
  have plain : ∀ e ∈ table, ',' ∉ e.mnemonic.toList := by decide +kernel
  obtain ⟨filled, solid⟩ := mnemonic_solid e listed
  refine ⟨mt String.toList_eq_nil_iff.2 filled, fun blank => ?_, plain e listed⟩
  have no := List.all_eq_true.1 solid ' ' blank
  exact absurd no (by decide)

theorem Form.length_read {f : Form} {w : Int} (operate : f ≠ .bare) :
    (f.read w).length = 2 ∨ (f.read w).length = 3 := by
  cases f <;> simp at operate ⊢

def blanksAfter (width : Int) (m : String) : Nat := (width - 1).toNat - m.length + 1

theorem lineText_eq (width : Int) (m : String) {operands : List String}
    (operate : operands ≠ []) : lineText width m operands =
    m ++ String.ofList (List.replicate (blanksAfter width m) ' ') ++ ", ".intercalate operands := by
  apply String.toList_inj.1
  rw [toList_lineText operate, blanksAfter, List.replicate_succ]
  simp only [String.toList_append, String.toList_ofList, List.append_assoc, List.cons_append,
    String.length_toList]

/-- What is printed for an instruction with operands is a line. -/
theorem Encoding.exists_line {e : Encoding} (listed : e ∈ table) (operate : e.form ≠ .bare)
    (d : Display) (width w : Int) :
    ∃ l : Line, l.mnemonic = e.mnemonic ∧ l.operands = (e.form.read w).map d.operandText ∧
      l.text = lineText width e.mnemonic l.operands ∧
      (l.column : Int) = max width (l.mnemonic.length + 1) := by
  have count := Form.length_read (w := w) operate
  have pieces : ∀ p ∈ (e.form.read w).map d.operandText, IsPiece p := by
    intro p member
    obtain ⟨o, among, rfl⟩ := List.mem_map.1 member
    exact isPiece_operandText d (Form.fits_of_mem_read o among)
  let l : Line :=
    { mnemonic := e.mnemonic, blanks := blanksAfter width e.mnemonic,
      operands := (e.form.read w).map d.operandText, named := isPiece_mnemonic listed,
      apart := Nat.succ_pos _, count := by rwa [List.length_map], pieces }
  refine ⟨l, rfl, rfl, (lineText_eq width _ l.operands_ne_nil).symm, ?_⟩
  simp only [Line.column, l, blanksAfter]
  omega

def Operand.register? : Operand → Option Nat
  | .register n | .memory _ n => some n
  | .immediate _ | .literal _ | .target _ | .csr _ => none

def bareMnemonics : List String :=
  ["fence", "fence.i", "ecall", "ebreak", "uret", "sret", "mret", "wfi"]

/-- The text of an instruction, if there is one, in a column of the given width. -/
inductive LaidOut (width : Int) : Option Instruction → Option String → Prop where
  | missing : LaidOut width none none
  | bare {m : String} : m ∈ bareMnemonics → LaidOut width (some ⟨m, []⟩) (some m)
  | line {i : Instruction} {l : Line} : i.mnemonic ∉ bareMnemonics → l.mnemonic = i.mnemonic →
      l.operands.length = i.operands.length →
      (l.column : Int) = max width (l.mnemonic.length + 1) → LaidOut width (some i) (some l.text)

theorem Encoding.form_eq_bare_iff :
    ∀ e ∈ table, e.form = .bare ↔ e.mnemonic ∈ bareMnemonics := by
  decide +kernel

theorem Form.lt_of_register? {f : Form} {w : Int} {o : Operand} (member : o ∈ f.read w) {n : Nat}
    (used : o.register? = some n) : n < 0x20 := by
  have fits := fits_of_mem_read o member
  cases o with
  | register m =>
    cases used
    exact fits
  | memory offset m =>
    cases used
    exact fits.2
  | immediate | literal | target | csr => cases used

namespace Display

/-- The display with these settings, which nobody has checked. -/
def ofFields (width : Int) (names format : String) : Display :=
  { mnemonicWidth := .columns width, registerNames := .ofWord names, invalidFormat := format }

variable {d : Display} {w : Int} {text : Option String} {e : Encoding}

theorem eq_mnemonic_of_decode (listed : e ∈ Encoding.table) (covered : e.lenient.covers w)
    (bare : e.form = .bare) (decoded : d.decode w = .ok text) : text = some e.mnemonic := by
  rw [eq_lineText_of_decode listed covered decoded, bare, Form.read_bare, List.map_nil,
    lineText_nil]

theorem exists_line_of_decode (listed : e ∈ Encoding.table) (covered : e.lenient.covers w)
    (operate : e.form ≠ .bare) (decoded : d.decode w = .ok text) :
    ∃ l : Line, text = some l.text ∧ l.mnemonic = e.mnemonic ∧
      l.operands = (e.form.read w).map d.operandText ∧
      (l.column : Int) = max d.column (l.mnemonic.length + 1) := by
  obtain ⟨l, mnemonic, operands, written, column⟩ := e.exists_line listed operate d d.column w
  refine ⟨l, ?_, mnemonic, operands, column⟩
  rw [eq_lineText_of_decode listed covered decoded, written, operands]

theorem laidOut_of_decode (decoded : d.decode w = .ok text) :
    LaidOut d.column (Instruction.ofWord? w) text := by
  cases found : Instruction.ofWord? w with
  | none =>
    rw [decode, found] at decoded
    cases decoded
    exact .missing
  | some i =>
    obtain ⟨e, listed, covered, rfl⟩ := Instruction.ofWord?_eq_some_iff.1 found
    rw [Encoding.instruction_eq listed]
    by_cases bare : e.form = .bare
    · rw [eq_mnemonic_of_decode listed covered bare decoded, bare, Form.read_bare]
      exact .bare ((Encoding.form_eq_bare_iff e listed).1 bare)
    · obtain ⟨l, rfl, mnemonic, operands, column⟩ :=
        exists_line_of_decode listed covered bare decoded
      refine .line (mt (Encoding.form_eq_bare_iff e listed).2 bare) mnemonic ?_ column
      rw [operands, List.length_map]

theorem exists_register_of_mem {i : Instruction} (found : Instruction.ofWord? w = some i)
    {o : Operand} (member : o ∈ i.operands) {n : Nat} (used : o.register? = some n) :
    n < Register.abiNames.length ∧ ∃ name, d.register n = .ok name := by
  obtain ⟨e, listed, -, rfl⟩ := Instruction.ofWord?_eq_some_iff.1 found
  rw [Encoding.instruction_eq listed] at member
  have bound := Form.lt_of_register? member used
  exact ⟨Register.length_abiNames ▸ bound, _, d.register_eq bound⟩

/-- Every word has a text with the layout of its instruction exactly if the column can be laid out
or is not needed; otherwise the decoder fails with the fault of the column. The registers that
an instruction shows have names in any case. -/
theorem laidOut_iff (width : Int) (names format : String) (w : Int) :
    let d := ofFields width names format
    ((∃ text, d.decode w = .ok text ∧ LaidOut width (Instruction.ofWord? w) text) ↔
        FitsColumn width ∨ Bare w) ∧
      (¬FitsColumn width → ¬Bare w → d.decode w = .error .columnBeyondIndex) ∧
      ∀ i ∈ Instruction.ofWord? w, ∀ o ∈ i.operands, ∀ n ∈ o.register?,
        n < Register.abiNames.length ∧ ∃ name, d.register n = .ok name := by
  intro d
  have columns : d.mnemonicWidth = .columns width := rfl
  refine ⟨⟨?_, ?_⟩, decode_error_of_operands columns, ?_⟩
  · rintro ⟨text, decoded, -⟩
    exact (exists_decode_iff columns).1 ⟨text, decoded⟩
  · intro fits
    obtain ⟨text, decoded⟩ := (exists_decode_iff columns).2 fits
    exact ⟨text, decoded, laidOut_of_decode decoded⟩
  · intro i found o member n used
    exact exists_register_of_mem found member used

theorem not_bare_addition : ¬Bare 0x00000013 := by
  intro bare
  exact absurd (bare _ rfl) (List.cons_ne_nil _ _)

/-- No addition is printed in the leftmost of all columns. -/
theorem decode_leftmost (names format : String) :
    (ofFields (-0x8000000000000000) names format).decode 0x00000013 = .error .columnBeyondIndex :=
  decode_error_of_operands rfl (by decide) not_bare_addition

/-- The layout would need one blank there. -/
theorem not_laidOut_leftmost : ¬∃ text,
    (ofFields (-0x8000000000000000) "numeric" "").decode 0x00000013 = .ok text ∧
      LaidOut (-0x8000000000000000) (Instruction.ofWord? 0x00000013) text := by
  rintro ⟨text, decoded, -⟩
  rw [decode_leftmost] at decoded
  cases decoded

end Display

end Disasm32
