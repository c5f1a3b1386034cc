import Disasm32.Instruction.Text
import Disasm32.Proofs.Encoding.Selection
import Disasm32.Proofs.Number.Reading
import Disasm32.Proofs.Text.Tokens

/-! The text of an instruction whose operands come from a word. Such operands can always be
written; what can fail is the column of the mnemonic, which is needed only before operands. -/
namespace Disasm32

open Word

/-- An operand as the fields of a word bound it. -/
def Operand.Fits : Operand → Prop
  | .register number => number < 0x20
  | .memory offset base => offset.natAbs < 0x1000 ∧ base < 0x20
  | .csr address => ∃ n < 0x1000, address = signExtend 12 n
  | .immediate _ | .literal _ | .target _ => True

theorem Form.fits_of_mem_read {f : Form} {w : Int} : ∀ o ∈ f.read w, o.Fits := by
  have target := rd_lt w
  have first := rs1_lt w
  have second := rs2_lt w
  have offset (n : Nat) (bound : n < 0x1000) : (signExtend 12 n).natAbs < 0x1000 :=
    natAbs_signExtend_lt bound
  have immediate := bits_lt w 20 12
  have upper := bits_lt w 25 7
  have lower := bits_lt w 7 5
  simp only [Nat.pow_eq, Nat.reducePow] at immediate upper lower
  cases f <;> simp only [read_registers, read_shift, read_constant, read_memory, read_store,
    read_branch, read_upper, read_jump, read_csr, read_csrConstant, read_bare, List.forall_mem_cons,
    List.not_mem_nil, false_implies, implies_true, Operand.Fits, and_true, target, first, second,
    true_and]
  · rw [immI_eq]
    exact offset _ immediate
  · rw [immS_eq]
    exact offset _ (by omega)
  all_goals exact ⟨_, immediate, immI_eq w⟩

namespace Display

def registerText (d : Display) (n : Nat) : String :=
  match d.registerNames with
  | .numeric => Register.numericName n
  | .abi => Register.abiNames.getD n ""

def operandText (d : Display) : Operand → String
  | .register n => d.registerText n
  | .immediate value => String.ofList (Digits.decimal value)
  | .literal value => "0x" ++ String.ofList (Digits.hex 8 value)
  | .target offset => targetText offset
  | .memory offset base =>
    String.ofList (Digits.decimal offset) ++ "(" ++ d.registerText base ++ ")"
  | .csr address => Csr.name address

theorem register_eq (d : Display) {n : Nat} (bound : n < 0x20) :
    d.register n = .ok (d.registerText n) := by
  unfold register registerText
  cases d.registerNames with
  | numeric => rw [Literal.isWritable_of_lt (by omega), if_pos rfl]
  | abi =>
    have inside : n < Register.abiNames.length := Register.length_abiNames ▸ bound
    simp only [Register.abiName]
    rw [Index.get_natCast (by unfold Index.greatest; omega) inside,
      List.getD_eq_getElem?_getD, List.getElem?_eq_getElem inside]
    rfl

theorem operand_eq (d : Display) {o : Operand} (fits : o.Fits) :
    d.operand o = .ok (d.operandText o) := by
  cases o with
  | register n => exact d.register_eq fits
  | memory offset base =>
    have writable := Literal.isWritable_of_lt (Nat.lt_trans fits.1 (by decide))
    simp only [operand, memory, writable, d.register_eq fits.2]
    rfl
  | immediate | literal | target | csr => rfl

theorem mapM_operand (d : Display) {operands : List Operand} (fits : ∀ o ∈ operands, o.Fits) :
    operands.mapM d.operand = .ok (operands.map d.operandText) := by
  induction operands with
  | nil => rfl
  | cons o operands ih =>
    rw [List.mapM_cons, d.operand_eq (fits o List.mem_cons_self),
      ih fun p member => fits p (List.mem_cons_of_mem _ member)]
    rfl

theorem text_eq (d : Display) {m : String} {operands : List Operand}
    (fits : ∀ o ∈ operands, o.Fits) :
    Instruction.text ⟨m, operands⟩ d = d.line m (operands.map d.operandText) := by
  rw [Instruction.text, d.mapM_operand fits]
  rfl

end Display

def ColumnWidth.error? : ColumnWidth → Option TextError
  | .columns width => columnError? width
  | .real _ => some .columnWidth

/-- The mnemonic in a column of the given width and the operands after it. -/
def lineText (width : Int) (m : String) (operands : List String) : String :=
  if operands = [] then m else mnemonicColumn width m ++ ", ".intercalate operands

@[simp] theorem lineText_nil (width : Int) (m : String) : lineText width m [] = m := if_pos rfl

namespace Display

variable {d : Display} {width : Int}

theorem line_ok (columns : d.mnemonicWidth = .columns width) (m : String)
    {operands : List String} (fits : FitsColumn width ∨ operands = []) :
    d.line m operands = .ok (lineText width m operands) := by
  by_cases bare : operands = []
  · simp [line, lineText, bare]
  · have sound := columnError?_eq_none_iff.2 (fits.resolve_right bare)
    simp [line, lineText, bare, columns, sound]

theorem exists_line (m : String) {operands : List String}
    (fits : d.mnemonicWidth.error? = none ∨ operands = []) :
    ∃ text, d.line m operands = .ok text := by
  by_cases bare : operands = []
  · exact ⟨m, by simp [line, bare]⟩
  · have sound := fits.resolve_right bare
    cases width : d.mnemonicWidth with
    | columns n =>
      rw [width] at sound
      exact ⟨_, line_ok width m (.inl (columnError?_eq_none_iff.1 sound))⟩
    | real x =>
      rw [width] at sound
      cases sound

theorem line_error {err : TextError} (bad : d.mnemonicWidth.error? = some err) (m : String)
    {operands : List String} (some : operands ≠ []) : d.line m operands = .error err := by
  cases width : d.mnemonicWidth with
  | columns n =>
    rw [width, ColumnWidth.error?] at bad
    simp [line, some, width, bad]
  | real x =>
    rw [width] at bad
    cases bad
    simp [line, some, width]

/-- The column of the operands; with a real width there are no lines that need one. -/
def column (d : Display) : Int :=
  match d.mnemonicWidth with
  | .columns width => width
  | .real _ => 0

/-- A line that can be written is laid out in the display's column. -/
theorem eq_lineText_of_line {m : String} {operands : List String} {text : String}
    (written : d.line m operands = .ok text) : text = lineText d.column m operands := by
  unfold line at written
  by_cases bare : operands = []
  · rw [if_pos (List.isEmpty_iff.2 bare)] at written
    rw [lineText, if_pos bare, Except.ok.inj written]
  · rw [if_neg (mt List.isEmpty_iff.1 bare)] at written
    rw [lineText, if_neg bare, column]
    cases columns : d.mnemonicWidth with
    | columns width =>
      simp only [columns] at written
      split at written
      · exact (Except.ok.inj written).symm
      · cases written
    | real x =>
      rw [columns] at written
      cases written

theorem decode_congr (d : Display) {a b : Int}
    (same : Instruction.ofWord? a = Instruction.ofWord? b) : d.decode a = d.decode b := by
  rw [decode, decode, same]

/-- A word that a row covers has the text of the row's instruction. -/
theorem decode_of_covers (d : Display) {e : Encoding} (listed : e ∈ Encoding.table) {w : Int}
    (covered : e.lenient.covers w) :
    d.decode w = (d.line e.mnemonic ((e.instruction w).operands.map d.operandText)).map some := by
  have found := Instruction.ofWord?_eq_some_iff.2 ⟨e, listed, covered, rfl⟩
  have written := d.text_eq (m := e.mnemonic) (Form.fits_of_mem_read (f := e.form) (w := w))
  simp only [decode, found, Encoding.instruction_eq listed, written]

theorem decode_of_not_covers (d : Display) {w : Int}
    (uncovered : ∀ e ∈ Encoding.table, ¬e.lenient.covers w) : d.decode w = .ok none := by
  cases found : Instruction.ofWord? w with
  | none => rw [decode, found]
  | some i =>
    obtain ⟨e, listed, covered, -⟩ := Instruction.ofWord?_eq_some_iff.1 found
    exact absurd covered (uncovered e listed)

end Display

theorem Form.read_eq_nil_iff {f : Form} {w : Int} : f.read w = [] ↔ f = .bare := by
  cases f <;> simp

namespace Display

variable {d : Display} {width : Int} {e : Encoding} {w : Int}

theorem decode_ok (columns : d.mnemonicWidth = .columns width) (listed : e ∈ Encoding.table)
    (covered : e.lenient.covers w) (fits : FitsColumn width ∨ e.form = .bare) :
    d.decode w = .ok (some
      (lineText width e.mnemonic ((e.form.operands (e.describe w)).map d.operandText))) := by
  rw [d.decode_of_covers listed covered, line_ok columns]
  · rfl
  · refine fits.imp_right fun bare => ?_
    rw [Encoding.instruction_eq listed, bare]
    rfl

theorem decode_of_error {err : TextError} (bad : d.mnemonicWidth.error? = some err)
    (listed : e ∈ Encoding.table) (covered : e.lenient.covers w) (operate : e.form ≠ .bare) :
    d.decode w = .error err := by
  rw [d.decode_of_covers listed covered, line_error bad]
  · rfl
  · rw [Encoding.instruction_eq listed]
    simpa [Form.read_eq_nil_iff] using operate

theorem decode_error (columns : d.mnemonicWidth = .columns width) (listed : e ∈ Encoding.table)
    (covered : e.lenient.covers w) (bad : ¬FitsColumn width) (operate : e.form ≠ .bare) :
    d.decode w = .error .columnBeyondIndex :=
  decode_of_error (by rw [columns]; exact columnError?_of_not_fits bad) listed covered operate

end Display

namespace Display

/-- What is printed for a covered word, whatever the width of the column. -/
theorem eq_lineText_of_decode {d : Display} {e : Encoding} {w : Int} {text : Option String}
    (listed : e ∈ Encoding.table) (covered : e.lenient.covers w) (decoded : d.decode w = .ok text) :
    text = some (lineText d.column e.mnemonic ((e.form.read w).map d.operandText)) := by
  rw [d.decode_of_covers listed covered, Encoding.instruction_eq listed] at decoded
  cases written : d.line e.mnemonic ((e.form.read w).map d.operandText) with
  | ok line =>
    rw [written] at decoded
    rw [← eq_lineText_of_line written]
    exact (Except.ok.inj decoded).symm
  | error err =>
    rw [written] at decoded
    cases decoded

end Display

theorem toList_lineText {width : Int} {m : String} {operands : List String}
    (operate : operands ≠ []) :
    (lineText width m operands).toList =
      m.toList ++ ' ' :: (List.replicate ((width - 1).toNat - m.toList.length) ' ' ++
        (", ".intercalate operands).toList) := by
  have turned (k : Nat) (cs : List Char) :
      List.replicate k ' ' ++ ' ' :: cs = ' ' :: (List.replicate k ' ' ++ cs) := by
    rw [List.append_cons, ← List.replicate_succ', List.replicate_succ, List.cons_append]
  simp only [lineText, if_neg operate, mnemonicColumn, Digits.padRight, String.toList_append,
    String.toList_ofList, List.append_assoc]
  exact congrArg (m.toList ++ ·) (turned _ _)

namespace Encoding

theorem mnemonic_solid : ∀ e ∈ table, e.mnemonic.toList ≠ [] ∧
    e.mnemonic.toList.all (!Text.isBlank ·) = true := by decide +kernel

/-- A line begins with its mnemonic, whatever the column and the operands. -/
theorem head?_words_lineText {e : Encoding} (listed : e ∈ table) {width : Int}
    {operands : List String} :
    (Text.words (lineText width e.mnemonic operands).toList).head? = some e.mnemonic.toList := by
  obtain ⟨filled, solid⟩ := mnemonic_solid e listed
  by_cases operate : operands = []
  · rw [lineText, if_pos operate, Text.words_of_not_blank filled solid]
    rfl
  · rw [toList_lineText operate, Text.words_append_cons (by decide),
      Text.words_of_not_blank filled solid]
    rfl

end Encoding

end Disasm32
