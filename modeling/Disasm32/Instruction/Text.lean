import Disasm32.Csr
import Disasm32.Display
import Disasm32.Instruction.Decode
import Disasm32.Number.Literal

/-! An instruction as a line of assembly: the mnemonic, blanks up to the operand column but at least
one, and the operands with commas between them. An instruction without operands is its mnemonic. -/
namespace Disasm32

inductive TextError where
  /-- No register has that number and a role. -/
  | registerNumber (cause : Index.Error)
  /-- An integer has more decimal digits than are written. -/
  | decimalTooLong
  /-- The width of the mnemonic column is a real number. -/
  | columnWidth
  /-- The width of the mnemonic column is beyond every index. -/
  | columnBeyondIndex
  deriving DecidableEq, Repr

def TextError.message : TextError → String
  | .registerNumber cause => cause.message
  | .decimalTooLong => Literal.limitMessage ""
  | .columnWidth => "'float' object cannot be interpreted as an integer"
  | .columnBeyondIndex => "Python int too large to convert to C ssize_t"

def Display.register (d : Display) (n : Int) : Except TextError String :=
  match d.registerNames with
  | .numeric =>
    if Literal.isWritable n then .ok (Register.numericName n) else .error .decimalTooLong
  | .abi => (Register.abiName n).mapError .registerNumber

/-- A distance from the instruction itself, with its sign and at least eight digits. -/
def targetText (offset : Int) : String :=
  (if offset < 0 then ".-0x" else ".+0x") ++ String.ofList (Digits.hex 8 offset.natAbs)

def Display.memory (d : Display) (offset base : Int) : Except TextError String := do
  if !Literal.isWritable offset then throw .decimalTooLong
  let name ← d.register base
  return String.ofList (Digits.decimal offset) ++ "(" ++ name ++ ")"

def Display.operand (d : Display) : Operand → Except TextError String
  | .register n => d.register n
  | .immediate value => .ok (String.ofList (Digits.decimal value))
  | .literal value => .ok ("0x" ++ String.ofList (Digits.hex 8 value))
  | .target offset => .ok (targetText offset)
  | .memory offset base => d.memory offset base
  | .csr address => .ok (Csr.name address)

/-- What is wrong with the width of a column in which mnemonics are padded, if anything. They are
padded to one character less, and to no length that is no index. -/
def columnError? (width : Int) : Option TextError :=
  if Index.fits (width - 1) then none else some .columnBeyondIndex

/-- The widths of columns in which mnemonics can be padded. -/
def FitsColumn (width : Int) : Prop :=
  -0x8000000000000000 < width ∧ width ≤ 0x8000000000000000

instance (width : Int) : Decidable (FitsColumn width) := inferInstanceAs (Decidable (_ ∧ _))

theorem columnError?_eq_none_iff {width : Int} : columnError? width = none ↔ FitsColumn width := by
  simp only [columnError?, ite_eq_left_iff, reduceCtorEq, imp_false, Decidable.not_not,
    Index.fits, Bool.and_eq_true, decide_eq_true_eq, FitsColumn]
  omega

theorem columnError?_of_not_fits {width : Int} (bad : ¬FitsColumn width) :
    columnError? width = some .columnBeyondIndex := by
  rw [← columnError?_eq_none_iff] at bad
  unfold columnError? at *
  split
  · rename_i fits
    exact absurd (if_pos fits) bad
  · rfl

def mnemonicColumn (width : Int) (mnemonic : String) : String :=
  String.ofList (Digits.padRight ' ' (width - 1).toNat mnemonic.toList) ++ " "

/-- A mnemonic with operands that are already written. -/
def Display.line (d : Display) (mnemonic : String) (operands : List String) :
    Except TextError String :=
  if operands.isEmpty then .ok mnemonic
  else match d.mnemonicWidth with
    | .columns width => match columnError? width with
      | none => .ok (mnemonicColumn width mnemonic ++ ", ".intercalate operands)
      | some e => .error e
    | .real _ => .error .columnWidth

def Instruction.text (i : Instruction) (d : Display) : Except TextError String := do
  let operands ← i.operands.mapM d.operand
  d.line i.mnemonic operands

/-- The text of the instruction that a word encodes, if it encodes one. -/
def Display.decode (d : Display) (w : Int) : Except TextError (Option String) :=
  match Instruction.ofWord? w with
  | some i => (i.text d).map some
  | none => .ok none

end Disasm32
