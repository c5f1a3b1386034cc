import Disasm32.Number.Binary64
import Disasm32.Register

/-! How decoded words are shown: the column where operands begin, the names of registers, and the
template of the message for a word that is no instruction. -/
namespace Disasm32

/-- The width of the mnemonic column. A settings document may give it as a real number with an
integral value, which no column can have. -/
inductive ColumnWidth where
  | columns (n : Int)
  | real (x : Binary64)
  deriving DecidableEq, Repr

structure Display where
  mnemonicWidth : ColumnWidth := .columns 9
  registerNames : RegisterNames := .numeric
  invalidFormat : String := "invalid instruction 0x\x7bword:08x\x7d"
  deriving DecidableEq, Repr

end Disasm32
