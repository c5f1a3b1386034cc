/-! An instruction as the decoder finds it: a mnemonic and its operands, before any choice about how
they are written. -/
namespace Disasm32

inductive Operand where
  | register (number : Nat)
  /-- A signed number, written in decimal. -/
  | immediate (value : Int)
  /-- A 32-bit number, written in full. -/
  | literal (value : Nat)
  /-- A distance from the instruction itself. -/
  | target (offset : Int)
  /-- A place in memory at a distance from the content of a register. -/
  | memory (offset : Int) (base : Nat)
  /-- A control register by its address. -/
  | csr (address : Int)
  deriving DecidableEq, Repr

structure Instruction where
  mnemonic : String
  operands : List Operand
  deriving DecidableEq, Repr

end Disasm32
