import Disasm32.Word.Basic

/-! The five immediate formats, each gathered from the groups of bits that its instruction format
scatters over the word. The sign is always bit 31 of the word. Beside the five readers stand the
assemblers `assembleI` to `assembleJ`, which lay an immediate and the other fields of its format out
as a word. -/
namespace Disasm32.Word

/-- The magnitude `raw` with bit 31 of the word as its sign, which has the given weight. -/
def withSign (w : Int) (weight : Nat) (raw : Nat) : Int :=
  raw - bits w 31 1 * weight

/-- Twelve bits: the immediate of loads and of arithmetic with a constant. -/
def immI (w : Int) : Int :=
  withSign w 0x800 (bits w 25 6 * 0x20 + bits w 21 4 * 2 + bits w 20 1)

/-- Twelve bits: the offset of a store. -/
def immS (w : Int) : Int :=
  withSign w 0x800 (bits w 25 6 * 0x20 + bits w 8 4 * 2 + bits w 7 1)

/-- Thirteen bits, the lowest zero: the offset of a branch. -/
def immB (w : Int) : Int :=
  withSign w 0x1000 (bits w 7 1 * 0x800 + bits w 25 6 * 0x20 + bits w 8 4 * 2)

/-- The upper twenty bits in place. -/
def immU (w : Int) : Int :=
  withSign w 0x80000000 (bits w 12 19 * 0x1000)

/-- Twenty-one bits, the lowest zero: the offset of a jump. -/
def immJ (w : Int) : Int :=
  withSign w 0x100000 (bits w 12 8 * 0x1000 + bits w 20 1 * 0x800 + bits w 25 6 * 0x20 +
    bits w 21 4 * 2)

def assembleI (opcode rd funct3 rs1 : Nat) (imm : Int) : Int :=
  opcode + rd * 0x80 + funct3 * 0x1000 + rs1 * 0x8000 + bits imm 0 12 * 0x100000

def assembleS (opcode funct3 rs1 rs2 : Nat) (imm : Int) : Int :=
  opcode + bits imm 0 5 * 0x80 + funct3 * 0x1000 + rs1 * 0x8000 + rs2 * 0x100000 +
    bits imm 5 7 * 0x2000000

def assembleB (opcode funct3 rs1 rs2 : Nat) (imm : Int) : Int :=
  opcode + bits imm 11 1 * 0x80 + bits imm 1 4 * 0x100 + funct3 * 0x1000 + rs1 * 0x8000 +
    rs2 * 0x100000 + bits imm 5 6 * 0x2000000 + bits imm 12 1 * 0x80000000

def assembleU (opcode rd : Nat) (imm : Int) : Int :=
  opcode + rd * 0x80 + bits imm 12 20 * 0x1000

def assembleJ (opcode rd : Nat) (imm : Int) : Int :=
  opcode + rd * 0x80 + bits imm 12 8 * 0x1000 + bits imm 11 1 * 0x100000 +
    bits imm 1 10 * 0x200000 + bits imm 20 1 * 0x80000000

end Disasm32.Word
