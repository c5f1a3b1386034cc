import Disasm32.Instruction.Basic
import Disasm32.Word.Immediate

/-! The instruction that a word encodes. The opcode selects a family, and within it the function
fields select the mnemonic; a word whose function fields select nothing is no instruction. The
decoder reads every bit that the encodings fix, but for `slli`, whose upper seven bits it ignores.
-/
namespace Disasm32.Instruction

open Word

def branchMnemonic? : Nat → Option String
  | 0b000 => some "beq"
  | 0b001 => some "bne"
  | 0b100 => some "blt"
  | 0b101 => some "bge"
  | 0b110 => some "bltu"
  | 0b111 => some "bgeu"
  | _ => none

def loadMnemonic? : Nat → Option String
  | 0b000 => some "lb"
  | 0b001 => some "lh"
  | 0b010 => some "lw"
  | 0b100 => some "lbu"
  | 0b101 => some "lhu"
  | _ => none

def storeMnemonic? : Nat → Option String
  | 0b000 => some "sb"
  | 0b001 => some "sh"
  | 0b010 => some "sw"
  | _ => none

def constantMnemonic? : Nat → Option String
  | 0b000 => some "addi"
  | 0b010 => some "slti"
  | 0b011 => some "sltiu"
  | 0b100 => some "xori"
  | 0b110 => some "ori"
  | 0b111 => some "andi"
  | _ => none

def shiftMnemonic? : Nat → Nat → Option String
  | 0b001, _ => some "slli"
  | 0b101, 0b0000000 => some "srli"
  | 0b101, 0b0100000 => some "srai"
  | _, _ => none

def registerMnemonic? : Nat → Nat → Option String
  | 0b0000000, 0b000 => some "add"
  | 0b0000000, 0b001 => some "sll"
  | 0b0000000, 0b010 => some "slt"
  | 0b0000000, 0b011 => some "sltu"
  | 0b0000000, 0b100 => some "xor"
  | 0b0000000, 0b101 => some "srl"
  | 0b0000000, 0b110 => some "or"
  | 0b0000000, 0b111 => some "and"
  | 0b0000001, 0b000 => some "mul"
  | 0b0000001, 0b001 => some "mulh"
  | 0b0000001, 0b010 => some "mulhsu"
  | 0b0000001, 0b011 => some "mulhu"
  | 0b0000001, 0b100 => some "div"
  | 0b0000001, 0b101 => some "divu"
  | 0b0000001, 0b110 => some "rem"
  | 0b0000001, 0b111 => some "remu"
  | 0b0100000, 0b000 => some "sub"
  | 0b0100000, 0b101 => some "sra"
  | _, _ => none

def fenceMnemonic? : Nat → Option String
  | 0b000 => some "fence"
  | 0b001 => some "fence.i"
  | _ => none

def environmentMnemonic? : Nat → Option String
  | 0b000000000000 => some "ecall"
  | 0b000000000001 => some "ebreak"
  | 0b000000000010 => some "uret"
  | 0b000100000010 => some "sret"
  | 0b001100000010 => some "mret"
  | 0b000100000101 => some "wfi"
  | _ => none

def csrMnemonic? : Nat → Option String
  | 0b001 => some "csrrw"
  | 0b010 => some "csrrs"
  | 0b011 => some "csrrc"
  | _ => none

def csrConstantMnemonic? : Nat → Option String
  | 0b101 => some "csrrwi"
  | 0b110 => some "csrrsi"
  | 0b111 => some "csrrci"
  | _ => none

/-- Arithmetic with a constant: the amount of a shift stands in the field of the second source. -/
def decodeConstant? (w : Int) : Option Instruction :=
  match constantMnemonic? (funct3 w) with
  | some mnemonic =>
    some ⟨mnemonic, [.register (rd w), .register (rs1 w), .immediate (immI w)]⟩
  | none => (shiftMnemonic? (funct3 w) (funct7 w)).map fun mnemonic =>
    ⟨mnemonic, [.register (rd w), .register (rs1 w), .immediate (rs2 w)]⟩

def decodeSystem? (w : Int) : Option Instruction :=
  if funct3 w = 0 then
    if rd w = 0 ∧ rs1 w = 0 then (environmentMnemonic? (funct12 w)).map (⟨·, []⟩) else none
  else match csrMnemonic? (funct3 w) with
    | some mnemonic => some ⟨mnemonic, [.register (rd w), .csr (immI w), .register (rs1 w)]⟩
    | none => (csrConstantMnemonic? (funct3 w)).map fun mnemonic =>
      ⟨mnemonic, [.register (rd w), .csr (immI w), .literal (rs1 w)]⟩

/-- The instruction with exactly the bits of `w`. -/
def decodeBits? (w : Int) : Option Instruction :=
  match opcode w with
  | 0b0110111 => some ⟨"lui", [.register (rd w), .literal (low (immU w))]⟩
  | 0b0010111 => some ⟨"auipc", [.register (rd w), .literal (low (immU w))]⟩
  | 0b1101111 => some ⟨"jal", [.register (rd w), .target (immJ w)]⟩
  | 0b1100111 =>
    if funct3 w = 0 then some ⟨"jalr", [.register (rd w), .memory (immI w) (rs1 w)]⟩ else none
  | 0b1100011 => (branchMnemonic? (funct3 w)).map fun mnemonic =>
    ⟨mnemonic, [.register (rs1 w), .register (rs2 w), .target (immB w)]⟩
  | 0b0000011 => (loadMnemonic? (funct3 w)).map fun mnemonic =>
    ⟨mnemonic, [.register (rd w), .memory (immI w) (rs1 w)]⟩
  | 0b0100011 => (storeMnemonic? (funct3 w)).map fun mnemonic =>
    ⟨mnemonic, [.register (rs2 w), .memory (immS w) (rs1 w)]⟩
  | 0b0010011 => decodeConstant? w
  | 0b0110011 => (registerMnemonic? (funct7 w) (funct3 w)).map fun mnemonic =>
    ⟨mnemonic, [.register (rd w), .register (rs1 w), .register (rs2 w)]⟩
  | 0b0001111 => (fenceMnemonic? (funct3 w)).map (⟨·, []⟩)
  | 0b1110011 => decodeSystem? w
  | _ => none

/-- The instruction that a word encodes; the low 32 bits decide. -/
def ofWord? (w : Int) : Option Instruction :=
  decodeBits? (low w)

end Disasm32.Instruction
