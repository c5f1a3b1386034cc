import Disasm32.Encoding.Basic

/-! Every instruction of the base set, the multiplication extension, the privileged set and the
control register extension with its fixed bits. The table is a description of the instruction set
that does not depend on the decoder. -/
namespace Disasm32.Encoding

/-- Opcode, destination and function, as most formats have them. -/
def rdFields : List Field :=
  [⟨"opcode", 0, 7⟩, ⟨"rd", 7, 5⟩, ⟨"funct3", 12, 3⟩, ⟨"rs1", 15, 5⟩]

def rFields : List Field :=
  rdFields ++ [⟨"rs2", 20, 5⟩, ⟨"funct7", 25, 7⟩]

def iFields : List Field :=
  rdFields ++ [⟨"imm", 20, 12⟩]

/-- A shift by a constant: the low five bits of the immediate hold the amount. -/
def shiftFields : List Field :=
  rdFields ++ [⟨"shamt", 20, 5⟩, ⟨"funct7", 25, 7⟩]

/-- An access to a control register: the immediate holds its address. -/
def csrFields : List Field :=
  rdFields ++ [⟨"csr", 20, 12⟩]

def sFields : List Field :=
  [⟨"opcode", 0, 7⟩, ⟨"imm_0_4", 7, 5⟩, ⟨"funct3", 12, 3⟩, ⟨"rs1", 15, 5⟩, ⟨"rs2", 20, 5⟩,
   ⟨"imm_5_11", 25, 7⟩]

def bFields : List Field :=
  [⟨"opcode", 0, 7⟩, ⟨"imm_11", 7, 1⟩, ⟨"imm_1_4", 8, 4⟩, ⟨"funct3", 12, 3⟩, ⟨"rs1", 15, 5⟩,
   ⟨"rs2", 20, 5⟩, ⟨"imm_5_10", 25, 6⟩, ⟨"imm_12", 31, 1⟩]

def uFields : List Field :=
  [⟨"opcode", 0, 7⟩, ⟨"rd", 7, 5⟩, ⟨"imm", 12, 20⟩]

def jFields : List Field :=
  [⟨"opcode", 0, 7⟩, ⟨"rd", 7, 5⟩, ⟨"imm_12_19", 12, 8⟩, ⟨"imm_11", 20, 1⟩,
   ⟨"imm_1_10", 21, 10⟩, ⟨"imm_20", 31, 1⟩]

def opcodeMask : Nat := 0x0000007F

def funct3Mask : Nat := 0x0000707F

def funct7Mask : Nat := 0xFE00707F

def wholeMask : Nat := 0xFFFFFFFF

def immediateRow (name : String) (pattern : Nat) : Encoding :=
  ⟨name, pattern, funct3Mask, .i, iFields⟩
def storeRow (name : String) (pattern : Nat) : Encoding :=
  ⟨name, pattern, funct3Mask, .s, sFields⟩
def shiftRow (name : String) (pattern : Nat) : Encoding :=
  ⟨name, pattern, funct7Mask, .i, shiftFields⟩
def registerRow (name : String) (pattern : Nat) : Encoding :=
  ⟨name, pattern, funct7Mask, .r, rFields⟩
def upperRow (name : String) (pattern : Nat) : Encoding :=
  ⟨name, pattern, opcodeMask, .u, uFields⟩
def branchRow (name : String) (pattern : Nat) : Encoding :=
  ⟨name, pattern, funct3Mask, .b, bFields⟩
def jumpRow (name : String) (pattern : Nat) : Encoding :=
  ⟨name, pattern, opcodeMask, .j, jFields⟩
def wholeRow (name : String) (pattern : Nat) : Encoding :=
  ⟨name, pattern, wholeMask, .i, iFields⟩
def csrRow (name : String) (pattern : Nat) : Encoding :=
  ⟨name, pattern, funct3Mask, .i, csrFields⟩

def baseSet : List Encoding :=
  [immediateRow "LB" 0x00000003, immediateRow "LH" 0x00001003, immediateRow "LW" 0x00002003,
   immediateRow "LBU" 0x00004003, immediateRow "LHU" 0x00005003,
   storeRow "SB" 0x00000023, storeRow "SH" 0x00001023, storeRow "SW" 0x00002023,
   immediateRow "ADDI" 0x00000013, immediateRow "SLTI" 0x00002013,
   immediateRow "SLTIU" 0x00003013, immediateRow "XORI" 0x00004013,
   immediateRow "ORI" 0x00006013, immediateRow "ANDI" 0x00007013,
   shiftRow "SLLI" 0x00001013, shiftRow "SRLI" 0x00005013, shiftRow "SRAI" 0x40005013,
   registerRow "ADD" 0x00000033, registerRow "SUB" 0x40000033, registerRow "SLL" 0x00001033,
   registerRow "SLT" 0x00002033, registerRow "SLTU" 0x00003033, registerRow "XOR" 0x00004033,
   registerRow "SRL" 0x00005033, registerRow "SRA" 0x40005033, registerRow "OR" 0x00006033,
   registerRow "AND" 0x00007033,
   upperRow "LUI" 0x00000037, upperRow "AUIPC" 0x00000017,
   branchRow "BEQ" 0x00000063, branchRow "BNE" 0x00001063, branchRow "BLT" 0x00004063,
   branchRow "BGE" 0x00005063, branchRow "BLTU" 0x00006063, branchRow "BGEU" 0x00007063,
   jumpRow "JAL" 0x0000006F, immediateRow "JALR" 0x00000067,
   wholeRow "ECALL" 0x00000073, wholeRow "EBREAK" 0x00100073,
   immediateRow "FENCE" 0x0000000F, immediateRow "FENCE.I" 0x0000100F]

def multiplication : List Encoding :=
  [registerRow "MUL" 0x02000033, registerRow "MULH" 0x02001033,
   registerRow "MULHSU" 0x02002033, registerRow "MULHU" 0x02003033,
   registerRow "DIV" 0x02004033, registerRow "DIVU" 0x02005033,
   registerRow "REM" 0x02006033, registerRow "REMU" 0x02007033]

def privileged : List Encoding :=
  [wholeRow "MRET" 0x30200073, wholeRow "SRET" 0x10200073, wholeRow "URET" 0x00200073,
   wholeRow "WFI" 0x10500073]

def controlRegisters : List Encoding :=
  [csrRow "CSRRW" 0x00001073, csrRow "CSRRS" 0x00002073, csrRow "CSRRC" 0x00003073,
   csrRow "CSRRWI" 0x00005073, csrRow "CSRRSI" 0x00006073, csrRow "CSRRCI" 0x00007073]

def table : List Encoding :=
  baseSet ++ multiplication ++ privileged ++ controlRegisters

/-- The first instruction of the table that covers a word. -/
def ofWord? (w : Int) : Option Encoding :=
  table.find? (·.covers w)

end Disasm32.Encoding
