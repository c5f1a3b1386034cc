import Disasm32.Encoding.Table
import Disasm32.Instruction.Basic
import Disasm32.Proofs.Word.Fields
import Disasm32.Text.LetterCase
import Mathlib.Data.List.Nodup

/-! The operands of an instruction from the fields that its encoding describes. A form says
which fields become which operands; it looks at the names and values of the fields only, never
at the word. -/
namespace Disasm32

open Word Encoding

inductive Form where
  | registers
  | shift
  | constant
  | memory
  | store
  | branch
  | upper
  | jump
  | csr
  | csrConstant
  | bare
  deriving DecidableEq, Repr

def Encoding.mnemonic (e : Encoding) : String := String.ofList (Text.lower e.name.toList)

/-- Only the format with a twelve-bit immediate is shared by several forms. -/
def Encoding.form (e : Encoding) : Form :=
  match e.format with
  | .r => .registers
  | .s => .store
  | .b => .branch
  | .u => .upper
  | .j => .jump
  | .i =>
    if e.name ∈ ["SLLI", "SRLI", "SRAI"] then .shift
    else if e.name ∈ ["ADDI", "SLTI", "SLTIU", "XORI", "ORI", "ANDI"] then .constant
    else if e.name ∈ ["LB", "LH", "LW", "LBU", "LHU", "JALR"] then .memory
    else if e.name ∈ ["CSRRW", "CSRRS", "CSRRC"] then .csr
    else if e.name ∈ ["CSRRWI", "CSRRSI", "CSRRCI"] then .csrConstant
    else .bare

def Encoding.described (fields : List (String × Nat)) (name : String) : Nat :=
  (fields.lookup name).getD 0

def Form.operands (f : Form) (fields : List (String × Nat)) : List Operand :=
  let field := described fields
  match f with
  | .registers => [.register (field "rd"), .register (field "rs1"), .register (field "rs2")]
  | .shift => [.register (field "rd"), .register (field "rs1"), .immediate (field "shamt")]
  | .constant =>
    [.register (field "rd"), .register (field "rs1"), .immediate (signExtend 12 (field "imm"))]
  | .memory => [.register (field "rd"), .memory (signExtend 12 (field "imm")) (field "rs1")]
  | .store =>
    [.register (field "rs2"),
     .memory (signExtend 12 (field "imm_5_11" * 0x20 + field "imm_0_4")) (field "rs1")]
  | .branch =>
    [.register (field "rs1"), .register (field "rs2"),
     .target (signExtend 13 (field "imm_12" * 0x1000 + field "imm_11" * 0x800 +
       field "imm_5_10" * 0x20 + field "imm_1_4" * 2))]
  | .upper => [.register (field "rd"), .literal (field "imm" * 0x1000)]
  | .jump =>
    [.register (field "rd"),
     .target (signExtend 21 (field "imm_20" * 0x100000 + field "imm_12_19" * 0x1000 +
       field "imm_11" * 0x800 + field "imm_1_10" * 2))]
  | .csr =>
    [.register (field "rd"), .csr (signExtend 12 (field "csr")), .register (field "rs1")]
  | .csrConstant =>
    [.register (field "rd"), .csr (signExtend 12 (field "csr")), .literal (field "rs1")]
  | .bare => []

def Encoding.instruction (e : Encoding) (w : Int) : Instruction :=
  ⟨e.mnemonic, e.form.operands (e.describe w)⟩

namespace Form

def fields : Form → List Field
  | .registers => rFields
  | .shift => shiftFields
  | .constant | .memory | .bare => iFields
  | .store => sFields
  | .branch => bFields
  | .upper => uFields
  | .jump => jFields
  | .csr | .csrConstant => csrFields

def read (f : Form) (w : Int) : List Operand :=
  f.operands (f.fields.map fun field => (field.name, field.read w))

theorem inside_of_mem {f : Form} : ∀ field ∈ f.fields, field.lsb + field.width ≤ 32 := by
  cases f <;> decide

theorem ordered (f : Form) :
    f.fields.Pairwise fun f g => decide (f.lsb ≤ g.lsb) = true := by
  cases f <;> decide

@[simp] theorem read_low (f : Form) (w : Int) : f.read (low w) = f.read w := by
  unfold read
  congr 1
  refine List.map_congr_left fun field member => ?_
  rw [Field.read, Field.read, bits_low w (inside_of_mem field member)]

@[simp] theorem read_registers (w : Int) :
    registers.read w = [.register (rd w), .register (rs1 w), .register (rs2 w)] := rfl

@[simp] theorem read_shift (w : Int) :
    shift.read w = [.register (rd w), .register (rs1 w), .immediate (rs2 w)] := rfl

@[simp] theorem read_constant (w : Int) :
    constant.read w = [.register (rd w), .register (rs1 w), .immediate (immI w)] := by
  rw [immI_eq]
  rfl

@[simp] theorem read_memory (w : Int) :
    memory.read w = [.register (rd w), .memory (immI w) (rs1 w)] := by
  rw [immI_eq]
  rfl

@[simp] theorem read_store (w : Int) :
    store.read w = [.register (rs2 w), .memory (immS w) (rs1 w)] := by
  rw [immS_eq]
  rfl

@[simp] theorem read_branch (w : Int) :
    branch.read w = [.register (rs1 w), .register (rs2 w), .target (immB w)] := by
  rw [immB_eq]
  rfl

@[simp] theorem read_upper (w : Int) :
    upper.read w = [.register (rd w), .literal (low (immU w))] := by
  rw [low_immU]
  rfl

@[simp] theorem read_jump (w : Int) :
    jump.read w = [.register (rd w), .target (immJ w)] := by
  rw [immJ_eq]
  rfl

@[simp] theorem read_csr (w : Int) :
    csr.read w = [.register (rd w), .csr (immI w), .register (rs1 w)] := by
  rw [immI_eq]
  rfl

@[simp] theorem read_csrConstant (w : Int) :
    csrConstant.read w = [.register (rd w), .csr (immI w), .literal (rs1 w)] := by
  rw [immI_eq]
  rfl

@[simp] theorem read_bare (w : Int) : bare.read w = [] := rfl

end Form

namespace Encoding

theorem fields_of_mem : ∀ e ∈ table, e.fields = e.form.fields := by decide

theorem mnemonics_nodup : (table.map mnemonic).Nodup := by decide +kernel

/-- The rows list their fields from the lowest bit up, so sorting leaves them alone. -/
theorem describe_eq {e : Encoding} (listed : e ∈ table) (w : Int) :
    e.describe w = e.form.fields.map fun f => (f.name, f.read w) := by
  have sorted := List.mergeSort_of_pairwise (Form.ordered e.form)
  rw [describe, fields_of_mem e listed]
  exact congrArg _ sorted

theorem instruction_eq {e : Encoding} (listed : e ∈ table) (w : Int) :
    e.instruction w = ⟨e.mnemonic, e.form.read w⟩ := by
  rw [instruction, Form.read, describe_eq listed]

/-- A mnemonic stands in one row only. -/
theorem eq_of_mnemonic_eq {e f : Encoding} (he : e ∈ table) (hf : f ∈ table)
    (same : e.mnemonic = f.mnemonic) : e = f :=
  List.inj_on_of_nodup_map mnemonics_nodup he hf same

end Encoding

end Disasm32
