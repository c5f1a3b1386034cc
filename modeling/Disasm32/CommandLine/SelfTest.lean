import Disasm32.CommandLine.Report
import Disasm32.Text.Quoted

/-! The command that decodes a few words and compares their texts with the expected ones. -/
namespace Disasm32.CommandLine

/-- A word and the text expected for it; none if it is no instruction. -/
structure TestVector where
  word : Int
  expected : Option String
  deriving DecidableEq, Repr

def usualVectors : List TestVector :=
  [⟨0x00000013, some "addi     x0, x0, 0"⟩,
   ⟨0x00100073, some "ebreak"⟩,
   ⟨0x00008067, some "jalr     x0, 0(x1)"⟩,
   ⟨0x30200073, some "mret"⟩,
   ⟨0xffffffff, none⟩,
   ⟨0x123452b7, some "lui      x5, 0x12345000"⟩,
   ⟨0xffdff06f, some "jal      x0, .-0x00000004"⟩,
   ⟨0xfe009ce3, some "bne      x1, x0, .-0x00000008"⟩,
   ⟨0xfea12e23, some "sw       x10, -4(x2)"⟩,
   ⟨0x0220a1b3, some "mulhsu   x3, x1, x2"⟩,
   ⟨0x300110f3, some "csrrw    x1, mstatus, x2"⟩,
   ⟨0x3042d073, some "csrrwi   x0, mie, 0x00000005"⟩]

def quotedOrNone : Option String → String
  | none => "None"
  | some text => Text.Quoted.text text

/-- The complaint about a vector, if its word has another text than expected. -/
def vectorComplaint? (v : TestVector) : Except TextError (Option String) := do
  let text ← ({} : Display).decode v.word
  if text = v.expected then return none
  return some ("✗ 0x" ++ String.ofList (Digits.signedHex 8 v.word) ++ ": expected " ++
    quotedOrNone v.expected ++ ", got " ++ quotedOrNone text)

def selfTest (vectors : List TestVector) : Report :=
  match vectors.mapM vectorComplaint? with
  | .error cause => .fail (.text cause)
  | .ok found =>
    let complaints := found.filterMap id
    if complaints.isEmpty then
      .line ("✓ Built-in test passed! Checked " ++ count vectors.length ++ " vectors")
    else
      .lines complaints ++
        { Report.line ("✗ Test failed: " ++ count complaints.length ++ " of " ++
            count vectors.length ++ " vectors") with ending := .ok 1 }

end Disasm32.CommandLine
