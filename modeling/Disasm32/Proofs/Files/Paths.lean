import Disasm32.Files.Basic
import Disasm32.Proofs.Text.Division

/-! Paths in normal form. A path keeps its root and those components that lead somewhere, so it is
left as it is when it is brought into normal form again. -/
namespace Disasm32.Path

open Text

def kept (path : String) : List String :=
  (components path).filter fun c => c != "" && c != "."

/-- The names lead somewhere and are no longer paths. -/
def Names (names : List String) : Prop :=
  ∀ name ∈ names, name ≠ "" ∧ name ≠ "." ∧ '/' ∉ name.toList

variable {names : List String} {path : String}

end Disasm32.Path
