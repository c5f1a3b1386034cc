import Disasm32.Settings.Schema
import Disasm32.Template.Render

/-! What the program takes from outside: the loader of markup, the checker of documents, and the
attributes and indices that a message for unknown words may use. -/
namespace Disasm32

inductive MarkupFault where
  /-- It is no markup. -/
  | malformed (message : String)
  /-- A value in it has another form than it should have. -/
  | value (kind message : String)
  /-- Any other error of the loader. -/
  | other (kind message : String)
  deriving DecidableEq, Repr

def MarkupFault.message : MarkupFault → String
  | malformed message | value _ message | other _ message => message

structure Host where
  /-- The document in the bytes of the file of that name. -/
  load : String → List Nat → Except MarkupFault Document
  check : Checker
  members : Template.Members

end Disasm32
