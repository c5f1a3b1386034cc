import Disasm32.Document.Text

/-! What can be wrong with a value of a settings document and where it stands, and which of several
complaints is reported: the one nearest to the root, then the one at the greatest path, then one
about the type of the value, then the first. -/
namespace Disasm32

inductive Complaint where
  | notA (kind : String) (v : Value)
  | missing (key : String)
  | notOneOf (v : Value) (choices : List String)
  | below (v : Value) (limit : Int)
  | above (v : Value) (limit : Int)
  | noMatch (v : Value) (pattern : String)
  | unexpected (keys : List Value)

namespace Complaint

def sortKeys (keys : List Value) : List Value :=
  keys.mergeSort fun a b => String.ofList a.plain ≤ String.ofList b.plain

def message : Complaint → String
  | notA kind v => String.ofList v.shown ++ " is not of type '" ++ kind ++ "'"
  | missing key => Text.Quoted.text key ++ " is a required property"
  | notOneOf v choices => String.ofList v.shown ++ " is not one of " ++
      String.ofList (Value.shown (.sequence (choices.map .text)))
  | below v limit => String.ofList v.shown ++ " is less than the minimum of " ++
      String.ofList (Digits.decimal limit)
  | above v limit => String.ofList v.shown ++ " is greater than the maximum of " ++
      String.ofList (Digits.decimal limit)
  | noMatch v pattern => String.ofList v.shown ++ " does not match " ++ Text.Quoted.text pattern
  | unexpected keys => "Additional properties are not allowed (" ++
      String.ofList (Value.wordList ((sortKeys keys).map Value.shown)) ++
      (if keys.length = 1 then " was" else " were") ++ " unexpected)"

def isWritable : Complaint → Bool
  | missing _ => true
  | notA _ v | notOneOf v _ | below v _ | above v _ | noMatch v _ => v.isWritable
  | unexpected keys => keys.all Value.isWritable

def isAboutType : Complaint → Bool
  | notA .. => true
  | _ => false

end Complaint

structure Violation where
  path : List String
  complaint : Complaint

namespace Violation

/-- Whether `a` is reported rather than `b`, which comes before it. -/
def outranks (a b : Violation) : Bool :=
  if a.path.length ≠ b.path.length then decide (a.path.length < b.path.length)
  else if a.path ≠ b.path then decide (b.path < a.path)
  else a.complaint.isAboutType && !b.complaint.isAboutType

def reported? : List Violation → Option Violation
  | [] => none
  | v :: vs => some (vs.foldl (fun best next => if next.outranks best then next else best) v)

end Violation

end Disasm32
