import Disasm32.Number.Literal
import Disasm32.Waveform.Signal

/-! The header of a waveform dump opens and closes scopes and declares variables, one item a line,
up to the end of the definitions. A variable is named by the scopes around it and its own name. -/
namespace Disasm32.Waveform

structure HeaderError where
  width : String
  cause : Literal.Error
  deriving DecidableEq, Repr

def HeaderError.message (e : HeaderError) : String :=
  e.cause.message 10 e.width.toList

def begins (keyword : String) (line : List Char) : Bool :=
  keyword.toList.isPrefixOf line

def pathName (scopes : List (List Char)) (name : List Char) : List Char :=
  Text.join ['.'] (scopes ++ [name])

/-- The variable declared by the words of a line, if there are enough of them. -/
def declaration? (scopes : List (List Char)) :
    List (List Char) → Except HeaderError (Option Signal)
  | _ :: _ :: width :: identifier :: name :: more =>
    match Literal.read 10 width with
    | .error cause => .error ⟨String.ofList width, cause⟩
    | .ok n =>
      let range := match more with
        | ('[' :: bits) :: _ => ' ' :: '[' :: bits
        | _ => []
      .ok (some ⟨String.ofList identifier, String.ofList (pathName scopes name ++ range), n⟩)
  | _ => .ok none

/-- The scopes that are open after a line; the innermost is the last. -/
def scopesAfter (scopes : List (List Char)) (line : List Char) : List (List Char) :=
  if begins "$scope" line then
    match Text.words line with
    | _ :: _ :: name :: _ => scopes ++ [name]
    | _ => scopes
  else if begins "$upscope" line then scopes.dropLast
  else scopes

def readHeaderFrom (index : Nat) (scopes : List (List Char)) (signals : List Signal) :
    List (List Char) → Except HeaderError (List Signal × Nat)
  | [] => .ok (signals, index)
  | line :: rest =>
    if begins "$enddefinitions" line then .ok (signals, index + 1)
    else if begins "$var" line then do
      match ← declaration? scopes (Text.words line) with
      | some signal => readHeaderFrom (index + 1) scopes (declare signal signals) rest
      | none => readHeaderFrom (index + 1) scopes signals rest
    else readHeaderFrom (index + 1) (scopesAfter scopes line) signals rest

/-- The signals that a header declares, and the number of lines that belong to it. -/
def readHeader (lines : List String) : Except HeaderError (List Signal × Nat) :=
  readHeaderFrom 0 [] [] (lines.map fun line => Text.strip line.toList)

end Disasm32.Waveform
