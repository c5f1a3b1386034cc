import Disasm32.Template.Entity
import Disasm32.Template.Pieces

/-! A template is filled with one number, which the placeholders call `word`. A name may go on from
the number by attributes and indices, a conversion turns what it leads to into a text, and a
format may hold placeholders one level deep. What attributes and indices lead to is given. -/
namespace Disasm32.Template

inductive Access where
  | attribute (name : List Char)
  /-- By a name between square brackets, or by the position that it denotes. -/
  | index (name : List Char) (position? : Option Nat)
  deriving DecidableEq, Repr

/-- What a word leads to by the steps of a path. -/
abbrev Members := Int → List Access → Except TemplateError Entity

def Members.reach (m : Members) (word : Int) (path : List Access) : Except TemplateError Entity :=
  if path.isEmpty then .ok (.number word) else m word path

def startsAccess (c : Char) : Bool := c == '.' || c == '['

/-- The position that a text of decimal digits denotes. Digits that are too many are a fault even
if something else follows them. -/
def position? (cs : List Char) : Except TemplateError (Option Nat) := do
  let (position?, rest) ← Spec.takeCount cs
  return if rest.isEmpty then position? else none

def takeAccess : List Char → Except TemplateError (Access × List Char)
  | '.' :: cs =>
    let name := cs.takeWhile (!startsAccess ·)
    if name.isEmpty then .error .emptyPart
    else .ok (.attribute name, cs.dropWhile (!startsAccess ·))
  | '[' :: cs =>
    match cs.dropWhile (· != ']') with
    | [] => .error .unclosedIndex
    | _ :: rest => do
      let name := cs.takeWhile (· != ']')
      let position? ← position? name
      if name.isEmpty then throw .emptyPart
      return (.index name position?, rest)
  | _ => .error .textAfterIndex

/-- Follows the steps in a text, at most `fuel` of them, after those of `path`. A step is read only
when the ones before it have been followed. -/
def follow (m : Members) (word : Int) : Nat → List Access → List Char → Except TemplateError Entity
  | 0, path, _ | _, path, [] => m.reach word path
  | fuel + 1, path, cs => do
    let (access, rest) ← takeAccess cs
    let _ ← m.reach word (path ++ [access])
    follow m word fuel (path ++ [access]) rest

def resolve (m : Members) (word : Int) (name : List Char) : Except TemplateError Entity := do
  let first := name.takeWhile (!startsAccess ·)
  let rest := name.dropWhile (!startsAccess ·)
  match ← position? first with
  | some n => throw (.noPosition n)
  | none =>
    if first.isEmpty then throw (.noPosition 0)
    else if first ≠ "word".toList then throw (.unknownName (String.ofList first))
    else follow m word rest.length [] rest

/-- An entity after a conversion; the character that stands for none leaves it alone. -/
def convert (x : Entity) : Option Char → Except TemplateError Entity
  | none | some '\x00' => .ok x
  | some 's' => (x.converted .str).map .text
  | some 'r' => (x.converted .repr).map .text
  | some 'a' => (x.converted .ascii).map .text
  | some c => .error (.unknownConversion c)

/-- The template with `word` put in, placeholders standing at most `depth` levels deep. -/
def fill (m : Members) : Nat → Int → List Char → Except TemplateError (List Char)
  | 0, _, _ => .error .nestedTooDeep
  | depth + 1, word, cs => do
    let (parts, fault) := pieces cs
    let texts ← parts.mapM fun
      | .text cs => .ok cs
      | .placeholder p => do
        let x ← resolve m word p.name
        let x ← convert x p.conversion
        let spec ← if p.spec.contains '{' then fill m depth word p.spec else .ok p.spec
        x.format spec
    match fault with
    | some e => throw e
    | none => return texts.flatten

def render (m : Members) (template : String) (word : Int) : Except TemplateError String :=
  (fill m 2 word template.toList).map String.ofList

end Disasm32.Template
