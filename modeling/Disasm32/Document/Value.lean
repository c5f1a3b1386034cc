import Disasm32.Document.Moment
import Disasm32.Number.Binary64

/-! The values of a settings document: scalars, sequences and mappings. A mapping keeps the order in
which its keys first appear, and a key that is given again takes the later value. -/
namespace Disasm32

inductive Value where
  | null
  | bool (b : Bool)
  | int (n : Int)
  | real (x : Binary64)
  | text (s : String)
  | bytes (bs : List Nat)
  | date (year month day : Nat)
  | moment (t : Moment)
  | sequence (items : List Value)
  | pair (first second : Value)
  | set (items : List Value)
  | mapping (entries : List (Value × Value))
  /-- The collection of that number in its document. -/
  | shared (number : Nat) (isMapping : Bool)
  deriving Repr

namespace Value

/-- The value as a number, for the comparison of keys: truth values count as 0 and 1. -/
def number? : Value → Option (Int ⊕ Binary64)
  | bool b => some (.inl (if b then 1 else 0))
  | int n => some (.inl n)
  | real x => match x.toInt? with
    | some n => some (.inl n)
    | none => some (.inr x)
  | _ => none

/-- Whether two values are the same key of a mapping. Equal numbers are, whatever their type, and
no undefined number equals another. -/
def sameKey (a b : Value) : Bool :=
  match number? a, number? b with
  | some (.inr .nan), _ => false
  | some x, some y => x == y
  | none, none => match a, b with
    | null, null => true
    | text s, text t => s == t
    | bytes x, bytes y => x == y
    | date y m d, date y' m' d' => y == y' && m == m' && d == d'
    | moment t, moment u => t.isSame u
    | _, _ => false
  | _, _ => false

/-- The entries with `value` under `key`: in place of the entry with the same key, or at the
end. -/
def insertBy (same : κ → κ → Bool) (key : κ) (value : ν) : List (κ × ν) → List (κ × ν)
  | [] => [(key, value)]
  | entry :: rest =>
    if same entry.1 key then (entry.1, value) :: rest
    else entry :: insertBy same key value rest

/-- The entries of a mapping from pairs in the order in which they are written. -/
def entriesOf (pairs : List (Value × Value)) : List (Value × Value) :=
  pairs.foldl (fun entries pair => insertBy sameKey pair.1 pair.2 entries) []

def find? (name : String) (entries : List (Value × Value)) : Option Value :=
  (entries.find? fun entry => entry.1.sameKey (.text name)).map (·.2)

def text? : Value → Option String
  | text s => some s
  | _ => none

def entries? : Value → Option (List (Value × Value))
  | mapping entries => some entries
  | _ => none

end Value

end Disasm32
