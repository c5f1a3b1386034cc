import Disasm32.Text.Blank

/-! The signals of a waveform dump, each with an identifier and a path of scope names. They are kept
in the order in which their identifiers first appear. -/
namespace Disasm32.Waveform

/-- A signal; its name is its path, with a bit range after a blank if one is declared. -/
structure Signal where
  identifier : String
  name : String
  width : Int
  deriving DecidableEq, Repr

def Signal.baseName (s : Signal) : String :=
  String.ofList (Text.before [' ', '['] s.name.toList)

/-- The signals with `s` among them, in the place of the signal with its identifier if there is
one. -/
def declare (s : Signal) : List Signal → List Signal
  | [] => [s]
  | t :: rest => if t.identifier = s.identifier then s :: rest else t :: declare s rest

def afterStem? (stem : List Char) (cs : List Char) : Option (List Char) :=
  if stem.isPrefixOf cs then some (cs.drop stem.length) else none

def withDot (path : List Char) : List Char :=
  if path.getLast? = some '.' then path else path ++ ['.']

/-- Signals under the scope `path` are named relative to it. -/
def relativeTo (path : String) (signals : List Signal) : List Signal :=
  if path.isEmpty then signals
  else signals.map fun s =>
    match afterStem? (withDot path.toList) s.name.toList with
    | some rest => { s with name := String.ofList rest }
    | none => s

theorem relativeTo_eq_self {path : String} {signals : List Signal}
    (apart : ∀ s ∈ signals, ¬withDot path.toList <+: s.name.toList) :
    relativeTo path signals = signals := by
  unfold relativeTo
  split
  · rfl
  · refine (List.map_congr_left fun s member => ?_).trans (List.map_id signals)
    have none : afterStem? (withDot path.toList) s.name.toList = none :=
      if_neg (by simpa using apart s member)
    rw [none, id]

def endsIn (name path : List Char) : Bool :=
  (('.' :: name).reverse).isPrefixOf path.reverse

/-- The first signal with exactly that path, or else the first whose path ends in it. -/
def find? (signals : List Signal) (name : String) : Option Signal :=
  match signals.find? (·.baseName = name) with
  | some s => some s
  | none => signals.find? fun s => endsIn name.toList s.baseName.toList

end Disasm32.Waveform
