import Disasm32.Document.Value
import Disasm32.Number.Literal
import Disasm32.Number.Shortest
import Disasm32.Text.Blank
import Disasm32.Text.Quoted

/-! How a value is shown in a message: texts in quotes, sequences in square brackets, mappings and
sets in braces. A collection that is only referred to is shown as dots. -/
namespace Disasm32.Value

def wordList (items : List (List Char)) : List Char :=
  Text.join [',', ' '] items

def bytesText (bs : List Nat) : List Char :=
  let cs := bs.map Char.ofNat
  let m := Text.Quoted.mark cs
  'b' :: m :: cs.flatMap
    (Text.Quoted.escape (fun c => 0x20 ≤ c.toNat && c.toNat < 0x7f) m) ++ [m]

def call (name : String) (arguments : List (List Char)) : List Char :=
  name.toList ++ '(' :: wordList arguments ++ [')']

/-- A span of minutes as whole days, rounded down, and the seconds of the last day. -/
def spanText (minutes : Int) : List Char :=
  let seconds := minutes * 60
  let days := seconds / 86400
  let rest := seconds % 86400
  call "datetime.timedelta" <|
    (if days = 0 then [] else ["days=".toList ++ Digits.decimal days]) ++
      (if rest = 0 then [] else ["seconds=".toList ++ Digits.decimal rest])

def zoneText (minutes : Int) : List Char :=
  if minutes = 0 then "datetime.timezone.utc".toList
  else call "datetime.timezone" [spanText minutes]

def momentText (t : Moment) : List Char :=
  let seconds :=
    if t.microsecond ≠ 0 then [t.second, t.microsecond]
    else if t.second ≠ 0 then [t.second] else []
  let fields := [t.year, t.month, t.day, t.hour, t.minute] ++ seconds
  let zone := match t.offset with
    | some minutes => ["tzinfo=".toList ++ zoneText minutes]
    | none => []
  call "datetime.datetime" (fields.map (Digits.ofNat 10) ++ zone)

def dots (isMapping : Bool) : List Char :=
  if isMapping then "\x7b...\x7d".toList else "[...]".toList

mutual

def shown : Value → List Char
  | null => "None".toList
  | bool b => (if b then "True" else "False").toList
  | int n => Digits.decimal n
  | real x => x.text
  | text s => Text.Quoted.encode s.toList
  | bytes bs => bytesText bs
  | date y m d => call "datetime.date" ([y, m, d].map (Digits.ofNat 10))
  | moment t => momentText t
  | sequence items => '[' :: wordList (shownItems items) ++ [']']
  | pair a b => '(' :: wordList [shown a, shown b] ++ [')']
  | set [] => "set()".toList
  | set (item :: items) => '{' :: wordList (shownItems (item :: items)) ++ ['}']
  | mapping entries => '{' :: wordList (shownEntries entries) ++ ['}']
  | shared _ isMapping => dots isMapping

def shownItems : List Value → List (List Char)
  | [] => []
  | item :: items => shown item :: shownItems items

def shownEntries : List (Value × Value) → List (List Char)
  | [] => []
  | (key, value) :: entries => (shown key ++ ':' :: ' ' :: shown value) :: shownEntries entries

end

mutual

/-- Whether a value can be shown: no integer in it has more digits than are allowed. -/
def isWritable : Value → Bool
  | int n => Literal.isWritable n
  | sequence items | set items => areWritable items
  | pair a b => isWritable a && isWritable b
  | mapping entries => areWritableEntries entries
  | _ => true

def areWritable : List Value → Bool
  | [] => true
  | item :: items => isWritable item && areWritable items

def areWritableEntries : List (Value × Value) → Bool
  | [] => true
  | (key, value) :: entries => isWritable key && isWritable value && areWritableEntries entries

end

def twoDigits (n : Nat) : List Char :=
  Digits.padLeft '0' 2 (Digits.ofNat 10 n)

def dateText (year month day : Nat) : List Char :=
  Digits.padLeft '0' 4 (Digits.ofNat 10 year) ++ '-' :: twoDigits month ++ '-' :: twoDigits day

def offsetText (minutes : Int) : List Char :=
  (if minutes < 0 then '-' else '+') :: twoDigits (minutes.natAbs / 60) ++
    ':' :: twoDigits (minutes.natAbs % 60)

/-- The text of a value by which keys are ordered: a text stands for itself. -/
def plain : Value → List Char
  | text s => s.toList
  | date y m d => dateText y m d
  | moment t => dateText t.year t.month t.day ++ ' ' :: twoDigits t.hour ++
      ':' :: twoDigits t.minute ++ ':' :: twoDigits t.second ++
      (if t.microsecond = 0 then []
        else '.' :: Digits.padLeft '0' 6 (Digits.ofNat 10 t.microsecond)) ++
      (t.offset.map offsetText).getD []
  | v => v.shown

end Disasm32.Value
