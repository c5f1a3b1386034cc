import Disasm32.Text.Blank

/-! The tag of a node says what kind of value it is. A plain scalar without a tag gets one from its
form: truth values, nothing, integers and real numbers in several notations, dates, the two special
keys and lone indicators; everything else is a text. -/
namespace Disasm32.Markup.Tag

def stem : String := "tag:yaml.org,2002:"

def null : String := stem ++ "null"
def bool : String := stem ++ "bool"
def int : String := stem ++ "int"
def float : String := stem ++ "float"
def timestamp : String := stem ++ "timestamp"
def binary : String := stem ++ "binary"
def str : String := stem ++ "str"
def seq : String := stem ++ "seq"
def map : String := stem ++ "map"
def set : String := stem ++ "set"
def omap : String := stem ++ "omap"
def pairs : String := stem ++ "pairs"
def merge : String := stem ++ "merge"
def value : String := stem ++ "value"
def indicator : String := stem ++ "yaml"

def isDigitOrLine (c : Char) : Bool := c.isDigit || c == '_'

def unsigned : List Char → List Char
  | '-' :: cs => cs
  | '+' :: cs => cs
  | cs => cs

def isRun (least : Char) : List Char → Bool
  | c :: cs => least ≤ c && c.isDigit && cs.all isDigitOrLine
  | [] => false

def isSixtieth (cs : List Char) : Bool :=
  match cs with
  | [c] => c.isDigit
  | [a, b] => '0' ≤ a && a ≤ '5' && b.isDigit
  | _ => false

def isSexagesimal (least : Char) (cs : List Char) : Bool :=
  match Text.splitWhere (· == ':') cs with
  | first :: second :: more => isRun least first && (second :: more).all isSixtieth
  | _ => false

def isBased : List Char → Bool
  | '0' :: 'b' :: cs => !cs.isEmpty && cs.all fun c => c == '0' || c == '1' || c == '_'
  | '0' :: 'x' :: cs => !cs.isEmpty && cs.all fun c =>
      c.isDigit || c == '_' || ('a' ≤ c && c ≤ 'f') || ('A' ≤ c && c ≤ 'F')
  | '0' :: cs => !cs.isEmpty && cs.all fun c => c == '_' || ('0' ≤ c && c ≤ '7')
  | _ => false

def isInteger (cs : List Char) : Bool :=
  let n := unsigned cs
  n == ['0'] || isRun '1' n || isBased n || isSexagesimal '1' n

def isExponent : List Char → Bool
  | [] => true
  | e :: sign :: ds => (e == 'e' || e == 'E') && (sign == '-' || sign == '+') &&
      !ds.isEmpty && ds.all Char.isDigit
  | _ => false

def isReal (cs : List Char) : Bool :=
  let n := unsigned cs
  let whole := n.takeWhile (· != '.')
  match n.dropWhile (· != '.') with
  | '.' :: fraction =>
    let tail := fraction.dropWhile isDigitOrLine
    let places := fraction.takeWhile isDigitOrLine
    isRun '0' whole && isExponent tail ||
      n == cs && whole.isEmpty && isRun '0' places && isExponent tail ||
      isSexagesimal '0' whole && tail.isEmpty ||
      whole.isEmpty && ["inf".toList, "Inf".toList, "INF".toList].contains fraction ||
      n == cs && whole.isEmpty &&
        ["nan".toList, "NaN".toList, "NAN".toList].contains fraction
  | _ => false

def truthWords : List (String × Bool) :=
  [("yes", true), ("no", false), ("true", true), ("false", false), ("on", true), ("off", false)]

def capitalized (s : String) : String :=
  match s.toList with
  | c :: cs => String.ofList (c.toUpper :: cs)
  | [] => s

def isTruth (cs : List Char) : Bool :=
  let s := String.ofList cs
  truthWords.any fun (word, _) => s == word || s == capitalized word || s == word.map Char.toUpper

def isNull (cs : List Char) : Bool :=
  ["", "~", "null", "Null", "NULL"].contains (String.ofList cs)

def takeDigits? (least most : Nat) (cs : List Char) : Option (List Char × List Char) :=
  let ds := (cs.take most).takeWhile Char.isDigit
  if ds.length < least then none else some (ds, cs.drop ds.length)

def takeChar? (c : Char) : List Char → Option (List Char)
  | d :: cs => if c = d then some cs else none
  | [] => none

structure MomentParts where
  year : List Char
  month : List Char
  day : List Char
  time : Option (List Char × List Char × List Char)
  fraction : List Char
  /-- The distance from universal time: a sign, hours and minutes, or none for no distance. -/
  zone : Option (Option (Char × List Char × List Char))
  deriving DecidableEq, Repr

def isGap (c : Char) : Bool := c == ' ' || c == '\t'

def takeZone? (cs : List Char) : Option (Option (Option (Char × List Char × List Char))) :=
  match cs with
  | [] => some none
  | cs => match cs.dropWhile isGap with
    | ['Z'] => some (some none)
    | sign :: rest =>
      if sign == '+' || sign == '-' then do
        let (hours, rest) ← takeDigits? 1 2 rest
        match rest with
        | [] => some (some (some (sign, hours, [])))
        | rest => do
          let rest ← takeChar? ':' rest
          let (minutes, rest) ← takeDigits? 2 2 rest
          if rest.isEmpty then some (some (some (sign, hours, minutes))) else none
      else none
    | [] => none

def takeTime? (year month day cs : List Char) : Option MomentParts := do
  let cs ← match cs with
    | 'T' :: cs => some cs
    | 't' :: cs => some cs
    | cs => if (cs.takeWhile isGap).isEmpty then none else some (cs.dropWhile isGap)
  let (hour, cs) ← takeDigits? 1 2 cs
  let cs ← takeChar? ':' cs
  let (minute, cs) ← takeDigits? 2 2 cs
  let cs ← takeChar? ':' cs
  let (second, cs) ← takeDigits? 2 2 cs
  let (fraction, cs) := match cs with
    | '.' :: cs => (cs.takeWhile Char.isDigit, cs.dropWhile Char.isDigit)
    | cs => ([], cs)
  let zone ← takeZone? cs
  return ⟨year, month, day, some (hour, minute, second), fraction, zone⟩

def withoutLineFeed (cs : List Char) : List Char :=
  if cs.getLast? = some '\n' then cs.dropLast else cs

/-- The parts of a date as it may be given with an explicit tag: one digit is enough for a month
or a day. -/
def momentParts? (cs : List Char) : Option MomentParts := do
  let (year, cs) ← takeDigits? 4 4 (withoutLineFeed cs)
  let cs ← takeChar? '-' cs
  let (month, cs) ← takeDigits? 1 2 cs
  let cs ← takeChar? '-' cs
  let (day, cs) ← takeDigits? 1 2 cs
  if cs.isEmpty then return ⟨year, month, day, none, [], none⟩
  takeTime? year month day cs

/-- Whether a text has the form of a date: without a time of day, month and day have two
digits. -/
def isMoment (cs : List Char) : Bool :=
  match momentParts? cs with
  | some parts => parts.time.isSome || parts.month.length == 2 && parts.day.length == 2
  | none => false

/-- The tag of a plain scalar by its form, for which a line feed at the end does not count. -/
def ofPlain (text : String) : String :=
  let cs := withoutLineFeed text.toList
  let form := String.ofList cs
  if cs.isEmpty && text != "" then str
  else if isTruth cs then bool
  else if isReal cs then float
  else if isInteger cs then int
  else if form == "<<" then merge
  else if isNull cs then null
  else if isMoment cs then timestamp
  else if form == "=" then value
  else if ["!", "&", "*"].contains form then indicator
  else str

end Disasm32.Markup.Tag
