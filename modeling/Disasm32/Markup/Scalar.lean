import Disasm32.Markup.Error
import Disasm32.Markup.Tag
import Disasm32.Number.Decimal
import Disasm32.Text.LetterCase

/-! The value that the text of a scalar has under its tag. -/
namespace Disasm32.Markup.Scalar

def noLines (cs : List Char) : List Char := cs.filter (· != '_')

def truth (text : String) : Except Error Value :=
  let word := String.ofList (Text.lower text.toList)
  match Tag.truthWords.find? (·.1 == word) with
  | some (_, b) => .ok (.bool b)
  | none => .error (.notBool word)

def integerIn (base : Nat) (cs : List Char) : Except Error Int :=
  match Literal.read base cs with
  | .ok n => .ok n
  | .error cause => .error (.notInteger base (String.ofList cs) cause)

/-- The parts between colons as the digits of a number in base 60. -/
def sexagesimal (cs : List Char) : Except Error Int := do
  let parts ← (Text.splitWhere (· == ':') cs).mapM (integerIn 10)
  return parts.foldl (fun n part => n * 60 + part) 0

/-- An integer without a sign: the form of its beginning tells the base. -/
def magnitude (cs : List Char) : Except Error Int :=
  match cs with
  | [] => .error .emptyNumber
  | ['0'] => .ok 0
  | '0' :: 'b' :: digits => integerIn 2 digits
  | '0' :: 'x' :: digits => integerIn 16 digits
  | '0' :: _ => integerIn 8 cs
  | _ => if cs.contains ':' then sexagesimal cs else integerIn 10 cs

def integer (text : String) : Except Error Value :=
  match noLines text.toList with
  | [] => .error .emptyNumber
  | '-' :: cs => (magnitude cs).map fun n => .int (-n)
  | cs => (magnitude (Tag.unsigned cs)).map .int

def realPart (cs : List Char) : Except Error Binary64 :=
  match Binary64.read? cs with
  | some x => .ok x
  | none => .error (.notReal (String.ofList cs))

/-- The sum of the parts, each with the power of 60 that belongs to its place; the last part
comes first. Every power has to be a real number. -/
def sexagesimalSum : Nat → List Binary64 → Binary64 → Except Error Binary64
  | _, [], sum => .ok sum
  | power, part :: parts, sum =>
    match Binary64.ofNat power with
    | .finite negative m e =>
      sexagesimalSum (power * 60) parts (sum.add (part.mul (.finite negative m e)))
    | _ => .error .tooManyParts

def realMagnitude (cs : List Char) : Except Error Binary64 := do
  if cs = ".inf".toList then return .infinite false
  if cs = ".nan".toList then return .nan
  if !cs.contains ':' then realPart cs
  else
    let parts ← (Text.splitWhere (· == ':') cs).mapM realPart
    sexagesimalSum 1 parts.reverse .zero

def isNanWord (text : String) : Bool :=
  Tag.unsigned (Text.lower (noLines text.toList)) == ".nan".toList

def real (text : String) : Except Error Value :=
  match Text.lower (noLines text.toList) with
  | [] => .error .emptyNumber
  | '-' :: cs => (realMagnitude cs).map fun x => .real x.negate
  | cs => (realMagnitude (Tag.unsigned cs)).map .real

def decimal (cs : List Char) : Nat := Digits.value 10 (cs.filterMap Literal.digit?)

def offset : Option (Char × List Char × List Char) → Int
  | none => 0
  | some (sign, hours, minutes) =>
    let distance : Int := decimal hours * 60 + decimal minutes
    if sign == '-' then -distance else distance

def ofParts (parts : Tag.MomentParts) : Except CalendarError Value :=
  let year := decimal parts.year
  let month := decimal parts.month
  let day := decimal parts.day
  match parts.time with
  | none => (Calendar.checkDate year month day).map fun _ => .date year month day
  | some (hour, minute, second) =>
    let fraction := parts.fraction.take 6
    let t : Moment :=
      { year, month, day
        hour := decimal hour
        minute := decimal minute
        second := decimal second
        microsecond := decimal (fraction ++ List.replicate (6 - fraction.length) '0')
        offset := parts.zone.map offset }
    (Calendar.checkMoment t).map fun _ => .moment t

def timestamp (text : String) : Except Error Value :=
  match Tag.momentParts? text.toList with
  | none => .error .notMoment
  | some parts => (ofParts parts).mapError .badDate

def isAscii (c : Char) : Bool := c.toNat < 128

def binary (mark : Mark) (text : String) : Except Error Value :=
  let plain := text.toList.takeWhile isAscii
  match text.toList.drop plain.length with
  | c :: cs =>
    let count := 1 + (cs.takeWhile (!isAscii ·)).length
    .error (.fault none (.notAscii plain.length count c) mark)
  | [] => match Base64.decode plain with
    | .ok bytes => .ok (.bytes bytes)
    | .error cause => .error (.fault none (.badBase64 cause) mark)

def reader? (tag : String) (mark : Mark) : Option (String → Except Error Value) :=
  if tag = Tag.null then some fun _ => .ok .null
  else if tag = Tag.bool then some truth
  else if tag = Tag.int then some integer
  else if tag = Tag.float then some real
  else if tag = Tag.timestamp then some timestamp
  else if tag = Tag.binary then some (binary mark)
  else if tag = Tag.str then some fun text => .ok (.text text)
  else none

end Disasm32.Markup.Scalar
