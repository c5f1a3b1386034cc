import Disasm32.Text.Blank
import Disasm32.Text.DecimalDigit
import Disasm32.Text.Digits
import Disasm32.Text.Quoted

/-! Reading an integer written in a base from 2 to 36: blanks around it, a sign, the marker of the
base (`0x`, `0o` or `0b`) and single underscores between digits are allowed, and a digit may come
from any script. Base 0 takes the base from the marker. In a base that is no power of two a literal
has at most 4300 digits. -/
namespace Disasm32.Literal

inductive Error where
  | malformed
  | tooLong (digits : Nat)
  | badBase
  deriving DecidableEq, Repr

/-- The number of digits allowed in a base that is no power of two. -/
def maxDigits : Nat := 4300

def limitMessage (detail : String) : String :=
  "Exceeds the limit (4300 digits) for integer string conversion" ++ detail ++
    "; use sys.set_int_max_str_digits() to increase the limit"

/-- Whether an integer has no more decimal digits than are allowed. -/
def isWritable (n : Int) : Bool := n.natAbs < Nat.pow 10 maxDigits

/-- The message that a text is no integer in `base`; a long text is cut off. -/
def Error.message (base : Nat) (cs : List Char) : Error → String
  | .tooLong digits =>
    limitMessage (": value has " ++ String.ofList (Digits.ofNat 10 digits) ++ " digits")
  | .malformed | .badBase =>
    "invalid literal for int() with base " ++ String.ofList (Digits.ofNat 10 base) ++ ": " ++
      String.ofList ((Text.Quoted.encode cs).take 200)

/-- A decimal digit of any script as the digit from 0 to 9 with its value. -/
def latinDigit (c : Char) : Char :=
  match Text.decimalDigit? c with
  | some d => Char.ofNat (48 + d)
  | none => c

def digit? (c : Char) : Option Nat :=
  let n := c.toNat
  if 48 ≤ n ∧ n ≤ 57 then some (n - 48)
  else if 97 ≤ n ∧ n ≤ 122 then some (n - 87)
  else if 65 ≤ n ∧ n ≤ 90 then some (n - 55)
  else none

def digitOf? (base : Nat) (c : Char) : Option Nat :=
  (digit? c).filter (· < base)

/-- The blanks that may surround the digits: those of ASCII that move the carriage and those
outside ASCII. -/
def isSpace (c : Char) : Bool :=
  Text.isBlank c && !(0x1c ≤ c.toNat && c.toNat ≤ 0x1f)

/-- Digits with single underscores between them, and what follows. The second component says
whether an underscore stands at the end or next to another. -/
def takeDigits (base : Nat) : Bool → List Char → List Nat × Bool × List Char
  | underscore, [] => ([], underscore, [])
  | underscore, c :: cs =>
    if c == '_' then
      if underscore then ([], true, c :: cs) else takeDigits base true cs
    else match digitOf? base c with
      | some d => let (ds, bad, rest) := takeDigits base false cs; (d :: ds, bad, rest)
      | none => ([], underscore, c :: cs)

def isPowerOfTwo (base : Nat) : Bool :=
  base == 2 || base == 4 || base == 8 || base == 16 || base == 32

def markerBase? : List Char → Option Nat
  | '0' :: c :: _ =>
    if c == 'x' || c == 'X' then some 16
    else if c == 'o' || c == 'O' then some 8
    else if c == 'b' || c == 'B' then some 2
    else none
  | _ => none

def readUnsigned (base : Nat) (cs : List Char) : Except Error Nat :=
  let marker := markerBase? cs
  let radix := if base = 0 then marker.getD 10 else base
  let digits := if marker = some radix then
      match cs.drop 2 with
      | '_' :: rest => rest
      | rest => rest
    else cs
  let (ds, bad, rest) := takeDigits radix true digits
  if ds.isEmpty || bad then .error .malformed
  else if !isPowerOfTwo radix && maxDigits < ds.length then .error (.tooLong ds.length)
  else if !rest.all isSpace then .error .malformed
  else if base = 0 ∧ marker = none ∧ digits.head? = some '0' ∧ Digits.value radix ds ≠ 0 then
    .error .malformed
  else .ok (Digits.value radix ds)

def read (base : Int) (cs : List Char) : Except Error Int :=
  if base ≠ 0 ∧ (base < 2 ∨ 36 < base) then .error .badBase
  else match (cs.map latinDigit).dropWhile isSpace with
    | '-' :: rest => (readUnsigned base.toNat rest).map (fun n => -(n : Int))
    | '+' :: rest => (readUnsigned base.toNat rest).map (fun n => (n : Int))
    | rest => (readUnsigned base.toNat rest).map (fun n => (n : Int))

end Disasm32.Literal
