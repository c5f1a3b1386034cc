import Disasm32.Number.Binary64
import Disasm32.Number.Literal

/-! Reading a floating point number: blanks around it, a sign, digits with a point among or beside
them and a decimal exponent, or one of the words for what is infinite or undefined. -/
namespace Disasm32.Binary64

def takeDigits (cs : List Char) : List Nat × List Char :=
  ((cs.takeWhile Char.isDigit).filterMap Literal.digit?, cs.dropWhile Char.isDigit)

def takeSign : List Char → Bool × List Char
  | '-' :: cs => (true, cs)
  | '+' :: cs => (false, cs)
  | cs => (false, cs)

/-- The exponent that makes up the whole text; nothing counts as zero. -/
def exponent? : List Char → Option Int
  | [] => some 0
  | c :: cs =>
    if c == 'e' || c == 'E' then
      let (negative, cs) := takeSign cs
      match takeDigits cs with
      | ([], _) => none
      | (ds, []) => some ((if negative then -1 else 1) * (Digits.value 10 ds : Int))
      | _ => none
    else none

def readDigits? (negative : Bool) (cs : List Char) : Option Binary64 := do
  let (whole, rest) := takeDigits cs
  let (fraction, rest) := match rest with
    | '.' :: rest => takeDigits rest
    | rest => ([], rest)
  if whole.isEmpty && fraction.isEmpty then none
  let exponent ← exponent? rest
  return ofDecimal negative (Digits.value 10 (whole ++ fraction)) (exponent - fraction.length)

def read? (cs : List Char) : Option Binary64 :=
  let text := ((cs.map Literal.latinDigit).dropWhile Literal.isSpace).reverse
  let (negative, magnitude) := takeSign (text.dropWhile Literal.isSpace).reverse
  let word := String.ofList (magnitude.map Char.toLower)
  if word = "inf" ∨ word = "infinity" then some (.infinite negative)
  else if word = "nan" then some .nan
  else readDigits? negative magnitude

end Disasm32.Binary64
