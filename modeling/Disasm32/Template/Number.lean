import Disasm32.Number.Shortest
import Disasm32.Template.Spec

/-! The text of an integer in each presentation: numerals in base 2, 8, 10 and 16, a character, and
the real number nearest to the integer with a fixed number of places, with an exponent, with a
number of significant digits, or as a percentage. A text can only be cut and aligned. -/
namespace Disasm32.Template

def decimalDigits (n : Nat) : Except TemplateError (List Char) :=
  if Literal.isWritable n then .ok (Digits.ofNat 10 n) else .error .decimalTooLong

def decimalText (n : Int) : Except TemplateError (List Char) :=
  (decimalDigits n.natAbs).map fun ds => if n < 0 then '-' :: ds else ds

def upper (cs : List Char) : List Char := cs.map Char.toUpper

def baseOf (code : Char) : Nat × List Char :=
  if code = 'b' then (2, ['0', 'b'])
  else if code = 'o' then (8, ['0', 'o'])
  else if code = 'x' then (16, ['0', 'x'])
  else if code = 'X' then (16, ['0', 'X'])
  else (10, [])

def integerText (s : Spec) (n : Int) : Except TemplateError (List Char) := do
  if s.precision.isSome then throw .precisionOnInteger
  if s.noNegativeZero then throw (.zeroSignOn .int)
  if s.code = 'c' then
    if s.sign.isSome then throw .signOnCharacter
    if s.alternate then throw .alternateOnCharacter
    if !Index.fits n then throw .characterTooLarge
    if n < 0 ∨ 0x10ffff < n then throw .notACharacter
    return s.place false [] [] [Char.ofNat n.toNat]
  else
    let (base, marker) := baseOf s.code
    let digits ← if base = 10 then decimalDigits n.natAbs else .ok (Digits.ofNat base n.natAbs)
    let digits := if s.code = 'X' then upper digits else digits
    return s.place (n < 0) (if s.alternate then marker else []) digits []

/-- The `count` most significant digits of a natural number, rounded, and the power of ten of the
first of them. -/
def significant (n count : Nat) : List Char × Int :=
  if n = 0 then (List.replicate count '0', 0)
  else
    let ds := Digits.ofNat 10 n
    if ds.length ≤ count then (Digits.padRight '0' count ds, ds.length - 1)
    else
      let rounded := Digits.ofNat 10 (roundDiv n (Nat.pow 10 (ds.length - count)))
      (rounded.take count, (ds.length : Int) - 1 + (rounded.length - count))

/-- A fraction after its point; the point alone is written only if `always`. -/
def fraction (always : Bool) (places : List Char) : List Char :=
  if places.isEmpty && !always then [] else '.' :: places

def fixedParts (n places : Nat) (alternate : Bool) : List Char × List Char :=
  (Digits.ofNat 10 n, fraction alternate (List.replicate places '0'))

def exponentParts (digits : List Char) (exponent : Int) (alternate : Bool) :
    List Char × List Char :=
  (digits.take 1, fraction alternate (digits.drop 1) ++ 'e' :: Binary64.exponentText exponent)

/-- Fixed places, or an exponent if the number has more than `count` digits; zeros at the end of
the fraction are written only in the alternate form. -/
def generalParts (n count : Nat) (alternate : Bool) : List Char × List Char :=
  let count := max 1 count
  let (digits, exponent) :=
    significant n (if alternate then count else min count (Digits.ofNat 10 n).length)
  let keep := fun (cs : List Char) => if alternate then cs else Binary64.trimZeros cs
  if exponent < count then
    let whole := exponent.toNat + 1
    (digits.take whole, fraction alternate (keep (digits.drop whole)))
  else exponentParts (digits.take 1 ++ keep (digits.drop 1)) exponent alternate

def magnitude? : Binary64 → Option Nat
  | .finite _ m e => some (if 0 ≤ e then m * Nat.pow 2 e.toNat else m / Nat.pow 2 (-e).toNat)
  | _ => none

def realParts (s : Spec) (x : Binary64) (precision : Nat) : List Char × List Char :=
  let x := if s.code = '%' then x.mul (.ofNat 100) else x
  match magnitude? x with
  | none => ([], "inf".toList)
  | some n =>
    if s.code = 'e' ∨ s.code = 'E' then
      let (digits, exponent) := significant n (precision + 1)
      exponentParts digits exponent s.alternate
    else if s.code = 'g' ∨ s.code = 'G' then generalParts n precision s.alternate
    else fixedParts n precision s.alternate

/-- The precision that a format asks for; the greatest one leaves a single digit before an
exponent. -/
def Spec.realPrecision (s : Spec) : Except TemplateError Nat := do
  let precision := s.precision.getD 6
  if 0x7fffffff < precision then throw .precisionTooBig
  return if (s.code = 'e' ∨ s.code = 'E') ∧ precision = 0x7fffffff then 0 else precision

def realText (s : Spec) (n : Int) : Except TemplateError (List Char) := do
  let x := Binary64.ofNat n.natAbs
  if magnitude? x = none then throw .realTooLarge
  let precision ← s.realPrecision
  let (digits, rest) := realParts s x precision
  let rest := if s.code = '%' then rest ++ ['%'] else rest
  let rest := if ['E', 'G', 'F'].contains s.code then upper rest else rest
  return s.place (n < 0) [] digits rest

def formatInteger (spec : List Char) (n : Int) : Except TemplateError (List Char) := do
  if spec.isEmpty then decimalText n
  else
    let s ← Spec.parse .int spec
    if ['b', 'c', 'd', 'o', 'x', 'X', 'n'].contains s.code then integerText s n
    else if ['e', 'E', 'f', 'F', 'g', 'G', '%'].contains s.code then realText s n
    else throw (.unknownCode s.code .int)

def formatText (spec cs : List Char) : Except TemplateError (List Char) := do
  if spec.isEmpty then return cs
  let s ← Spec.parse .str spec
  if s.code ≠ 's' then throw (.unknownCode s.code .str)
  if s.sign = some ' ' then throw .spaceOnText
  if s.sign.isSome then throw .signOnText
  if s.noNegativeZero then throw (.zeroSignOn .str)
  if s.alternate then throw .alternateOnText
  if s.align = .inner then throw .innerAlignmentOnText
  let cut := match s.precision with
    | some precision => cs.take precision
    | none => cs
  return { s with sign := none, separator := none }.place false [] [] cut

end Disasm32.Template
