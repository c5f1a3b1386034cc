/-! A real number in the 64-bit format, held exactly: a sign, a mantissa and a power of two.
`ofRatio` and `ofDecimal` round to the nearest such number, a half to the even neighbour. -/
namespace Disasm32

/-- The quotient rounded to the nearest natural number, a half to the even neighbour. -/
def roundDiv (num den : Nat) : Nat :=
  let q := num / den
  let r := num % den
  if 2 * r < den then q
  else if den < 2 * r then q + 1
  else if q % 2 = 0 then q else q + 1

/-- A floating point number; a finite one is `± mantissa * 2 ^ exponent`. -/
inductive Binary64 where
  | finite (negative : Bool) (mantissa : Nat) (exponent : Int)
  | infinite (negative : Bool)
  | nan
  deriving DecidableEq, Repr

namespace Binary64

def minExponent : Int := -1074

def maxExponent : Int := 971

/-- The quotient `num / (den * 2 ^ e)` as a pair of natural numbers. -/
def scaled (num den : Nat) (e : Int) : Nat × Nat :=
  if 0 ≤ e then (num, den * Nat.pow 2 e.toNat) else (num * Nat.pow 2 (-e).toNat, den)

def ofRatio (negative : Bool) (num den : Nat) : Binary64 :=
  if num = 0 then .finite negative 0 minExponent
  else
    let first := max ((num.log2 : Int) - den.log2 - 53) minExponent
    let rough := scaled num den first
    let e := if 0x20000000000000 ≤ rough.1 / rough.2 then first + 1 else first
    let exact := scaled num den e
    let m := roundDiv exact.1 exact.2
    let rounded : Nat × Int := if m = 0x20000000000000 then (0x10000000000000, e + 1) else (m, e)
    if maxExponent < rounded.2 then .infinite negative
    else .finite negative rounded.1 rounded.2

def ofDecimal (negative : Bool) (m : Nat) (e : Int) : Binary64 :=
  if m = 0 then .finite negative 0 minExponent
  else
    -- `m` lies between `8 ^ (log2 m / 3)` and `10 ^ (log2 m + 1)`.
    if 400 < e + m.log2 / 4 then .infinite negative
    else if e + m.log2 + 1 < -400 then .finite negative 0 minExponent
    else if 0 ≤ e then ofRatio negative (m * Nat.pow 10 e.toNat) 1
    else ofRatio negative m (Nat.pow 10 (-e).toNat)

def ofNat (n : Nat) : Binary64 :=
  ofRatio false n 1

def zero : Binary64 := .finite false 0 minExponent

def negate : Binary64 → Binary64
  | .finite negative m e => .finite (!negative) m e
  | .infinite negative => .infinite (!negative)
  | .nan => .nan

def add : Binary64 → Binary64 → Binary64
  | .nan, _ | _, .nan => .nan
  | .infinite a, .infinite b => if a = b then .infinite a else .nan
  | .infinite a, .finite .. => .infinite a
  | .finite .., .infinite b => .infinite b
  | .finite a m e, .finite b n f =>
    let low := min e f
    let left : Int := (if a then -1 else 1) * (m * Nat.pow 2 (e - low).toNat)
    let right : Int := (if b then -1 else 1) * (n * Nat.pow 2 (f - low).toNat)
    let sum := left + right
    let negative := if sum = 0 then a && b else decide (sum < 0)
    if 0 ≤ low then ofRatio negative (sum.natAbs * Nat.pow 2 low.toNat) 1
    else ofRatio negative sum.natAbs (Nat.pow 2 (-low).toNat)

def mul : Binary64 → Binary64 → Binary64
  | .nan, _ | _, .nan => .nan
  | .infinite a, .infinite b => .infinite (a != b)
  | .infinite a, .finite b n _ => if n = 0 then .nan else .infinite (a != b)
  | .finite a m _, .infinite b => if m = 0 then .nan else .infinite (a != b)
  | .finite a m e, .finite b n f =>
    let power := e + f
    if 0 ≤ power then ofRatio (a != b) (m * n * Nat.pow 2 power.toNat) 1
    else ofRatio (a != b) (m * n) (Nat.pow 2 (-power).toNat)

def isIntegral : Binary64 → Bool
  | .finite _ m e => decide (0 ≤ e) || m % Nat.pow 2 (-e).toNat == 0
  | _ => false

def toInt? : Binary64 → Option Int
  | .finite negative m e =>
    let magnitude : Nat := if 0 ≤ e then m * Nat.pow 2 e.toNat else m / Nat.pow 2 (-e).toNat
    if isIntegral (.finite negative m e) then
      some (if negative then -magnitude else magnitude)
    else none
  | _ => none

/-- The greatest natural number that is not above a finite number from zero up. -/
def floor : Binary64 → Nat
  | .finite false m e => if 0 ≤ e then m * Nat.pow 2 e.toNat else m / Nat.pow 2 (-e).toNat
  | _ => 0

def ltInt : Binary64 → Int → Bool
  | .finite negative m e, n =>
    let value : Int := if negative then -m else m
    if 0 ≤ e then value * Nat.pow 2 e.toNat < n else value < n * Nat.pow 2 (-e).toNat
  | .infinite negative, _ => negative
  | .nan, _ => false

def gtInt : Binary64 → Int → Bool
  | .finite negative m e, n =>
    let value : Int := if negative then -m else m
    if 0 ≤ e then n < value * Nat.pow 2 e.toNat else n * Nat.pow 2 (-e).toNat < value
  | .infinite negative, _ => !negative
  | .nan, _ => false

end Binary64

end Disasm32
