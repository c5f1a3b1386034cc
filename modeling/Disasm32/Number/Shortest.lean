import Disasm32.Number.Binary64
import Disasm32.Text.Digits

/-! The text of a floating point number has the fewest digits that read back as the number, and of
those the nearest. It is positional from `1e-4` up to `1e16` and has an exponent elsewhere. -/
namespace Disasm32.Binary64

/-- The greatest `x` with `10 ^ x ≤ m * 2 ^ e`, for positive `m`. -/
def decimalExponent (m : Nat) (e : Int) : Int :=
  if 0 ≤ e then (Digits.digits 10 (m * Nat.pow 2 e.toNat)).length - 1
  else
    let den := Nat.pow 2 (-e).toNat
    if den ≤ m then (Digits.digits 10 (m / den)).length - 1
    else
      let j := (Digits.digits 10 (den / m)).length
      if den ≤ m * Nat.pow 10 (j - 1) then -((j : Int) - 1) else -j

/-- Both sides of the comparison of `digits * 10 ^ p` with `quarter * 2 ^ e / 4`, as natural
numbers. -/
def sides (digits : Nat) (p : Int) (quarter : Nat) (e : Int) : Nat × Nat :=
  (4 * digits * Nat.pow 10 p.toNat * Nat.pow 2 (-e).toNat,
    quarter * Nat.pow 2 e.toNat * Nat.pow 10 (-p).toNat)

/-- Whether `digits * 10 ^ p` reads back as `m * 2 ^ e`: it lies between the midpoints to the
neighbours, and on a midpoint only if the mantissa is even. -/
def readsBack (m : Nat) (e : Int) (digits : Nat) (p : Int) : Bool :=
  let below := if m = 0x10000000000000 ∧ minExponent < e then 4 * m - 1 else 4 * m - 2
  let lower := sides digits p below e
  let upper := sides digits p (4 * m + 2) e
  if m % 2 = 0 then lower.2 ≤ lower.1 && upper.1 ≤ upper.2
  else lower.2 < lower.1 && upper.1 < upper.2

/-- A decimal of `n` digits that reads back as `m * 2 ^ e`, the nearer if there are two. -/
def ofLength? (m : Nat) (e : Int) (n : Nat) : Option (Nat × Int) :=
  let p := decimalExponent m e - n + 1
  let exact :=
    (m * Nat.pow 2 e.toNat * Nat.pow 10 (-p).toNat, Nat.pow 2 (-e).toNat * Nat.pow 10 p.toNat)
  let down := exact.1 / exact.2
  match readsBack m e down p, readsBack m e (down + 1) p with
  | true, true => some (roundDiv exact.1 exact.2, p)
  | true, false => some (down, p)
  | false, true => some (down + 1, p)
  | false, false => none

def trimZeros (ds : List Char) : List Char :=
  (ds.reverse.dropWhile (· == '0')).reverse

/-- The fewest digits that read back, and the place of the point relative to their beginning. -/
def shortest (m : Nat) (e : Int) : List Char × Int :=
  match (List.range' 1 17).findSome? (ofLength? m e) with
  | some (digits, p) =>
    let ds := Digits.ofNat 10 digits
    (trimZeros ds, ds.length + p)
  | none => (['0'], 1)

def exponentText (x : Int) : List Char :=
  (if x < 0 then '-' else '+') :: Digits.padLeft '0' 2 (Digits.ofNat 10 x.natAbs)

/-- The digits written with a point after the first `point` of them, or with an exponent when
that needs too many zeros. -/
def layout (ds : List Char) (point : Int) : List Char :=
  if point < -3 ∨ 16 < point then
    let fraction := ds.drop 1
    ds.take 1 ++ (if fraction.isEmpty then [] else '.' :: fraction) ++
      'e' :: exponentText (point - 1)
  else if point ≤ 0 then
    '0' :: '.' :: List.replicate (-point).toNat '0' ++ ds
  else
    let fraction := ds.drop point.toNat
    Digits.padRight '0' point.toNat (ds.take point.toNat) ++
      '.' :: (if fraction.isEmpty then ['0'] else fraction)

def text : Binary64 → List Char
  | .nan => "nan".toList
  | .infinite negative => (if negative then "-inf" else "inf").toList
  | .finite negative m e =>
    let magnitude := if m = 0 then "0.0".toList else
      let (ds, point) := shortest m e
      layout ds point
    if negative then '-' :: magnitude else magnitude

end Disasm32.Binary64
