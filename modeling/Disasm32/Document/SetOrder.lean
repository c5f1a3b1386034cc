import Disasm32.Document.Value

/-! A set of numbers is shown in the order of the places that its items take in a table with more
than twice as many places: each item prefers the place that its value gives and moves on while the
place is taken. Any other set keeps the order in which its items are written. -/
namespace Disasm32.SetOrder

def modulus : Nat := 0x1fffffffffffffff

/-- A remainder with a sign; `-1` is not among them. -/
def signed (negative : Bool) (n : Nat) : Int :=
  if negative then if n = 1 then -2 else -n else n

/-- What the place of a number depends on. Multiplying by `2 ^ 61` changes nothing under the
modulus. -/
def key? (v : Value) : Option Int :=
  match v.number? with
  | some (.inl n) => some (signed (n < 0) (n.natAbs % modulus))
  | some (.inr (.finite negative m e)) =>
    some (signed negative (m * Nat.pow 2 (e % 61).toNat % modulus))
  | some (.inr (.infinite negative)) => some (if negative then -314159 else 314159)
  | _ => none

def places (n : Nat) : Nat :=
  if n < 5 then 8 else Nat.pow 2 ((2 * n).log2 + 1)

/-- The first free place among `size`, from the place `i` on: of ten in a row if the row does not
reach the end, else of one; then from a place further on that `rest` helps to choose. -/
def freePlace (size : Nat) (taken : List Nat) : Nat → Nat → Nat → Nat
  | 0, _, i => i
  | turns + 1, rest, i =>
    let row := if i + 9 < size then List.range' i 10 else [i]
    match row.find? (!taken.contains ·) with
    | some place => place
    | none => freePlace size taken turns (rest / 32) ((i * 5 + 1 + rest / 32) % size)

def placesFrom (size : Nat) : List Nat → List Int → List Nat
  | _, [] => []
  | taken, key :: keys =>
    let start := (key % 0x10000000000000000).toNat
    let place := freePlace size taken (size + 16) start (start % size)
    place :: placesFrom size (place :: taken) keys

def sort (items : List Value) : List Value :=
  match items.mapM key? with
  | some keys =>
    let placed := (placesFrom (places items.length) [] keys).zip items
    (placed.mergeSort fun a b => a.1 ≤ b.1).map (·.2)
  | none => items

end Disasm32.SetOrder
