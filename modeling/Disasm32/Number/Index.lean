/-! A position in a list is given by an index, an integer of 64 bits in two's complement; a negative
one counts from the end. `get_natCast` says that an index from zero up is the position itself. -/
namespace Disasm32.Index

inductive Error where
  /-- There is no such position. -/
  | outOfRange
  /-- The integer is no index. -/
  | tooLarge
  deriving DecidableEq, Repr

def Error.message : Error → String
  | outOfRange => "list index out of range"
  | tooLarge => "cannot fit 'int' into an index-sized integer"

def greatest : Nat := 0x7fffffffffffffff

def fits (n : Int) : Bool := -0x8000000000000000 ≤ n && n ≤ 0x7fffffffffffffff

def get (xs : List α) (n : Int) : Except Error α :=
  if !fits n then .error .tooLarge
  else
    let position := if n < 0 then n + xs.length else n
    if position < 0 then .error .outOfRange
    else match xs[position.toNat]? with
      | some x => .ok x
      | none => .error .outOfRange

theorem get_natCast {xs : List α} {n : Nat} (hn : n ≤ greatest) (h : n < xs.length) :
    get xs n = .ok xs[n] := by
  have hfits : fits (n : Int) = true := by
    unfold fits greatest at *
    simp only [Bool.and_eq_true, decide_eq_true_eq]
    omega
  have hpos : ¬ (n : Int) < 0 := by omega
  simp [get, hfits, hpos, h]

end Disasm32.Index
