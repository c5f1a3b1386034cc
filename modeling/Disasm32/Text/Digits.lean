/-! Writing natural numbers and integers in a base, with the most significant digit first, and
filling a text up to a width. `value_ofNat` says that the digits written have the number's value. -/
namespace Disasm32.Digits

def char (d : Nat) : Char :=
  if d < 10 then Char.ofNat (48 + d) else Char.ofNat (87 + d)

def digits (base : Nat) (n : Nat) : List Nat :=
  if _h : n < base ∨ base < 2 then [n]
  else digits base (n / base) ++ [n % base]
termination_by n
decreasing_by
  have : 2 ≤ base := by omega
  exact Nat.div_lt_self (by omega) (by omega)

def ofNat (base : Nat) (n : Nat) : List Char :=
  (digits base n).map char

def value (base : Nat) (ds : List Nat) : Nat :=
  ds.foldl (fun n d => n * base + d) 0

theorem value_append_singleton (base : Nat) (ds : List Nat) (d : Nat) :
    value base (ds ++ [d]) = value base ds * base + d := by
  simp [value]

theorem value_digits (base n : Nat) : value base (digits base n) = n := by
  induction n using Nat.strongRecOn with
  | _ n ih =>
    unfold digits
    split
    · simp [value]
    · rename_i h
      have hlt : n / base < n := Nat.div_lt_self (by omega) (by omega)
      rw [value_append_singleton, ih _ hlt, Nat.mul_comm]
      exact Nat.div_add_mod n base

theorem digits_ne_nil (base n : Nat) : digits base n ≠ [] := by
  unfold digits
  split <;> simp

def padLeft (fill : Char) (width : Nat) (cs : List Char) : List Char :=
  List.replicate (width - cs.length) fill ++ cs

def padRight (fill : Char) (width : Nat) (cs : List Char) : List Char :=
  cs ++ List.replicate (width - cs.length) fill

def hex (width : Nat) (n : Nat) : List Char :=
  padLeft '0' width (ofNat 16 n)

def decimal (n : Int) : List Char :=
  if n < 0 then '-' :: ofNat 10 n.natAbs else ofNat 10 n.natAbs

/-- The hexadecimal numeral of the magnitude of `n` with at least `width` characters, the minus
sign counted among them. -/
def signedHex (width : Nat) (n : Int) : List Char :=
  if n < 0 then '-' :: hex (width - 1) n.natAbs else hex width n.natAbs

end Disasm32.Digits
