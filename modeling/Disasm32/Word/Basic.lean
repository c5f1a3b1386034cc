/-! An instruction word is given as an integer of any size and sign; only its low 32 bits, read in
two's complement, matter. `bits w lsb width` is the field of `width` bits that starts at bit `lsb`,
and the named fields are the slices that the instruction formats share. -/
namespace Disasm32.Word

def count : Nat := 0x100000000

def low (w : Int) : Nat :=
  (w % 0x100000000).toNat

def signed (w : Int) : Int :=
  if low w < 0x80000000 then low w else low w - 0x100000000

/-- The `width` bits from bit `lsb` up. -/
def bits (w : Int) (lsb width : Nat) : Nat :=
  (w / Nat.pow 2 lsb % Nat.pow 2 width).toNat

theorem low_lt (w : Int) : low w < count := by
  unfold low count
  omega

theorem bits_lt (w : Int) (lsb width : Nat) : bits w lsb width < Nat.pow 2 width := by
  have hp : (0 : Int) < Nat.pow 2 width := Int.natCast_pos.2 (Nat.pow_pos (by decide))
  have h := Int.emod_lt_of_pos (w / Nat.pow 2 lsb) hp
  have h' := Int.emod_nonneg (w / Nat.pow 2 lsb) (Int.ne_of_gt hp)
  unfold bits
  omega

/-- A field inside the low 32 bits depends on them alone. -/
theorem bits_low (w : Int) {lsb width : Nat} (h : lsb + width ≤ 32) :
    bits (low w) lsb width = bits w lsb width := by
  have hlow : ((low w : Nat) : Int) = w % 2 ^ 32 := by
    unfold low
    omega
  have hcast (n : Nat) : ((Nat.pow 2 n : Nat) : Int) = 2 ^ n := by simp
  have hsplit : (2 : Int) ^ 32 = 2 ^ lsb * (2 ^ width * 2 ^ (32 - lsb - width)) := by
    rw [← Int.pow_add, ← Int.pow_add]
    congr 1
    omega
  have hpos : (0 : Int) < 2 ^ lsb := Int.pow_pos (by decide)
  unfold bits
  rw [hlow, hcast, hcast, hsplit]
  congr 1
  have hdiv : w % (2 ^ lsb * (2 ^ width * 2 ^ (32 - lsb - width))) / 2 ^ lsb =
      w / 2 ^ lsb % (2 ^ width * 2 ^ (32 - lsb - width)) := by
    rw [Int.emod_def, Int.sub_ediv_of_dvd _ (by rw [Int.mul_assoc]; exact Int.dvd_mul_right _ _),
      Int.mul_assoc, Int.mul_ediv_cancel_left _ (Int.ne_of_gt hpos), Int.emod_def,
      Int.ediv_ediv_of_nonneg (Int.le_of_lt hpos)]
  rw [hdiv, Int.emod_emod_of_dvd _ (Int.dvd_mul_right _ _)]

def opcode (w : Int) : Nat := bits w 0 7
def rd (w : Int) : Nat := bits w 7 5
def funct3 (w : Int) : Nat := bits w 12 3
def rs1 (w : Int) : Nat := bits w 15 5
def rs2 (w : Int) : Nat := bits w 20 5
def funct7 (w : Int) : Nat := bits w 25 7

/-- The twelve bits that tell the environment instructions apart. -/
def funct12 (w : Int) : Nat := bits w 20 12

end Disasm32.Word
