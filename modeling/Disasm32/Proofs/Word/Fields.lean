import Disasm32.Word.Immediate
import Mathlib.Algebra.Group.Nat.Defs

/-! Fields as digits of the low 32 bits. A field splits into two neighbouring ones, and every
immediate is a field, or a few of them side by side, read in two's complement. -/
namespace Disasm32.Word

theorem bits_natCast (n lsb width : Nat) :
    bits (n : Int) lsb width = n / 2 ^ lsb % 2 ^ width := by
  have h : ((n : Int) / (2 ^ lsb : Nat) % (2 ^ width : Nat)) = (n / 2 ^ lsb % 2 ^ width : Nat) := by
    push_cast
    rfl
  simp only [bits, Nat.pow_eq]
  rw [h, Int.toNat_natCast]

theorem bits_eq_low_div (w : Int) {lsb width : Nat} (inside : lsb + width ≤ 32) :
    bits w lsb width = low w / 2 ^ lsb % 2 ^ width := by
  rw [← bits_low w inside, bits_natCast]

theorem bits_congr {v w : Int} (same : low v = low w) {lsb width : Nat}
    (inside : lsb + width ≤ 32) : bits v lsb width = bits w lsb width := by
  rw [bits_eq_low_div v inside, bits_eq_low_div w inside, same]

theorem low_eq_bits (w : Int) : low w = bits w 0 32 := by
  have bound := low_lt w
  rw [bits_eq_low_div w (by decide), Nat.pow_zero, Nat.div_one]
  exact (Nat.mod_eq_of_lt bound).symm

theorem low_low (w : Int) : low (low w) = low w := by
  have bound := low_lt w
  unfold low count at *
  omega

theorem low_eq_low_iff (a b : Int) : low a = low b ↔ a % 0x100000000 = b % 0x100000000 := by
  unfold low
  omega

@[simp] theorem opcode_low (w : Int) : opcode (low w) = opcode w := bits_low w (by decide)
@[simp] theorem rd_low (w : Int) : rd (low w) = rd w := bits_low w (by decide)
@[simp] theorem funct3_low (w : Int) : funct3 (low w) = funct3 w := bits_low w (by decide)
@[simp] theorem rs1_low (w : Int) : rs1 (low w) = rs1 w := bits_low w (by decide)
@[simp] theorem rs2_low (w : Int) : rs2 (low w) = rs2 w := bits_low w (by decide)
@[simp] theorem funct7_low (w : Int) : funct7 (low w) = funct7 w := bits_low w (by decide)
@[simp] theorem funct12_low (w : Int) : funct12 (low w) = funct12 w := bits_low w (by decide)

theorem opcode_lt (w : Int) : opcode w < 0x80 := bits_lt w 0 7
theorem rd_lt (w : Int) : rd w < 0x20 := bits_lt w 7 5
theorem funct3_lt (w : Int) : funct3 w < 8 := bits_lt w 12 3
theorem rs1_lt (w : Int) : rs1 w < 0x20 := bits_lt w 15 5
theorem rs2_lt (w : Int) : rs2 w < 0x20 := bits_lt w 20 5
theorem funct7_lt (w : Int) : funct7 w < 0x80 := bits_lt w 25 7

/-- A field is its lower part and, above it, its upper part. -/
theorem bits_add (w : Int) (lsb lower upper : Nat) (inside : lsb + lower + upper ≤ 32) :
    bits w lsb (lower + upper) =
      bits w lsb lower + bits w (lsb + lower) upper * 2 ^ lower := by
  rw [bits_eq_low_div w (by omega), bits_eq_low_div w (by omega), bits_eq_low_div w (by omega),
    Nat.pow_add, Nat.mod_mul, Nat.div_div_eq_div_mul, ← Nat.pow_add, Nat.mul_comm (2 ^ lower)]

def signExtend (width n : Nat) : Int :=
  if n < 2 ^ (width - 1) then n else n - (2 ^ width : Nat)

theorem signExtend_inj {width m n : Nat} (hm : m < 2 ^ width) (hn : n < 2 ^ width)
    (same : signExtend width m = signExtend width n) : m = n := by
  unfold signExtend at same
  split at same <;> split at same <;> omega

theorem natAbs_signExtend_lt {width n : Nat} (bound : n < 2 ^ width) :
    (signExtend width n).natAbs < 2 ^ width := by
  have half := Nat.two_pow_pos (width - 1)
  unfold signExtend
  split <;> omega

/-- The sign of an immediate is its top bit. -/
theorem withSign_eq (w : Int) (k : Nat) {weight raw : Nat} (power : weight = 2 ^ k)
    (bound : raw < weight) :
    withSign w weight raw = signExtend (k + 1) (bits w 31 1 * weight + raw) := by
  subst power
  have sign : bits w 31 1 = 0 ∨ bits w 31 1 = 1 := by
    have := bits_lt w 31 1
    simp only [Nat.pow_eq] at this
    omega
  unfold withSign signExtend
  rcases sign with sign | sign <;> rw [sign, Nat.add_sub_cancel, Nat.pow_succ]
  · rw [if_pos (by omega)]
    omega
  · rw [if_neg (by omega)]
    push_cast
    omega

theorem immI_eq (w : Int) : immI w = signExtend 12 (bits w 20 12) := by
  have h25 := bits_lt w 25 6
  have h21 := bits_lt w 21 4
  have h20 := bits_lt w 20 1
  have top := bits_add w 20 11 1 (by decide)
  have middle := bits_add w 20 5 6 (by decide)
  have bottom := bits_add w 20 1 4 (by decide)
  simp only [Nat.pow_eq, Nat.reduceAdd, Nat.reducePow] at *
  rw [immI, withSign_eq w 11 (show 0x800 = 2 ^ 11 from rfl) (by omega), top, middle, bottom]
  exact congrArg (signExtend 12) (by omega)

theorem immS_eq (w : Int) : immS w = signExtend 12 (bits w 25 7 * 0x20 + bits w 7 5) := by
  have h25 := bits_lt w 25 6
  have h8 := bits_lt w 8 4
  have h7 := bits_lt w 7 1
  have top := bits_add w 25 6 1 (by decide)
  have bottom := bits_add w 7 1 4 (by decide)
  simp only [Nat.pow_eq, Nat.reduceAdd, Nat.reducePow] at *
  rw [immS, withSign_eq w 11 (show 0x800 = 2 ^ 11 from rfl) (by omega), top, bottom]
  exact congrArg (signExtend 12) (by omega)

theorem immB_eq (w : Int) :
    immB w = signExtend 13
      (bits w 31 1 * 0x1000 + bits w 7 1 * 0x800 + bits w 25 6 * 0x20 + bits w 8 4 * 2) := by
  have h25 := bits_lt w 25 6
  have h8 := bits_lt w 8 4
  have h7 := bits_lt w 7 1
  simp only [Nat.pow_eq, Nat.reducePow] at *
  rw [immB, withSign_eq w 12 (show 0x1000 = 2 ^ 12 from rfl) (by omega)]
  exact congrArg (signExtend 13) (by omega)

theorem low_immU (w : Int) : low (immU w) = bits w 12 20 * 0x1000 := by
  have sign := bits_lt w 31 1
  have h12 := bits_lt w 12 19
  have top := bits_add w 12 19 1 (by decide)
  simp only [Nat.pow_eq, Nat.reduceAdd, Nat.reducePow] at *
  simp only [immU, withSign, low]
  omega

theorem immJ_eq (w : Int) :
    immJ w = signExtend 21
      (bits w 31 1 * 0x100000 + bits w 12 8 * 0x1000 + bits w 20 1 * 0x800 +
        bits w 21 10 * 2) := by
  have h12 := bits_lt w 12 8
  have h20 := bits_lt w 20 1
  have h21 := bits_lt w 21 4
  have h25 := bits_lt w 25 6
  have middle := bits_add w 21 4 6 (by decide)
  simp only [Nat.pow_eq, Nat.reduceAdd, Nat.reducePow] at *
  rw [immJ, withSign_eq w 20 (show 0x100000 = 2 ^ 20 from rfl) (by omega), middle]
  exact congrArg (signExtend 21) (by omega)

variable {a b : Int}

theorem bits_eq_of_immI_eq (same : immI a = immI b) : bits a 20 12 = bits b 20 12 := by
  rw [immI_eq, immI_eq] at same
  exact signExtend_inj (bits_lt a 20 12) (bits_lt b 20 12) same

theorem bits_eq_of_immS_eq (same : immS a = immS b) :
    bits a 25 7 = bits b 25 7 ∧ bits a 7 5 = bits b 7 5 := by
  have ha := bits_lt a 25 7
  have hb := bits_lt b 25 7
  have la := bits_lt a 7 5
  have lb := bits_lt b 7 5
  simp only [Nat.pow_eq, Nat.reducePow] at *
  rw [immS_eq, immS_eq] at same
  have raw := signExtend_inj (by omega) (by omega) same
  omega

theorem bits_eq_of_immB_eq (same : immB a = immB b) :
    bits a 31 1 = bits b 31 1 ∧ bits a 7 1 = bits b 7 1 ∧ bits a 25 6 = bits b 25 6 ∧
      bits a 8 4 = bits b 8 4 := by
  have bounds (w : Int) : bits w 31 1 < 2 ∧ bits w 7 1 < 2 ∧ bits w 25 6 < 64 ∧ bits w 8 4 < 16 :=
    ⟨bits_lt w 31 1, bits_lt w 7 1, bits_lt w 25 6, bits_lt w 8 4⟩
  have ha := bounds a
  have hb := bounds b
  rw [immB_eq, immB_eq] at same
  have raw := signExtend_inj (by omega) (by omega) same
  omega

theorem bits_eq_of_immU_eq (same : low (immU a) = low (immU b)) :
    bits a 12 20 = bits b 12 20 := by
  rw [low_immU, low_immU] at same
  omega

theorem bits_eq_of_immJ_eq (same : immJ a = immJ b) :
    bits a 31 1 = bits b 31 1 ∧ bits a 12 8 = bits b 12 8 ∧ bits a 20 1 = bits b 20 1 ∧
      bits a 21 10 = bits b 21 10 := by
  have bounds (w : Int) :
      bits w 31 1 < 2 ∧ bits w 12 8 < 256 ∧ bits w 20 1 < 2 ∧ bits w 21 10 < 1024 :=
    ⟨bits_lt w 31 1, bits_lt w 12 8, bits_lt w 20 1, bits_lt w 21 10⟩
  have ha := bounds a
  have hb := bounds b
  rw [immJ_eq, immJ_eq] at same
  have raw := signExtend_inj (by omega) (by omega) same
  omega

end Disasm32.Word
