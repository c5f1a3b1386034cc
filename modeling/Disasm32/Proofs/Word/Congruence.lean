import Disasm32.Proofs.Cache.Runs
import Disasm32.Proofs.Encoding.Tiling
import Disasm32.Proofs.Word.Formats
import Mathlib.Data.Int.Bitwise

/-! Words that agree in their low 32 bits. Fields, immediates and the masks of the encodings are
taken from the integer as it is, in two's complement without end, but none of them reaches above
bit 31; so a word may be replaced by its low bits everywhere. -/
namespace Disasm32

open Word

namespace Word

theorem land_ones (w : Int) (k : Nat) : Int.land w (2 ^ k - 1 : Nat) = w % (2 ^ k : Nat) := by
  cases w with
  | ofNat n => exact congrArg Int.ofNat (Nat.and_two_pow_sub_one_eq_mod n k)
  | negSucc n =>
    have below : n % 2 ^ k < 2 ^ k := Nat.mod_lt n (Nat.two_pow_pos k)
    have rest : (2 ^ k - 1).ldiff n = 2 ^ k - (n % 2 ^ k + 1) := by
      refine Nat.eq_of_testBit_eq fun i => ?_
      rw [Nat.testBit_ldiff, Nat.testBit_two_pow_sub_one, Nat.testBit_two_pow_sub_succ below,
        Nat.testBit_mod_two_pow]
      by_cases inside : i < k <;> simp [inside]
    have reduced : Int.negSucc n % (2 ^ k : Nat) = (2 ^ k - (n % 2 ^ k + 1) : Nat) := by
      rw [Int.negSucc_emod n (Int.natCast_pos.2 (Nat.two_pow_pos k)), ← Int.natCast_emod]
      omega
    rw [reduced, ← rest]
    rfl

theorem land_land (w : Int) (a b : Nat) :
    Int.land (Int.land w a) b = Int.land w (a &&& b : Nat) := by
  cases w with
  | ofNat n => exact congrArg Int.ofNat (Nat.land_assoc n a b)
  | negSucc n =>
    refine congrArg Int.ofNat (Nat.eq_of_testBit_eq fun i => ?_)
    rw [Nat.testBit_and, Nat.testBit_ldiff, Nat.testBit_ldiff, Nat.testBit_and,
      Bool.and_right_comm]

theorem low_eq_emod (w : Int) : (low w : Int) = w % 0x100000000 := by
  unfold low
  omega

/-- A mask of 32 bits sees the low bits only. -/
theorem land_low (w : Int) {mask : Nat} (bound : mask < 2 ^ 32) :
    Int.land (low w) mask = Int.land w mask := by
  have ones : (low w : Int) = Int.land w (2 ^ 32 - 1 : Nat) := by
    rw [land_ones, low_eq_emod]
    rfl
  rw [ones, land_land, Nat.and_comm, Nat.and_two_pow_sub_one_of_lt_two_pow bound]

end Word

/-- The bits of an integer that the mask selects, of whatever size and sign it is, are those of the
pattern. -/
def Encoding.CoversInteger (e : Encoding) (w : Int) : Prop := Int.land w e.mask = e.pattern

theorem Encoding.mask_lt : ∀ e ∈ table, e.mask < 2 ^ 32 := by decide

theorem Encoding.coversInteger_iff {e : Encoding} (listed : e ∈ table) (w : Int) :
    e.CoversInteger w ↔ e.covers w := by
  rw [CoversInteger, ← land_low w (mask_lt e listed), covers_iff]
  exact Int.natCast_inj

/-- No reading of a word tells the two words apart. -/
structure Alike (d : Display) (v w : Int) : Prop where
  /-- The plain fields are such slices, and so are the groups that make up an immediate. -/
  slices : ∀ lsb width, lsb + width ≤ 32 → bits v lsb width = bits w lsb width
  immediates : ∀ format : Word.Format, format.imm v = format.imm w
  row : Encoding.ofWord? v = Encoding.ofWord? w
  covered : ∀ e ∈ Encoding.table, e.CoversInteger v ↔ e.CoversInteger w
  described : ∀ e ∈ Encoding.table, e.describe v = e.describe w
  decoded : d.decode v = d.decode w
  outcome : d.decodeWord v = d.decodeWord w
  cached : ∀ c : Cache, c.display = d → c.update v = c.update w

variable {v w : Int}

theorem Word.imm_congr (same : low v = low w) (format : Word.Format) :
    format.imm v = format.imm w := by
  have slice {lsb width : Nat} (inside : lsb + width ≤ 32) := bits_congr same inside
  cases format <;>
    simp (disch := decide) only [Format.imm, immI, immS, immB, immU, immJ, withSign, slice]

theorem Encoding.ofWord?_congr (same : low v = low w) : ofWord? v = ofWord? w := by
  simp only [ofWord?, covers, same]

theorem Cache.update_congr (c : Cache) (same : low v = low w) : c.update v = c.update w := by
  simp only [update, update.decodeInto, same]

theorem alike_of_low_eq (d : Display) (same : low v = low w) : Alike d v w where
  slices _ _ inside := bits_congr same inside
  immediates := imm_congr same
  row := Encoding.ofWord?_congr same
  covered e listed := by
    rw [Encoding.coversInteger_iff listed, Encoding.coversInteger_iff listed, Encoding.covers,
      Encoding.covers, same]
  described _ listed := Encoding.describe_congr listed same
  decoded := d.decode_congr (Instruction.ofWord?_congr same)
  outcome := Display.decodeWord_congr same
  cached c _ := c.update_congr same

/-- Only the low 32 bits of a word matter; they are also the word of its outcome, which there is
if the column can be laid out or is not needed. -/
theorem alike_low {d : Display} {width : Int} (columns : d.mnemonicWidth = .columns width)
    (w : Int) :
    (low w : Int) = w % 0x100000000 ∧ Alike d w (low w) ∧
      (∀ r, d.decodeWord w = .ok r → r.word = low w) ∧
      ((∃ r, d.decodeWord w = .ok r) ↔ FitsColumn width ∨ Bare w) :=
  ⟨low_eq_emod w, alike_of_low_eq d (low_low w).symm, fun _ => Display.word_of_decodeWord,
    Display.exists_decodeWord_iff columns⟩

/-- A negative number with the low bits of an addition. -/
theorem alike_low_negative :
    ({} : Display).mnemonicWidth = .columns 9 ∧ low (-0xffffffed) = 0x13 ∧
      (low (-0xffffffed) : Int) = -0xffffffed % 0x100000000 ∧
      Alike {} (-0xffffffed) (low (-0xffffffed)) ∧
      (∀ r, ({} : Display).decodeWord (-0xffffffed) = .ok r → r.word = low (-0xffffffed)) ∧
      ((∃ r, ({} : Display).decodeWord (-0xffffffed) = .ok r) ↔
        FitsColumn 9 ∨ Bare (-0xffffffed)) :=
  ⟨rfl, by decide, alike_low rfl (-0xffffffed)⟩

end Disasm32
