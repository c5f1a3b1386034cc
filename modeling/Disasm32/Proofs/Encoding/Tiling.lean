import Disasm32.Proofs.Encoding.Form
import Mathlib.Algebra.GroupWithZero.Nat
import Mathlib.Data.List.Forall2
import Mathlib.Data.List.Pairwise

/-! The fields of a form lie side by side and fill the word, so they determine its low bits. -/
namespace Disasm32

open Word Encoding

/-- The fields start at bit `lsb`, follow each other without a gap and end with the word. -/
def Tiles (lsb : Nat) : List Field → Prop
  | [] => lsb = 32
  | field :: fields => field.lsb = lsb ∧ Tiles (lsb + field.width) fields

instance Tiles.decidable : ∀ lsb fields, Decidable (Tiles lsb fields)
  | lsb, [] => inferInstanceAs (Decidable (lsb = 32))
  | lsb, field :: fields =>
    have := decidable (lsb + field.width) fields
    inferInstanceAs (Decidable (field.lsb = lsb ∧ Tiles (lsb + field.width) fields))

theorem Tiles.le {lsb : Nat} {fields : List Field} (tiles : Tiles lsb fields) : lsb ≤ 32 := by
  induction fields generalizing lsb with
  | nil => exact Nat.le_of_eq tiles
  | cons field fields ih => exact Nat.le_trans (Nat.le_add_right _ _) (ih tiles.2)

/-- Fields that fill the upper part of a word add up to it. -/
theorem Tiles.sum_eq {lsb : Nat} {fields : List Field} (tiles : Tiles lsb fields) (w : Int) :
    (fields.map fun field => field.read w * 2 ^ field.lsb).sum =
      bits w lsb (32 - lsb) * 2 ^ lsb := by
  induction fields generalizing lsb with
  | nil =>
    have empty := bits_lt w lsb (32 - lsb)
    rw [show lsb = 32 from tiles] at *
    simp only [Nat.sub_self, Nat.pow_eq, Nat.pow_zero, Nat.lt_one_iff] at empty
    simp [empty]
  | cons field fields ih =>
    obtain ⟨start, rest⟩ := tiles
    have inside := rest.le
    have split := bits_add w lsb field.width (32 - (lsb + field.width)) (by omega)
    rw [show field.width + (32 - (lsb + field.width)) = 32 - lsb by omega] at split
    rw [List.map_cons, List.sum_cons, ih rest, Field.read, start, split, Nat.add_mul, Nat.pow_add,
      Nat.mul_assoc, Nat.mul_comm (2 ^ field.width)]

theorem Form.tiles (f : Form) : Tiles 0 f.fields := by
  cases f <;> decide

/-- Words with the same fields in some form are the same word. -/
theorem Form.low_eq_of_fields_eq (f : Form) {a b : Int}
    (same : f.fields.Forall fun field => field.read a = field.read b) : low a = low b := by
  have ha := f.tiles.sum_eq a
  have hb := f.tiles.sum_eq b
  rw [List.forall_iff_forall_mem] at same
  rw [List.map_congr_left fun field member => by rw [same field member], hb] at ha
  simpa [← low_eq_bits] using ha.symm

/-- The entry is the field's: it has its name and a value of its width. -/
structure Field.Has (field : Field) (entry : String × Nat) : Prop where
  name : entry.1 = field.name
  fits : entry.2 < 2 ^ field.width

/-- The number with the values of the entries at the positions of the fields. -/
def Encoding.total (e : Encoding) (entries : List (String × Nat)) : Nat :=
  (e.fields.zipWith (fun field entry => entry.2 * 2 ^ field.lsb) entries).sum

/-- Fields that follow each other are in the order of their positions. -/
theorem Tiles.pairwise {lsb : Nat} {fields : List Field} (tiles : Tiles lsb fields)
    (wide : ∀ field ∈ fields, 0 < field.width) :
    (∀ field ∈ fields, lsb ≤ field.lsb) ∧ fields.Pairwise fun f g => f.lsb < g.lsb := by
  induction fields generalizing lsb with
  | nil => simp
  | cons field fields ih =>
    obtain ⟨start, rest⟩ := tiles
    rw [List.forall_mem_cons] at wide
    obtain ⟨above, ordered⟩ := ih rest wide.2
    have upper : ∀ g ∈ fields, field.lsb < g.lsb := by
      intro g member
      have := above g member
      omega
    refine ⟨?_, List.pairwise_cons.2 ⟨upper, ordered⟩⟩
    intro g member
    rcases List.mem_cons.1 member with rfl | later
    · exact Nat.le_of_eq start.symm
    · have := upper g later
      omega

namespace Encoding

variable {e : Encoding} {v w : Int}

theorem names_nodup : ∀ e ∈ table, (e.fields.map (·.name)).Nodup := by decide

theorem width_pos : ∀ e ∈ table, ∀ field ∈ e.fields, 0 < field.width := by decide

theorem tiles_fields (listed : e ∈ table) : Tiles 0 e.fields := by
  rw [fields_of_mem e listed]
  exact e.form.tiles

/-- In whatever order a row names its fields, from the lowest to the highest there is one list. -/
theorem eq_fields_of_perm (listed : e ∈ table) {fields : List Field} (same : fields.Perm e.fields)
    (ordered : fields.Pairwise fun f g => f.lsb ≤ g.lsb) : fields = e.fields := by
  have strict := ((tiles_fields listed).pairwise (width_pos e listed)).2
  have apart : (e.fields.map (·.lsb)).Nodup := List.pairwise_map.2 (strict.imp Nat.ne_of_lt)
  refine List.Perm.eq_of_pairwise ?_ ordered (strict.imp Nat.le_of_lt) same
  intro f g hf hg below above
  exact List.inj_on_of_nodup_map apart (same.subset hf) hg (Nat.le_antisymm below above)

theorem forall₂_has (listed : e ∈ table) (w : Int) :
    List.Forall₂ Field.Has e.fields (e.describe w) := by
  rw [describe_eq listed, fields_of_mem e listed, List.forall₂_map_right_iff, List.forall₂_same]
  intro field _
  exact ⟨rfl, bits_lt w field.lsb field.width⟩

theorem total_describe (listed : e ∈ table) (w : Int) : e.total (e.describe w) = low w := by
  have sum := (tiles_fields listed).sum_eq w
  rw [Nat.pow_zero, Nat.mul_one, ← low_eq_bits] at sum
  rw [← sum, total, describe_eq listed, fields_of_mem e listed, List.zipWith_map_right,
    List.zipWith_self]

theorem describe_congr (listed : e ∈ table) (same : low v = low w) :
    e.describe v = e.describe w := by
  rw [describe_eq listed, describe_eq listed]
  refine List.map_congr_left fun field member => ?_
  rw [Field.read, Field.read, bits_congr same (Form.inside_of_mem field member)]

/-- The description of a word loses nothing of its low 32 bits. -/
theorem describe_lossless (listed : e ∈ table) (w : Int) :
    Tiles 0 e.fields ∧ (e.fields.map (·.name)).Nodup ∧
      (∀ fields : List Field, fields.Perm e.fields →
        (fields.Pairwise fun f g => f.lsb ≤ g.lsb) → fields = e.fields) ∧
      List.Forall₂ Field.Has e.fields (e.describe w) ∧
      (e.total (e.describe w) : Int) = w % 0x100000000 ∧
      ∀ v, e.describe v = e.describe w ↔ v % 0x100000000 = w % 0x100000000 := by
  refine ⟨tiles_fields listed, names_nodup e listed, fun _ => eq_fields_of_perm listed,
    forall₂_has listed w, ?_, fun v => ?_⟩
  · rw [total_describe listed, low]
    omega
  · rw [← low_eq_low_iff]
    constructor
    · intro same
      rw [← total_describe listed v, same, total_describe listed w]
    · exact describe_congr listed

/-- A branch eight bytes back, given as a negative number. -/
theorem describe_lossless_branch :
    let e := branchRow "BNE" 0x00001063
    e ∈ table ∧ Tiles 0 e.fields ∧ (e.fields.map (·.name)).Nodup ∧
      (∀ fields : List Field, fields.Perm e.fields →
        (fields.Pairwise fun f g => f.lsb ≤ g.lsb) → fields = e.fields) ∧
      List.Forall₂ Field.Has e.fields (e.describe (-0x1ff631d)) ∧
      (e.total (e.describe (-0x1ff631d)) : Int) = -0x1ff631d % 0x100000000 ∧
      ∀ v, e.describe v = e.describe (-0x1ff631d) ↔ v % 0x100000000 = -0x1ff631d % 0x100000000 :=
  have listed : branchRow "BNE" 0x00001063 ∈ table := by decide
  ⟨listed, describe_lossless listed (-0x1ff631d)⟩

end Encoding

end Disasm32
