import Disasm32.Proofs.Encoding.Selection
import Mathlib.Data.List.Pairwise
import Mathlib.Data.List.Perm.Basic

/-! Rows that no word shares. Two rows are apart if they fix a common bit in different ways, and
any two rows of the table are. So a word is covered by one row at most, and every order of the
table finds it. -/
namespace Disasm32.Encoding

open Word

/-- The bits that both rows fix have another value in one row than in the other. -/
def Apart (e f : Encoding) : Prop := e.pattern &&& f.mask ≠ f.pattern &&& e.mask

instance (e f : Encoding) : Decidable (Apart e f) := inferInstanceAs (Decidable (_ ≠ _))

instance : Std.Symm Apart := ⟨fun _ _ => Ne.symm⟩

variable {e f : Encoding} {rows : List Encoding} {w : Int}

/-- What two rows that cover a word fix in common are bits of the word. -/
theorem not_apart_of_covers (he : e.covers w) (hf : f.covers w) : ¬Apart e f := by
  rw [covers_iff] at he hf
  rw [Apart, not_not, ← he, ← hf, Nat.and_assoc, Nat.and_comm e.mask, ← Nat.and_assoc]

theorem eq_of_covers (apart : rows.Pairwise Apart) (he : e ∈ rows) (hf : f ∈ rows)
    (covered : e.covers w) (covered' : f.covers w) : e = f := by
  by_contra different
  exact not_apart_of_covers covered covered' (apart.forall he hf different)

theorem nodup_of_apart (apart : rows.Pairwise Apart) : rows.Nodup := by
  refine apart.imp fun {e f} differ same => ?_
  subst same
  exact differ rfl

/-- Where rows are apart, the first that covers a word is the only one. -/
theorem find?_covers_eq_some_iff (apart : rows.Pairwise Apart) :
    rows.find? (fun e => e.covers w) = some e ↔ e ∈ rows ∧ e.covers w := by
  constructor
  · intro found
    exact ⟨List.mem_of_find?_eq_some found, by simpa using List.find?_some found⟩
  · rintro ⟨listed, covered⟩
    cases found : rows.find? (fun e => e.covers w) with
    | none => exact absurd covered (List.find?_eq_none.1 found e listed)
    | some f =>
      have covered' : f.covers w := by simpa using List.find?_some found
      rw [eq_of_covers apart (List.mem_of_find?_eq_some found) listed covered' covered]

theorem table_apart : table.Pairwise Apart := by decide +kernel

/-- A word is covered by one row at most, and by the same one in every order of the table. -/
theorem covers_once (w : Int) :
    (∀ e ∈ table, ∀ f ∈ table, e.covers w → f.covers w → e = f) ∧ table.Nodup ∧
      ∀ rows : List Encoding, rows.Perm table → rows.find? (fun e => e.covers w) = ofWord? w := by
  refine ⟨fun e he f hf => eq_of_covers table_apart he hf, nodup_of_apart table_apart,
    fun rows reordered => Option.ext fun e => ?_⟩
  have apart : rows.Pairwise Apart := (reordered.pairwise_iff Ne.symm).2 table_apart
  rw [find?_covers_eq_some_iff apart, reordered.mem_iff, ← find?_covers_eq_some_iff table_apart]
  rfl

end Disasm32.Encoding
