import Disasm32.Proofs.Text.Tokens
import Disasm32.Waveform.Signal
import Mathlib.Data.List.Induction
import Mathlib.Data.List.Nodup

/-! What a sequence of declarations leaves. A signal that is declared takes the place of the one
with its identifier, so the last declaration of each identifier stays, in the order in which the
identifiers first appear, and only these can be found. -/
namespace Disasm32.Waveform

section Latest

variable {α β γ : Type} [DecidableEq γ]

/-- The last value with each key, in the order in which the keys first appear. -/
def latest (key : α → γ) (l : List α) : List α :=
  (l.map key).eraseDups.filterMap fun k => l.reverse.find? (key · = k)

theorem eraseDups_append_singleton (ks : List γ) (k : γ) :
    (ks ++ [k]).eraseDups = if k ∈ ks then ks.eraseDups else ks.eraseDups ++ [k] := by
  rw [List.eraseDups_append]
  split <;> rename_i known <;> simp [List.removeAll, known, List.eraseDups_cons]

theorem nodup_eraseDups (ks : List γ) : ks.eraseDups.Nodup := by
  induction ks using List.reverseRecOn with
  | nil => simp
  | append_singleton ks k ih =>
    rw [eraseDups_append_singleton]
    split
    · exact ih
    · rename_i new
      exact ih.append (List.nodup_singleton k) (by simpa using new)

variable {key : α → γ} {l : List α} {a : α}

theorem exists_find?_reverse {k : γ} (member : k ∈ l.map key) :
    ∃ a, l.reverse.find? (key · = k) = some a ∧ key a = k := by
  obtain ⟨b, inside, rfl⟩ := List.mem_map.1 member
  cases found : l.reverse.find? (key · = key b) with
  | none =>
    have absent := List.find?_eq_none.1 found b (List.mem_reverse.2 inside)
    simp at absent
  | some a => exact ⟨a, rfl, by simpa using List.find?_some found⟩

theorem mem_latest_iff : a ∈ latest key l ↔ l.reverse.find? (key · = key a) = some a := by
  rw [latest, List.mem_filterMap]
  constructor
  · rintro ⟨k, -, found⟩
    have same : key a = k := by simpa using List.find?_some found
    rwa [same]
  · intro found
    have inside := List.mem_reverse.1 (List.mem_of_find?_eq_some found)
    exact ⟨key a, List.mem_eraseDups.2 (List.mem_map_of_mem inside), found⟩

theorem mem_of_mem_latest (member : a ∈ latest key l) : a ∈ l :=
  List.mem_reverse.1 (List.mem_of_find?_eq_some (mem_latest_iff.1 member))

theorem latest_map (key : β → γ) (f : α → β) (l : List α) :
    latest key (l.map f) = (latest (fun a => key (f a)) l).map f := by
  simp only [latest, List.map_map, ← List.map_reverse, List.find?_map, List.map_filterMap]
  rfl

end Latest

/-- A new signal replaces its namesake among signals of different identifiers. -/
theorem declare_filterMap {ks : List String} (distinct : ks.Nodup) (s : Signal)
    {held : String → Option Signal} (filled : ∀ k ∈ ks, ∃ t, held k = some t ∧ t.identifier = k) :
    declare s (ks.filterMap held) =
      (if s.identifier ∈ ks then ks else ks ++ [s.identifier]).filterMap
        fun k => if s.identifier = k then some s else held k := by
  induction ks with
  | nil => simp [declare]
  | cons k ks ih =>
    obtain ⟨⟨t, holds, rfl⟩, others⟩ := List.forall_mem_cons.1 filled
    obtain ⟨fresh, apart⟩ := List.nodup_cons.1 distinct
    rw [List.filterMap_cons_some holds, declare]
    by_cases same : t.identifier = s.identifier
    · -- The identifiers are distinct, so nothing after the first place changes.
      have kept : ks.filterMap (fun k => if s.identifier = k then some s else held k) =
          ks.filterMap held := by
        refine List.filterMap_congr fun k member => if_neg ?_
        rintro rfl
        exact fresh (same ▸ member)
      rw [if_pos same, if_pos (by simp [same])]
      simp only [List.filterMap_cons, if_pos same.symm, kept]
    · have other : s.identifier ≠ t.identifier := fun equal => same equal.symm
      rw [if_neg same, ih apart others]
      by_cases known : s.identifier ∈ ks <;> simp [known, other, holds]

theorem declare_latest (s : Signal) (l : List Signal) :
    declare s (latest Signal.identifier l) = latest Signal.identifier (l ++ [s]) := by
  have filled : ∀ k ∈ (l.map Signal.identifier).eraseDups,
      ∃ t, l.reverse.find? (Signal.identifier · = k) = some t ∧ t.identifier = k :=
    fun k member => exists_find?_reverse (List.mem_eraseDups.1 member)
  rw [latest, declare_filterMap (nodup_eraseDups _) s filled, latest, List.map_append,
    List.map_cons, List.map_nil, eraseDups_append_singleton]
  simp only [List.mem_eraseDups]
  refine List.filterMap_congr fun k _ => ?_
  by_cases same : s.identifier = k <;> simp [same]

theorem foldl_declare (signals : List Signal) :
    signals.foldl (fun kept s => declare s kept) [] = latest Signal.identifier signals := by
  induction signals using List.reverseRecOn with
  | nil => rfl
  | append_singleton signals s ih => rw [List.foldl_append, ih, ← declare_latest]; rfl

end Disasm32.Waveform
