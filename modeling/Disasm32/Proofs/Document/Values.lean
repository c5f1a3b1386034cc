import Disasm32.Document.Value
import Mathlib.Algebra.Ring.Int.Defs
import Mathlib.Data.List.Nodup

/-! The values of a document: the numbers that count as integers, and the keys of mappings. A key
that is a text equals no other value, and among distinct keys the order of the entries does not
matter for what is found. -/
namespace Disasm32

namespace Binary64

/-- An integral number compares with integers as the integer that it equals. -/
theorem exists_of_isIntegral {x : Binary64} (integral : x.isIntegral = true) :
    ∃ n, x.toInt? = some n ∧ ∀ m, (x.ltInt m = true ↔ n < m) ∧ (x.gtInt m = true ↔ m < n) := by
  cases x with
  | infinite | nan => cases integral
  | finite negative m e =>
    refine ⟨_, by rw [toInt?, if_pos integral], fun n => ?_⟩
    by_cases whole : 0 ≤ e
    · cases negative with
      | false => simp [ltInt, gtInt, whole]
      | true => simp [ltInt, gtInt, whole]
    · have positive : (0 : Int) < (Nat.pow 2 (-e).toNat : Nat) := by
        exact_mod_cast Nat.pow_pos (by decide)
      have divides : Nat.pow 2 (-e).toNat ∣ m := by
        simpa [isIntegral, whole, Nat.dvd_iff_mod_eq_zero] using integral
      obtain ⟨q, rfl⟩ := divides
      have quotient : Nat.pow 2 (-e).toNat * q / Nat.pow 2 (-e).toNat = q :=
        Nat.mul_div_cancel_left q (by exact_mod_cast positive)
      cases negative
      · simp only [ltInt, gtInt, whole, quotient, if_false, Bool.false_eq_true, decide_eq_true_eq,
          Int.natCast_mul, Int.mul_comm _ (q : Int)]
        exact ⟨Int.mul_lt_mul_right positive, Int.mul_lt_mul_right positive⟩
      · simp only [ltInt, gtInt, whole, quotient, if_false, if_true, decide_eq_true_eq,
          Int.natCast_mul, Int.mul_comm _ (q : Int), ← Int.neg_mul]
        exact ⟨Int.mul_lt_mul_right positive, Int.mul_lt_mul_right positive⟩

theorem isIntegral_of_toInt? {x : Binary64} {n : Int} (found : x.toInt? = some n) :
    x.isIntegral = true := by
  cases x with
  | infinite | nan => cases found
  | finite negative m e =>
    rw [toInt?] at found
    split at found
    · assumption
    · cases found
end Binary64

namespace Value

theorem sameKey_text_iff {v : Value} {s : String} : v.sameKey (.text s) = true ↔ v = .text s := by
  have number : number? (.text s) = none := rfl
  cases v with
  | real x =>
    unfold sameKey
    rw [number]
    split <;> simp_all [number?]
  | _ => simp [sameKey, number?]

variable {entries : List (Value × Value)} {name : String} {v : Value}

theorem find?_eq_none_iff : find? name entries = none ↔ ∀ v, (.text name, v) ∉ entries := by
  simp only [find?, Option.map_eq_none_iff, List.find?_eq_none, sameKey_text_iff, Prod.forall]
  constructor
  · intro other v member
    exact other _ v member rfl
  · rintro absent _ v member rfl
    exact absent v member

theorem mem_of_find?_eq_some (found : find? name entries = some v) : (.text name, v) ∈ entries := by
  obtain ⟨⟨key, value⟩, first, rfl⟩ := Option.map_eq_some_iff.1 found
  have same := List.find?_some first
  rw [sameKey_text_iff] at same
  exact same ▸ List.mem_of_find?_eq_some first

theorem find?_eq_some_iff (distinct : (entries.map (·.1)).Nodup) :
    find? name entries = some v ↔ (.text name, v) ∈ entries := by
  refine ⟨mem_of_find?_eq_some, fun member => ?_⟩
  cases found : find? name entries with
  | none => exact absurd member (find?_eq_none_iff.1 found v)
  | some u =>
    have same := List.inj_on_of_nodup_map distinct (mem_of_find?_eq_some found) member rfl
    exact congrArg some (congrArg Prod.snd same)

/-- A value that needs nothing but truth values, numbers, texts, sequences and mappings from
texts. -/
inductive IsJson : Value → Prop where
  | null : IsJson .null
  | bool (b : Bool) : IsJson (.bool b)
  | int (n : Int) : IsJson (.int n)
  | real (x : Binary64) : IsJson (.real x)
  | text (s : String) : IsJson (.text s)
  | sequence {items : List Value} : (∀ v ∈ items, IsJson v) → IsJson (.sequence items)
  | mapping {entries : List (Value × Value)} (names : List String) :
      entries.map (·.1) = names.map .text → names.Nodup → (∀ e ∈ entries, IsJson e.2) →
      IsJson (.mapping entries)

theorem IsJson.distinct (json : IsJson (.mapping entries)) : (entries.map (·.1)).Nodup := by
  cases json with
  | mapping names texts distinct =>
    rw [texts]
    exact distinct.map fun a b same => Value.text.inj same

theorem IsJson.of_mem (json : IsJson (.mapping entries)) {e : Value × Value}
    (member : e ∈ entries) : IsJson e.2 := by
  cases json with
  | mapping _ _ _ inner => exact inner e member

end Value

end Disasm32
