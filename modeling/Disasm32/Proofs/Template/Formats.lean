import Disasm32.Proofs.Number.Reading
import Disasm32.Template.Render

/-! Which formats can lay out a number or a text. For an instruction word a format that lays out
zero lays out every word, but for one that shows the word as a character; and for a text it does
not matter which text it is. -/
namespace Disasm32.Template

def Succeeds (r : Except ε α) : Prop := ∃ a, r = .ok a

section

variable {ε α β : Type} {a : α} {b : β} {e : ε} {r : Except ε α} {f : α → Except ε β}

@[simp] theorem succeeds_ok : Succeeds (.ok a : Except ε α) := ⟨a, rfl⟩

@[simp] theorem succeeds_pure : Succeeds (pure a : Except ε α) := ⟨a, rfl⟩

@[simp] theorem not_succeeds_error : ¬Succeeds (.error e : Except ε α) := nofun

@[simp] theorem not_succeeds_throw : ¬Succeeds (throw e : Except ε α) := nofun

theorem ok_bind : (.ok a : Except ε α) >>= f = f a := rfl

theorem not_succeeds_error_bind : ¬Succeeds ((.error e : Except ε α) >>= f) := nofun

theorem bind_eq_ok : (r >>= f) = .ok b ↔ ∃ a, r = .ok a ∧ f a = .ok b := by
  cases r with
  | error => exact ⟨nofun, nofun⟩
  | ok a => exact ⟨fun h => ⟨a, rfl, h⟩, fun ⟨_, same, h⟩ => Except.ok.inj same ▸ h⟩

theorem succeeds_bind : Succeeds (r >>= f) ↔ ∃ a, r = .ok a ∧ Succeeds (f a) := by
  simp only [Succeeds, bind_eq_ok]
  exact exists_comm.trans (exists_congr fun a => exists_and_left)

/-- A step whose success does not depend on what comes before. -/
theorem succeeds_bind_iff {p : Prop} (same : ∀ a, Succeeds (f a) ↔ p) :
    Succeeds (r >>= f) ↔ Succeeds r ∧ p := by
  simp only [succeeds_bind, same]
  exact exists_and_right

theorem succeeds_map {g : α → β} : Succeeds (r.map g) ↔ Succeeds r := by
  cases r <;> simp [Except.map]

theorem guard_eq_ok {p : Prop} [Decidable p] {f : Unit → Except ε β} {s : Except ε β} :
    (if p then throw e >>= f else s) = .ok b ↔ ¬p ∧ s = .ok b := by
  by_cases h : p
  · simp only [h, if_true, not_true, false_and, iff_false]
    exact nofun
  · simp [h]

theorem succeeds_guard {p : Prop} [Decidable p] {f : Unit → Except ε β} {s : Except ε β} :
    Succeeds (if p then throw e >>= f else s) ↔ ¬p ∧ Succeeds s := by
  simp only [Succeeds, guard_eq_ok]
  exact exists_and_left

theorem succeeds_mapM {f : α → Except ε β} {xs : List α} :
    Succeeds (xs.mapM f) ↔ ∀ x ∈ xs, Succeeds (f x) := by
  induction xs with
  | nil => simp
  | cons x xs ih =>
    rw [List.mapM_cons, List.forall_mem_cons, ← ih]
    refine succeeds_bind_iff fun y => ?_
    exact (succeeds_bind_iff fun ys => iff_of_true succeeds_pure trivial).trans
      (iff_of_eq (and_true _))

theorem mapM_eq_ok {f : α → Except ε β} {g : α → β} {xs : List α}
    (found : ∀ x ∈ xs, f x = .ok (g x)) : xs.mapM f = .ok (xs.map g) := by
  induction xs with
  | nil => rfl
  | cons x xs ih =>
    rw [List.forall_mem_cons] at found
    rw [List.mapM_cons, found.1, ih found.2]
    rfl

end

variable {s : Spec} {n : Int}

theorem decimalDigits_of_lt {m : Nat} (bound : m < 2 ^ 32) :
    decimalDigits m = .ok (Digits.ofNat 10 m) :=
  if_pos (Literal.isWritable_of_lt (by omega))

theorem decimalText_of_lt (lower : 0 ≤ n) (upper : n < 2 ^ 32) :
    decimalText n = .ok (Digits.decimal n) := by
  rw [decimalText, decimalDigits_of_lt (by omega)]
  rfl

theorem succeeds_decimalText (lower : 0 ≤ n) (upper : n < 2 ^ 32) : Succeeds (decimalText n) :=
  ⟨_, decimalText_of_lt lower upper⟩

/-- No word is too great for a real number. -/
theorem magnitude?_ofNat {m : Nat} (bound : m < 2 ^ 32) : magnitude? (.ofNat m) ≠ none := by
  unfold Binary64.ofNat Binary64.ofRatio
  split
  · exact nofun
  rename_i positive
  have few : m.log2 < 32 := (Nat.log2_lt positive).2 bound
  have one : Nat.log2 1 = 0 := by decide
  simp only [one, Binary64.minExponent, Binary64.maxExponent]
  -- The exponent is within two of the least one, which the logarithm keeps below zero.
  rw [if_neg]
  · exact nofun
  · rw [not_lt]
    repeat' split
    all_goals dsimp only; omega

theorem succeeds_integerText (lower : 0 ≤ n) (upper : n < 2 ^ 32) :
    Succeeds (integerText s n) ↔ s.precision = none ∧ s.noNegativeZero = false ∧
      (s.code = 'c' → s.sign = none ∧ s.alternate = false ∧ n ≤ 0x10ffff) := by
  have fits : Index.fits n = true := by
    simp only [Index.fits, Bool.and_eq_true, decide_eq_true_eq]
    omega
  have digits : Succeeds (decimalDigits n.natAbs) :=
    succeeds_map.1 (succeeds_decimalText lower upper)
  unfold integerText
  simp only [succeeds_guard, Option.isSome_iff_ne_none, ne_eq, Decidable.not_not,
    Bool.not_eq_true]
  refine and_congr_right fun _ => and_congr_right fun _ => ?_
  by_cases character : s.code = 'c'
  · have range : ¬(n < 0 ∨ 0x10ffff < n) ↔ n ≤ 0x10ffff := by omega
    simp only [character, if_true, succeeds_guard, succeeds_pure, fits, range, Bool.not_true,
      Bool.false_eq_true, not_false_iff, Bool.not_eq_true, Decidable.not_not, true_and, and_true,
      true_implies]
  · simp only [character, if_false, false_implies, iff_true]
    split
    · obtain ⟨ds, found⟩ := digits
      exact ⟨_, by rw [found]; rfl⟩
    · exact succeeds_pure

theorem succeeds_realText (lower : 0 ≤ n) (upper : n < 2 ^ 32) :
    Succeeds (realText s n) ↔ Succeeds s.realPrecision := by
  have finite : magnitude? (.ofNat n.natAbs) ≠ none := magnitude?_ofNat (by omega)
  unfold realText
  simp only [succeeds_guard, finite, not_false_iff, true_and]
  exact (succeeds_bind_iff fun _ => iff_of_true succeeds_pure trivial).trans
    (iff_of_eq (and_true _))

/-- A format for zero is one for every word, but a word shown as a character has to be one. -/
theorem succeeds_formatInteger {spec : List Char} (lower : 0 ≤ n) (upper : n < 2 ^ 32)
    (zero : Succeeds (formatInteger spec 0)) :
    Succeeds (formatInteger spec n) ↔
      ∀ s, Spec.parse .int spec = .ok s → s.code = 'c' → n ≤ 0x10ffff := by
  unfold formatInteger at *
  split at zero
  · rename_i blank
    have usual : ∀ s, Spec.parse .int spec = .ok s → s.code = 'd' := by
      rw [List.isEmpty_iff.1 blank]
      rintro s ⟨⟩
      rfl
    simp only [blank, if_true, succeeds_decimalText lower upper, true_iff]
    intro s parsed character
    cases (usual s parsed).symm.trans character
  rename_i written
  rw [if_neg written]
  cases parsed : Spec.parse .int spec with
  | error e =>
    rw [parsed] at zero
    exact absurd zero not_succeeds_error_bind
  | ok s =>
    simp only [parsed, ok_bind, Except.ok.injEq, forall_eq'] at *
    split at zero
    · rename_i integer
      rw [succeeds_integerText (by decide) (by decide)] at zero
      rw [if_pos integer, succeeds_integerText lower upper]
      simp only [zero, true_and]
      constructor
      · intro shown character
        exact (shown character).2.2
      · intro small character
        exact ⟨(zero.2.2 character).1, (zero.2.2 character).2.1, small character⟩
    · rename_i other
      rw [if_neg other]
      split at zero
      · rename_i real
        rw [succeeds_realText (by decide) (by decide)] at zero
        simp only [real, if_true, succeeds_realText lower upper, zero, true_iff]
        intro character
        rw [character] at other
        exact absurd rfl other
      · exact absurd zero not_succeeds_throw

/-- Whether a format suits texts does not depend on the text. -/
theorem succeeds_formatText {spec : List Char} (cs ds : List Char) :
    Succeeds (formatText spec cs) ↔ Succeeds (formatText spec ds) := by
  unfold formatText
  split
  · simp
  cases Spec.parse .str spec with
  | error e => exact ⟨nofun, nofun⟩
  | ok s => simp only [ok_bind, succeeds_guard, succeeds_pure]

end Disasm32.Template
