import Disasm32.Proofs.Template.Placeholders
import Disasm32.Proofs.Template.Twins

/-! Templates that depend on the word. A placeholder whose format holds no others depends on it if
it stands for the word, or for its decimal text and its format leaves some of that. The words two
and three show it: their texts have the same length, so that the rest of the template is where it
was and cannot make up for it. -/
namespace Disasm32.Template

def IsWord (w : Int) : Prop := 0 ≤ w ∧ w < 2 ^ 32

/-- There are two words that do not have a result in common. -/
def Varies (r : Int → Except ε α) : Prop :=
  ∃ v w, IsWord v ∧ IsWord w ∧ ¬∃ a, r v = .ok a ∧ r w = .ok a

theorem isWord_zero : IsWord 0 := ⟨by decide, by decide⟩

theorem isWord_two : IsWord 2 := ⟨by decide, by decide⟩

theorem isWord_three : IsWord 3 := ⟨by decide, by decide⟩

section

variable {ε α β : Type} {r : Int → Except ε α}

/-- What does not vary has a result, which is the same for all words. -/
theorem not_varies_iff : ¬Varies r ↔ ∃ a, ∀ w, IsWord w → r w = .ok a := by
  constructor
  · intro steady
    have shared (w : Int) (word : IsWord w) : ∃ a, r 0 = .ok a ∧ r w = .ok a :=
      not_not.1 fun apart => steady ⟨0, w, isWord_zero, word, apart⟩
    obtain ⟨a, first, -⟩ := shared 0 isWord_zero
    refine ⟨a, fun w word => ?_⟩
    obtain ⟨b, other, found⟩ := shared w word
    cases first.symm.trans other
    exact found
  · rintro ⟨a, found⟩ ⟨v, w, left, right, apart⟩
    exact apart ⟨a, found v left, found w right⟩

theorem varies_map {g : α → β} (injective : Function.Injective g) :
    (Varies fun w => (r w).map g) ↔ Varies r := by
  have same (w : Int) (a : α) : (r w).map g = .ok (g a) ↔ r w = .ok a := by
    cases r w <;> simp [Except.map, injective.eq_iff]
  refine exists₂_congr fun v w => and_congr_right' (and_congr_right' (not_congr ?_))
  constructor
  · rintro ⟨b, left, right⟩
    obtain ⟨a, found⟩ := succeeds_map.1 ⟨b, left⟩
    cases left.symm.trans ((same v a).2 found)
    exact ⟨a, found, (same w a).1 right⟩
  · rintro ⟨a, left, right⟩
    exact ⟨g a, (same v a).2 left, (same w a).2 right⟩

/-- Texts that are equal when put together are equal one by one, if no two of them can differ in
length. -/
theorem eq_of_flatMap_eq {f g : α → List β} {loose : α → Prop} {xs : List α}
    (same : xs.flatMap f = xs.flatMap g) (lone : xs.Pairwise fun x y => ¬(loose x ∧ loose y))
    (level : ∀ x ∈ xs, ¬loose x → (f x).length = (g x).length) : ∀ x ∈ xs, f x = g x := by
  induction xs with
  | nil => nofun
  | cons x xs ih =>
    rw [List.flatMap_cons, List.flatMap_cons] at same
    rw [List.pairwise_cons] at lone
    rw [List.forall_mem_cons] at level ⊢
    by_cases free : loose x
    · have lengths : (xs.flatMap f).length = (xs.flatMap g).length := by
        rw [List.length_flatMap, List.length_flatMap]
        exact congrArg List.sum (List.map_congr_left fun y member =>
          level.2 y member fun other => lone.1 y member ⟨free, other⟩)
      obtain ⟨front, rest⟩ := List.append_inj' same lengths
      exact ⟨front, ih rest lone.2 level.2⟩
    · obtain ⟨front, rest⟩ := List.append_inj same (level.1 free)
      exact ⟨front, ih rest lone.2 level.2⟩

end

variable {m : Members} {depth : Nat} {v w : Int} {cs text : List Char} {p : Placeholder}

namespace Placeholder

/-- The placeholder stands for the word, or for its decimal text and leaves some of that. -/
def ShowsWord (m : Members) (p : Placeholder) : Prop :=
  p.IsWord m ∨ p.IsNumeral m ∧ ∀ s, Spec.parse .str p.spec = .ok s → s.precision ≠ some 0

/-- The length of the placeholder's text is up to the word: its format holds others, or it stands
for an object that goes with the word and so neither for the word, nor for its decimal text, nor
for one entity. -/
def IsLoose (m : Members) (p : Placeholder) : Prop :=
  p.IsNested ∨ ¬(p.IsWord m ∨ p.IsNumeral m ∨ ∃ x, ∀ w, p.entity m w = .ok x)

/-- The text that takes the place of the placeholder is not the same for all words. Unless it is
loose, this is up to what it stands for. -/
def Tells (m : Members) (p : Placeholder) : Prop :=
  (¬p.IsLoose m → p.ShowsWord m) ∧ (p.IsLoose m → Varies fun w => p.text m 1 w)

theorem exists_twins (plain : ¬p.IsNested) (zero : Succeeds (p.text m depth 0))
    (shows : p.ShowsWord m) :
    ∃ as bs, p.text m depth 2 = .ok as ∧ p.text m depth 3 = .ok bs ∧ Twins as bs := by
  rw [text_of_plain plain] at zero
  rw [text_of_plain plain, text_of_plain plain]
  obtain number | ⟨numeral, kept⟩ := shows
  · rw [number, ok_bind] at zero
    rw [number, number, ok_bind, ok_bind]
    exact exists_formatInteger zero
  · have two : Digits.decimal 2 = ['2'] := by decide +kernel
    have three : Digits.decimal 3 = ['3'] := by decide +kernel
    rw [numeral 0 (by decide) (by decide), ok_bind] at zero
    rw [numeral 2 (by decide) (by decide), numeral 3 (by decide) (by decide), ok_bind, ok_bind,
      two, three]
    exact exists_formatText (by decide) kept zero

theorem not_varies_text (tight : ¬p.IsLoose m) (zero : Succeeds (p.text m depth 0))
    (hidden : ¬p.ShowsWord m) : ¬Varies fun w => p.text m depth w := by
  obtain ⟨plain, stands⟩ := not_or.1 tight
  rw [not_varies_iff]
  simp only [text_of_plain plain] at *
  obtain word | numeral | ⟨x, found⟩ := not_not.1 stands
  · exact absurd (.inl word) hidden
  · obtain ⟨s, parsed, cut⟩ : ∃ s, Spec.parse .str p.spec = .ok s ∧ s.precision = some 0 := by
      by_contra kept
      exact hidden (.inr ⟨numeral, fun s parsed cut => kept ⟨s, parsed, cut⟩⟩)
    rw [numeral 0 (by decide) (by decide), ok_bind] at zero
    obtain ⟨shown, found⟩ := zero
    refine ⟨shown, fun w word => ?_⟩
    rw [numeral w word.1 word.2, ok_bind, ← found]
    exact formatText_of_cut parsed cut _ _
  · simp only [found] at zero ⊢
    exact zero.imp fun _ shown _ _ => shown

theorem varies_text_iff (tight : ¬p.IsLoose m) (zero : Succeeds (p.text m depth 0)) :
    (Varies fun w => p.text m depth w) ↔ p.ShowsWord m := by
  refine ⟨fun varies => not_not.1 fun hidden => not_varies_text tight zero hidden varies,
    fun shows => ?_⟩
  obtain ⟨as, bs, two, three, twins⟩ := exists_twins (not_or.1 tight).1 zero shows
  refine ⟨2, 3, isWord_two, isWord_three, ?_⟩
  rintro ⟨cs, left, right⟩
  cases two.symm.trans left
  cases three.symm.trans right
  exact twins.differ rfl

theorem tells_iff (zero : Succeeds (p.text m 1 0)) :
    p.Tells m ↔ Varies fun w => p.text m 1 w := by
  by_cases loose : p.IsLoose m
  · simp [Tells, loose]
  · simp [Tells, loose, varies_text_iff loose zero]

end Placeholder

/-- A template with one text for two words has one for each of its placeholders, if no two of them
can differ in length. -/
theorem text_eq_of_fill_eq (left : fill m (depth + 1) v cs = .ok text)
    (right : fill m (depth + 1) w cs = .ok text)
    (lone : (placeholders cs).Pairwise fun p q => ¬(p.IsLoose m ∧ q.IsLoose m))
    (level : ∀ p ∈ placeholders cs, ¬p.IsLoose m → ∀ as bs, p.text m depth v = .ok as →
      p.text m depth w = .ok bs → as.length = bs.length) :
    ∀ p ∈ placeholders cs, p.text m depth v = p.text m depth w := by
  obtain ⟨-, f, before, joined⟩ := fill_eq_ok_iff.1 left
  obtain ⟨-, g, after, same⟩ := fill_eq_ok_iff.1 right
  have lone : (pieces cs).1.Pairwise fun x y =>
      ¬((∃ p, x = .placeholder p ∧ p.IsLoose m) ∧ ∃ q, y = .placeholder q ∧ q.IsLoose m) := by
    rw [placeholders, List.pairwise_filterMap] at lone
    refine lone.imp ?_
    rintro _ _ apart ⟨⟨p, rfl, left⟩, q, rfl, right⟩
    exact apart p rfl q rfl ⟨left, right⟩
  have equal := eq_of_flatMap_eq (joined.trans same.symm) lone fun piece member tight => by
    cases piece with
    | text cs =>
      have first : cs = f (.text cs) := Except.ok.inj (before _ member)
      have second : cs = g (.text cs) := Except.ok.inj (after _ member)
      rw [← first, ← second]
    | placeholder p =>
      exact level p (List.mem_filterMap.2 ⟨_, member, rfl⟩)
        (fun loose => tight ⟨p, rfl, loose⟩) _ _ (before _ member) (after _ member)
  refine (forall_pieces_iff (r := fun piece => piece.filled m depth v = piece.filled m depth w)
    fun _ => rfl).1 fun piece member => ?_
  rw [before piece member, after piece member, equal piece member]

/-- A template of which no placeholder varies does not vary. -/
theorem not_varies_fill (sound : (pieces cs).2 = none)
    (steady : ∀ p ∈ placeholders cs, ¬Varies fun w => p.text m depth w) :
    ¬Varies fun w => fill m (depth + 1) w cs := by
  simp only [not_varies_iff] at *
  have pieces : ∀ piece ∈ (pieces cs).1, ∃ text, ∀ w, IsWord w → piece.filled m depth w = .ok text :=
    (forall_pieces_iff fun cs => ⟨cs, fun _ _ => rfl⟩).2 steady
  choose! g found using pieces
  exact ⟨_, fun w word => fill_eq_ok_iff.2
    ⟨sound, g, fun piece member => found piece member w word, rfl⟩⟩

/-- Conversely, no placeholder of a template that does not vary does, if at most one is loose. -/
theorem not_varies_text_of_fill (steady : ¬Varies fun w => fill m (depth + 1) w cs)
    (lone : (placeholders cs).Pairwise fun p q => ¬(p.IsLoose m ∧ q.IsLoose m)) :
    ∀ p ∈ placeholders cs, ¬Varies fun w => p.text m depth w := by
  obtain ⟨text, found⟩ := not_varies_iff.1 steady
  have taken (w : Int) (word : IsWord w) := (succeeds_fill_iff.1 ⟨text, found w word⟩).1
  have zero := taken 0 isWord_zero
  -- At two and three all placeholders that are not loose have texts of one length.
  have hidden : ∀ p ∈ placeholders cs, ¬p.IsLoose m → ¬p.ShowsWord m := by
    intro p member tight shows
    have equal := text_eq_of_fill_eq (found 2 isWord_two) (found 3 isWord_three) lone
      fun q member tight as bs two three => by
        by_cases shows : q.ShowsWord m
        · obtain ⟨cs, ds, first, second, twins⟩ :=
            q.exists_twins (not_or.1 tight).1 (zero q member) shows
          cases first.symm.trans two
          cases second.symm.trans three
          exact twins.length
        · obtain ⟨cs, same⟩ := not_varies_iff.1 (q.not_varies_text tight (zero q member) shows)
          cases (same 2 isWord_two).symm.trans two
          cases (same 3 isWord_three).symm.trans three
          rfl
    obtain ⟨as, bs, two, three, twins⟩ := p.exists_twins (not_or.1 tight).1 (zero p member) shows
    cases two.symm.trans ((equal p member).trans three)
    exact twins.differ rfl
  -- So they have one text for all words, and the loose one has none left to differ by.
  rintro p member ⟨v, w, left, right, apart⟩
  have equal := text_eq_of_fill_eq (found v left) (found w right) lone
    fun q member tight as bs before after => by
      obtain ⟨cs, same⟩ := not_varies_iff.1
        (q.not_varies_text tight (zero q member) (hidden q member tight))
      cases (same v left).symm.trans before
      cases (same w right).symm.trans after
      rfl
  obtain ⟨shown, first⟩ := taken v left p member
  exact apart ⟨shown, first, (equal p member).symm.trans first⟩

end Disasm32.Template
