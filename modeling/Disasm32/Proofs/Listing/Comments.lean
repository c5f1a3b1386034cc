import Disasm32.Proofs.Listing.Steps
import Disasm32.Proofs.Text.Tokens

/-! Comments and line breaks of a listing. What is read depends on the tokens of the lines without
their comments, and neither on the comments nor on where a line ends. -/
namespace Disasm32.Listing

open Text

/-- What is left of a line that is cut at the first `#` and then at the first `//`. -/
def Keeps (line kept : List Char) : Prop :=
  ∃ front, CutAt ['#'] line front ∧ CutAt ['/', '/'] front kept

/-- The tokens are spread over the lines, as many as one likes on each. -/
inductive Spread : List Token → List String → Prop where
  | done : Spread [] []
  | line {ts more : List Token} {line : String} {lines : List String} {kept : List Char} :
      Keeps line.toList kept → Spells ts kept → Spread more lines →
      Spread (ts ++ more) (line :: lines)

variable {line kept : List Char} {lines : List String} {ts : List Token}

theorem keeps_iff : Keeps line kept ↔ uncommented line = kept := by
  simp only [Keeps, cutAt_iff (List.cons_ne_nil _ _), exists_eq_left', uncommented]

theorem spread_iff : Spread ts lines ↔ tokens lines = ts.map (·.chars) := by
  constructor
  · intro spread
    induction spread with
    | done => rfl
    | line keeps spells _ ih =>
      rw [tokens_cons, keeps_iff.1 keeps, words_of_spells spells, ih, List.map_append]
  · intro same
    induction lines generalizing ts with
    | nil =>
      rw [List.map_eq_nil_iff.1 same.symm]
      exact .done
    | cons line lines ih =>
      rw [tokens_cons] at same
      obtain ⟨us, more, rfl, first, later⟩ := List.map_eq_append_iff.1 same.symm
      exact .line (keeps_iff.2 rfl) (spells_iff.2 first.symm) (ih later.symm)

/-- The lines of a listing have one sequence of tokens. -/
theorem exists_spread (lines : List String) : ∃ ts, ∀ us, Spread us lines ↔ us = ts := by
  have held : ∃ ts, Spread ts lines := by
    induction lines with
    | nil => exact ⟨[], .done⟩
    | cons line lines ih =>
      obtain ⟨more, spread⟩ := ih
      obtain ⟨ts, spells⟩ := exists_spells (uncommented line.toList)
      exact ⟨ts ++ more, .line (keeps_iff.2 rfl) spells spread⟩
  obtain ⟨ts, spread⟩ := held
  refine ⟨ts, fun us => ⟨fun others => ?_, fun same => same ▸ spread⟩⟩
  exact List.map_injective_iff.2 Token.chars_injective
    ((spread_iff.1 others).symm.trans (spread_iff.1 spread))

theorem uncommented_append_hash (line text : List Char) :
    uncommented (line ++ '#' :: text) = uncommented line := by
  by_cases inside : '#' ∈ line
  · rw [uncommented, before_append_left inside, uncommented]
  · have cut := @before_append_of_absent '#' [] line inside text
    rw [uncommented, uncommented, before_of_absent inside]
    exact congrArg (before _) cut

/-- A slash at the end of the line would begin the marker one character early. -/
theorem uncommented_append_slashes (apart : line.getLast? ≠ some '/') (text : List Char) :
    uncommented (line ++ '/' :: '/' :: text) = uncommented line := by
  by_cases inside : '#' ∈ line
  · rw [uncommented, before_append_left inside, uncommented]
  · have complete : ¬['/', '/'] <:+: line → ¬['/', '/'] <:+: line ++ ['/'] := by
      intro absent spanning
      rcases List.infix_concat_iff.1 spanning with ending | within
      · obtain ⟨front, whole⟩ := ending
        have last : front ++ ['/'] ++ ['/'] = line ++ ['/'] := by simpa using whole
        rw [← List.append_cancel_right last] at apart
        simp at apart
      · exact absent within
    have marker : ['/', '/'] ≠ [] := by simp
    have cut := (cutAt_before marker line).append complete
    rw [uncommented, uncommented, before_append_right inside, before_of_absent inside]
    exact before_of_cutAt marker (cut _)

theorem read_congr (before after : List String) {line line' : String}
    (same : uncommented line.toList = uncommented line'.toList) (base : Int) :
    read (before ++ line :: after) base = read (before ++ line' :: after) base := by
  simp only [read_eq, tokens_append, tokens_cons, same]

/-- Comments and line breaks do not count: what is found is the same with a comment behind a line,
and for any two listings with the same tokens, whatever lines they stand on. -/
theorem read_eq_of_spread (base : Int) :
    (∀ before line after text, read (before ++ (line ++ "#" ++ text) :: after) base =
      read (before ++ line :: after) base) ∧
    (∀ before line after text, line.toList.getLast? ≠ some '/' →
      read (before ++ (line ++ "//" ++ text) :: after) base =
        read (before ++ line :: after) base) ∧
    (∀ lines, ∃ ts, ∀ us, Spread us lines ↔ us = ts) ∧
    ∀ ts lines more, Spread ts lines → Spread ts more → read lines base = read more base := by
  refine ⟨fun before line after text => ?_, fun before line after text apart => ?_, exists_spread,
    fun ts lines more spread spread' => ?_⟩
  · have letters : (line ++ "#" ++ text).toList = line.toList ++ '#' :: text.toList := by simp
    exact read_congr before after (by rw [letters, uncommented_append_hash]) base
  · have letters : (line ++ "//" ++ text).toList = line.toList ++ '/' :: '/' :: text.toList := by
      simp
    exact read_congr before after (by rw [letters, uncommented_append_slashes apart]) base
  · rw [read_eq, read_eq, spread_iff.1 spread, spread_iff.1 spread']

/-- A comment with the marker of the other kind in it, and one listing on two lines and on one. -/
theorem read_eq_of_spread_nop :
    let ts := [Token.literal "@4", .literal "13"]
    "@4 13".toList.getLast? ≠ some '/' ∧
      read ["@4 13" ++ "//" ++ "#/", "73"] 0 = read ["@4 13", "73"] 0 ∧
      Spread ts ["@4 # x", " 13//"] ∧ Spread ts ["@4\t13"] ∧
        read ["@4 # x", " 13//"] 0 = read ["@4\t13"] 0 := by
  have apart : "@4 13".toList.getLast? ≠ some '/' := by decide
  have broken : Spread [.literal "@4", .literal "13"] ["@4 # x", " 13//"] :=
    spread_iff.2 (by decide +kernel)
  have whole : Spread [.literal "@4", .literal "13"] ["@4\t13"] :=
    spread_iff.2 (by decide +kernel)
  obtain ⟨-, commented, -, same⟩ := read_eq_of_spread 0
  exact ⟨apart, commented [] _ _ _ apart, broken, whole, same _ _ _ broken whole⟩

end Disasm32.Listing
