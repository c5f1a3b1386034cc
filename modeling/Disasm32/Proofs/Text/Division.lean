import Disasm32.Text.Blank
import Mathlib.Data.List.Basic

/-! Texts that divide in one way: before a marker, after a run of characters, and at the commas of a
list. -/
namespace Disasm32.Text

theorem before_append_right {m : Char} {marker cs : List Char} (absent : m ∉ cs)
    (rest : List Char) : before (m :: marker) (cs ++ rest) = cs ++ before (m :: marker) rest := by
  induction cs with
  | nil => rfl
  | cons c cs ih =>
    rw [List.mem_cons, not_or] at absent
    rw [List.cons_append, before, if_neg (by simp [absent.1]), ih absent.2, List.cons_append]

theorem before_append_left {m : Char} {cs : List Char} (inside : m ∈ cs) (rest : List Char) :
    before [m] (cs ++ rest) = before [m] cs := by
  induction cs with
  | nil => cases inside
  | cons c cs ih =>
    by_cases same : m = c
    · simp [before, same]
    · have later := (List.mem_cons.1 inside).resolve_left same
      simp [before, same, ih later]

theorem before_of_absent {m : Char} {marker cs : List Char} (absent : m ∉ cs) :
    before (m :: marker) cs = cs := by
  simpa [before] using @before_append_right m marker cs absent []

theorem before_append_of_absent {m : Char} {marker cs : List Char} (absent : m ∉ cs)
    (rest : List Char) : before (m :: marker) (cs ++ (m :: marker ++ rest)) = cs := by
  rw [before_append_right absent]
  simp [before]

/-- The text is cut at the first place where the marker begins. -/
inductive CutAt (marker : List Char) : List Char → List Char → Prop where
  | nowhere {cs : List Char} : ¬marker <:+: cs → CutAt marker cs cs
  | first {kept rest : List Char} : ¬marker <:+: kept ++ marker.dropLast →
      CutAt marker (kept ++ (marker ++ rest)) kept

theorem before_of_cutAt {marker cs kept : List Char} (filled : marker ≠ [])
    (cut : CutAt marker cs kept) : before marker cs = kept := by
  cases cut with
  | nowhere absent =>
    induction cs with
    | nil => rfl
    | cons c cs ih =>
      rw [List.infix_cons_iff, not_or] at absent
      rw [before, if_neg (by simpa using absent.1), ih absent.2]
  | @first kept rest absent =>
    induction kept with
    | nil =>
      obtain ⟨m, marker, rfl⟩ := List.exists_cons_of_ne_nil filled
      simp [before]
    | cons c kept ih =>
      -- A marker that began here would end before the one at the cut does.
      have early : ¬marker <+: c :: (kept ++ (marker ++ rest)) := by
        intro begins
        have long : marker.length ≤ (c :: kept ++ marker.dropLast).length := by
          simp
          omega
        have front : c :: kept ++ marker.dropLast <+: c :: (kept ++ (marker ++ rest)) := by
          simpa using (List.dropLast_prefix marker).trans (List.prefix_append marker rest)
        exact absent (List.prefix_of_prefix_length_le begins front long).isInfix
      rw [List.cons_append, List.infix_cons_iff, not_or] at absent
      rw [List.cons_append, before, if_neg (by simpa using early), ih absent.2]

theorem cutAt_before {marker : List Char} (filled : marker ≠ []) (cs : List Char) :
    CutAt marker cs (before marker cs) := by
  induction cs with
  | nil => exact .nowhere (by simpa using filled)
  | cons c cs ih =>
    rw [before]
    split
    · rename_i begins
      obtain ⟨rest, whole⟩ := List.isPrefixOf_iff_prefix.1 begins
      have short : ¬marker <:+: marker.dropLast := by
        intro inside
        have length := inside.length_le
        have := List.length_pos_iff.2 filled
        simp at length
        omega
      rw [← whole]
      exact @CutAt.first marker [] rest short
    · rename_i later
      have early : ¬marker <+: c :: cs := by simpa using later
      generalize before marker cs = kept at ih
      cases ih with
      | nowhere absent => exact .nowhere (by simp [List.infix_cons_iff, early, absent])
      | @first kept rest absent =>
        refine @CutAt.first marker (c :: kept) rest ?_
        rw [List.cons_append, List.infix_cons_iff, not_or]
        refine ⟨fun begins => early (begins.trans ?_), absent⟩
        simpa using (List.dropLast_prefix marker).trans (List.prefix_append marker rest)

theorem cutAt_iff {marker cs kept : List Char} (filled : marker ≠ []) :
    CutAt marker cs kept ↔ before marker cs = kept :=
  ⟨before_of_cutAt filled, fun same => same ▸ cutAt_before filled cs⟩

/-- A further marker behind the text cuts it no shorter, if the first of them does not begin in the
text and end behind it. -/
theorem CutAt.append {marker cs kept : List Char} (cut : CutAt marker cs kept)
    (apart : ¬marker <:+: cs → ¬marker <:+: cs ++ marker.dropLast) (rest : List Char) :
    CutAt marker (cs ++ (marker ++ rest)) kept := by
  cases cut with
  | nowhere absent => exact .first (apart absent)
  | @first kept more absent =>
    rw [List.append_assoc, List.append_assoc]
    exact .first absent

theorem splitWhere_of_none {p : Char → Bool} {cs : List Char} (none : ∀ c ∈ cs, p c = false) :
    splitWhere p cs = [cs] := by
  induction cs with
  | nil => rfl
  | cons c cs ih =>
    rw [List.forall_mem_cons] at none
    rw [splitWhere, none.1, ih none.2]
    rfl

theorem takeWhile_append_of_stop {p : Char → Bool} {cs rest : List Char}
    (run : ∀ c ∈ cs, p c = true) (stop : ∀ c ∈ rest.head?, p c = false) :
    (cs ++ rest).takeWhile p = cs := by
  rw [List.takeWhile_append_of_pos run]
  cases rest with
  | nil => exact List.append_nil cs
  | cons c rest => rw [List.takeWhile_cons_of_neg (by simp [stop c rfl]), List.append_nil]

/-- A text divides in one way into a run and a rest that does not continue it. -/
theorem append_inj_of_stop {p : Char → Bool} {cs rest cs' rest' : List Char}
    (run : ∀ c ∈ cs, p c = true) (stop : ∀ c ∈ rest.head?, p c = false)
    (run' : ∀ c ∈ cs', p c = true) (stop' : ∀ c ∈ rest'.head?, p c = false)
    (same : cs ++ rest = cs' ++ rest') : cs = cs' ∧ rest = rest' := by
  have front := congrArg (List.takeWhile p) same
  rw [takeWhile_append_of_stop run stop, takeWhile_append_of_stop run' stop'] at front
  subst front
  exact ⟨rfl, List.append_cancel_left same⟩

/-- Lists of texts without commas are equal if they are joined to the same text; the condition
tells no text from one empty text. -/
theorem intercalate_inj {xs ys : List String} (empty : xs = [] ↔ ys = [])
    (plain : ∀ x ∈ xs, ',' ∉ x.toList) (plain' : ∀ y ∈ ys, ',' ∉ y.toList)
    (same : ", ".intercalate xs = ", ".intercalate ys) : xs = ys := by
  have run {x : String} (free : ',' ∉ x.toList) : ∀ c ∈ x.toList, (c != ',') = true :=
    fun c inside => bne_iff_ne.2 fun comma => free (comma ▸ inside)
  have stop (cs : List Char) : ∀ c ∈ (',' :: cs).head?, (c != ',') = false := by
    rintro c ⟨⟩
    rfl
  have parts (x x' : String) (xs : List String) : (", ".intercalate (x :: x' :: xs)).toList =
      x.toList ++ ',' :: ' ' :: (", ".intercalate (x' :: xs)).toList := by
    have separator : ", ".toList = [',', ' '] := rfl
    simp only [String.intercalate_cons_cons, String.toList_append, List.append_assoc, separator,
      List.cons_append, List.nil_append]
  have single (x : String) : ", ".intercalate [x] = x := String.intercalate_singleton
  have several {x y y' : String} {ys : List String} (free : ',' ∉ x.toList) :
      x ≠ ", ".intercalate (y :: y' :: ys) := by
    rintro rfl
    rw [parts] at free
    exact free (List.mem_append_right _ List.mem_cons_self)
  induction xs generalizing ys with
  | nil => exact (empty.1 rfl).symm
  | cons x xs ih =>
    cases ys with
    | nil => exact absurd (empty.2 rfl) (List.cons_ne_nil x xs)
    | cons y ys =>
      rw [List.forall_mem_cons] at plain plain'
      cases xs with
      | nil =>
        rw [single] at same
        cases ys with
        | nil => rw [same, single]
        | cons => exact absurd same (several plain.1)
      | cons x' xs =>
        cases ys with
        | nil =>
          rw [single] at same
          exact absurd same.symm (several plain'.1)
        | cons y' ys =>
          have divided := congrArg String.toList same
          rw [parts, parts] at divided
          obtain ⟨first, rest⟩ := append_inj_of_stop (run plain.1) (stop _) (run plain'.1)
            (stop _) divided
          have tails := String.toList_inj.1 (List.cons.inj (List.cons.inj rest).2).2
          rw [String.toList_inj.1 first, ih (by simp) plain.2 plain'.2 tails]

end Disasm32.Text
