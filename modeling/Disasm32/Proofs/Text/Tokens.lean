import Disasm32.Proofs.Text.Division
import Mathlib.Data.List.Basic
import Mathlib.Data.List.TakeWhile

/-! Lines of tokens. However its tokens are spaced, a line has them as its words; and without
the blanks around it, the line begins with the first of them. -/
namespace Disasm32.Text

def stripped (line : String) : List Char := strip line.toList

theorem words_of_not_blank {cs : List Char} (filled : cs ≠ [])
    (solid : cs.all (!isBlank ·) = true) : words cs = [cs] := by
  rw [words, splitWhere_of_none (by simpa using solid)]
  cases cs with
  | nil => exact absurd rfl filled
  | cons => rfl

theorem words_blanks_append {blanks : List Char} (blank : blanks.all isBlank = true)
    (cs : List Char) : words (blanks ++ cs) = words cs := by
  induction blanks with
  | nil => rfl
  | cons c blanks ih =>
    rw [List.all_cons, Bool.and_eq_true] at blank
    rw [List.cons_append, ← List.nil_append (c :: _), words_append_cons blank.1, ih blank.2]
    rfl

theorem words_of_blanks {blanks : List Char} (blank : blanks.all isBlank = true) :
    words blanks = [] := by
  rw [← List.append_nil blanks, words_blanks_append blank]
  rfl

theorem words_append_blanks {blanks : List Char} (blank : blanks.all isBlank = true)
    (cs : List Char) : words (cs ++ blanks) = words cs := by
  cases blanks with
  | nil => rw [List.append_nil]
  | cons c blanks =>
    rw [List.all_cons, Bool.and_eq_true] at blank
    rw [words_append_cons blank.1, words_of_blanks blank.2, List.append_nil]

theorem exists_eq_append_strip (cs : List Char) : ∃ front back,
    front.all isBlank = true ∧ back.all isBlank = true ∧ cs = front ++ (strip cs ++ back) := by
  refine ⟨cs.takeWhile isBlank, ((cs.dropWhile isBlank).reverse.takeWhile isBlank).reverse,
    List.all_takeWhile, by rw [List.all_reverse, List.all_takeWhile], ?_⟩
  rw [strip, stripRight, ← List.reverse_append, List.takeWhile_append_dropWhile,
    List.reverse_reverse, List.takeWhile_append_dropWhile]

theorem words_strip (cs : List Char) : words (strip cs) = words cs := by
  obtain ⟨front, back, blank, blank', whole⟩ := exists_eq_append_strip cs
  conv_rhs => rw [whole]
  rw [words_blanks_append blank, words_append_blanks blank']

structure Token where
  chars : List Char
  filled : chars ≠ []
  solid : chars.all (!isBlank ·) = true

def Token.literal (s : String) (filled : s.toList ≠ [] := by decide)
    (solid : s.toList.all (!isBlank ·) = true := by decide) : Token :=
  ⟨s.toList, filled, solid⟩

/-- The line consists of the tokens, with blanks between them and perhaps around them. -/
inductive Spells : List Token → List Char → Prop where
  | done {blanks : List Char} : blanks.all isBlank = true → Spells [] blanks
  | token {blanks rest : List Char} {t : Token} {ts : List Token} :
      blanks.all isBlank = true → (∀ c ∈ rest.head?, isBlank c = true) →
      Spells ts rest → Spells (t :: ts) (blanks ++ (t.chars ++ rest))

variable {t : Token} {ts : List Token} {line : List Char}

theorem Token.isBlank_of_mem (t : Token) {c : Char} (member : c ∈ t.chars) :
    isBlank c = false := by
  simpa using List.all_eq_true.1 t.solid c member

theorem Token.words_append (t : Token) {rest : List Char}
    (apart : ∀ c ∈ rest.head?, isBlank c = true) :
    words (t.chars ++ rest) = t.chars :: words rest := by
  have single : words t.chars = [t.chars] := words_of_not_blank t.filled t.solid
  cases rest with
  | nil => rw [List.append_nil, single]; rfl
  | cons c rest =>
    have blank : isBlank c = true := apart c rfl
    rw [words_append_cons blank, single, ← List.nil_append (c :: rest), words_append_cons blank]
    rfl

theorem words_of_spells (spells : Spells ts line) : words line = ts.map (·.chars) := by
  induction spells with
  | done blank => exact words_of_blanks blank
  | token blank apart _ ih => rw [words_blanks_append blank, Token.words_append _ apart, ih]; rfl

theorem Token.chars_injective : Function.Injective Token.chars := by
  rintro ⟨cs, _, _⟩ ⟨_, _, _⟩ ⟨⟩
  rfl

/-- Every line consists of tokens. -/
theorem exists_spells (line : List Char) : ∃ ts, Spells ts line := by
  induction line with
  | nil => exact ⟨[], .done rfl⟩
  | cons c line ih =>
    obtain ⟨ts, spells⟩ := ih
    cases blank : isBlank c with
    | true =>
      cases spells with
      | done blanks => exact ⟨[], .done (by simpa [blank] using blanks)⟩
      | @token front rest t ts blanks apart spells =>
        refine ⟨t :: ts, @Spells.token (c :: front) rest t ts ?_ apart spells⟩
        simpa [blank] using blanks
    | false =>
      have single : [c].all (!isBlank ·) = true := by simp [blank]
      have none : ([] : List Char).all isBlank = true := rfl
      cases spells with
      | done blanks =>
        refine ⟨[⟨[c], by simp, single⟩], .token none ?_ (.done blanks)⟩
        exact fun d first => List.all_eq_true.1 blanks d (List.mem_of_mem_head? first)
      | @token front rest t ts blanks apart spells =>
        cases front with
        | nil =>
          refine ⟨⟨c :: t.chars, by simp, ?_⟩ :: ts, .token none apart spells⟩
          simpa [blank] using t.solid
        | cons d front =>
          refine ⟨⟨[c], by simp, single⟩ :: t :: ts,
            .token none ?_ (.token blanks apart spells)⟩
          rintro e ⟨⟩
          exact List.all_eq_true.1 blanks _ List.mem_cons_self

theorem spells_iff : Spells ts line ↔ words line = ts.map (·.chars) := by
  refine ⟨words_of_spells, fun same => ?_⟩
  obtain ⟨us, spells⟩ := exists_spells line
  rw [words_of_spells spells] at same
  rwa [← List.map_injective_iff.2 Token.chars_injective same]

theorem mem_of_spells (spells : Spells ts line) {c : Char} (member : c ∈ line) :
    isBlank c = true ∨ ∃ t ∈ ts, c ∈ t.chars := by
  induction spells with
  | done blank => exact .inl (List.all_eq_true.1 blank c member)
  | @token blanks rest t ts blank _ _ ih =>
    rw [List.mem_append, List.mem_append] at member
    rcases member with before | inside | after
    · exact .inl (List.all_eq_true.1 blank c before)
    · exact .inr ⟨t, List.mem_cons_self, inside⟩
    · exact (ih after).imp_right fun ⟨u, listed, within⟩ =>
        ⟨u, List.mem_cons_of_mem _ listed, within⟩

theorem dropWhile_isBlank_of_not {cs : List Char} (solid : ∀ c ∈ cs.head?, isBlank c = false) :
    cs.dropWhile isBlank = cs := by
  cases cs with
  | nil => rfl
  | cons c cs => exact List.dropWhile_cons_of_neg (by simp [solid c rfl])

theorem strip_of_not_blank {cs : List Char} (solid : ∀ c ∈ cs, isBlank c = false) :
    strip cs = cs := by
  have front : cs.dropWhile isBlank = cs :=
    dropWhile_isBlank_of_not fun c first => solid c (List.mem_of_mem_head? first)
  have back : cs.reverse.dropWhile isBlank = cs.reverse :=
    dropWhile_isBlank_of_not fun c last =>
      solid c (List.mem_reverse.1 (List.mem_of_mem_head? last))
  rw [strip, stripRight, front, back, List.reverse_reverse]

theorem Token.stripRight_append (t : Token) (rest : List Char) :
    stripRight (t.chars ++ rest) = t.chars ++ stripRight rest := by
  have last : t.chars.reverse.dropWhile isBlank = t.chars.reverse :=
    dropWhile_isBlank_of_not fun c first =>
      t.isBlank_of_mem (List.mem_reverse.1 (List.mem_of_mem_head? first))
  rw [stripRight, List.reverse_append, List.dropWhile_append, last, stripRight]
  split
  · rename_i empty
    rw [List.isEmpty_iff.1 empty, List.reverse_reverse]
    exact (List.append_nil _).symm
  · rw [List.reverse_append, List.reverse_reverse]

theorem stripRight_of_blanks {blanks : List Char} (blank : blanks.all isBlank = true) :
    stripRight blanks = [] := by
  rw [stripRight, List.dropWhile_eq_nil_iff.2, List.reverse_nil]
  intro c member
  exact List.all_eq_true.1 blank c (List.mem_reverse.1 member)

theorem Token.strip_append (t : Token) {blanks : List Char} (blank : blanks.all isBlank = true)
    (rest : List Char) : strip (blanks ++ (t.chars ++ rest)) = t.chars ++ stripRight rest := by
  have first : ∀ c ∈ (t.chars ++ rest).head?, isBlank c = false := by
    intro c first
    rw [List.head?_append_of_ne_nil _ t.filled] at first
    exact t.isBlank_of_mem (List.mem_of_mem_head? first)
  rw [strip, List.dropWhile_append_of_pos (List.all_eq_true.1 blank),
    dropWhile_isBlank_of_not first, t.stripRight_append]

theorem exists_strip_eq_append (spells : Spells (t :: ts) line) :
    ∃ rest, strip line = t.chars ++ rest := by
  cases spells with
  | token blank => exact ⟨_, t.strip_append blank _⟩

/-- Tokens with single blanks between them, indented and ended as one likes. -/
theorem spells_join (indent ending : List Char) (blank : indent.all isBlank = true := by decide)
    (blank' : ending.all isBlank = true := by decide)
    (spaced : line = indent ++ (join [' '] ((t :: ts).map (·.chars)) ++ ending) := by decide) :
    Spells (t :: ts) line := by
  subst spaced
  induction ts generalizing t indent with
  | nil =>
    have single : join [' '] ([t].map (·.chars)) = t.chars := by simp [join]
    have apart : ∀ c ∈ ending.head?, isBlank c = true := fun c first =>
      List.all_eq_true.1 blank' c (List.mem_of_mem_head? first)
    rw [single]
    exact .token blank apart (.done blank')
  | cons u ts ih =>
    have joined : join [' '] ((t :: u :: ts).map (·.chars)) =
        t.chars ++ ([' '] ++ join [' '] ((u :: ts).map (·.chars))) := by
      simp [join]
    rw [joined, List.append_assoc, List.append_assoc]
    exact .token blank (by rintro c ⟨⟩; rfl) (ih [' '] rfl)

end Disasm32.Text
