import Disasm32.Proofs.Template.Builtin

/-! A template is filled exactly if each of its placeholders is. A placeholder whose format holds
no others and that takes zero takes every word, but for one that shows the word as a character,
which takes the words that are one. -/
namespace Disasm32.Template

namespace Placeholder

def entity (m : Members) (p : Placeholder) (w : Int) : Except TemplateError Entity :=
  resolve m w p.name >>= (convert · p.conversion)

def IsNested (p : Placeholder) : Prop := p.spec.contains '{' = true

/-- The text that takes the place of the placeholder, with `depth` levels left for its format. -/
def text (m : Members) (depth : Nat) (w : Int) (p : Placeholder) :
    Except TemplateError (List Char) := do
  let x ← p.entity m w
  let spec ← if p.spec.contains '{' then fill m depth w p.spec else .ok p.spec
  x.format spec

/-- The word, put into the format, makes a format for what the placeholder stands for. -/
def TakesFormat (m : Members) (p : Placeholder) (depth : Nat) (w : Int) : Prop :=
  ∃ x spec, p.entity m w = .ok x ∧ fill m depth w p.spec = .ok spec ∧ Succeeds (x.format spec)

def IsWord (m : Members) (p : Placeholder) : Prop := ∀ w, p.entity m w = .ok (.number w)

/-- The placeholder stands for the decimal text of an instruction word. -/
def IsNumeral (m : Members) (p : Placeholder) : Prop :=
  ∀ w, 0 ≤ w → w < 2 ^ 32 → p.entity m w = .ok (.text (Digits.decimal w))

/-- The placeholder stands for the word and shows it as a character. -/
def IsCharacter (m : Members) (p : Placeholder) : Prop :=
  p.IsWord m ∧ ∃ s, Spec.parse .int p.spec = .ok s ∧ s.code = 'c'

end Placeholder

def Piece.filled (m : Members) (depth : Nat) (w : Int) : Piece → Except TemplateError (List Char)
  | .text cs => .ok cs
  | .placeholder p => p.text m depth w

def placeholders (cs : List Char) : List Placeholder :=
  (pieces cs).1.filterMap fun
    | .text _ => none
    | .placeholder p => some p

variable {m : Members} {depth : Nat} {w : Int} {cs : List Char} {p : Placeholder}

theorem fill_succ (m : Members) (depth : Nat) (w : Int) (cs : List Char) :
    fill m (depth + 1) w cs = do
      let texts ← (pieces cs).1.mapM (Piece.filled m depth w)
      match (pieces cs).2 with
      | some e => throw e
      | none => return texts.flatten := by
  unfold fill
  cases pieces cs with
  | mk parts fault =>
    refine congrArg (· >>= _) (congrArg (parts.mapM ·) (funext fun piece => ?_))
    cases piece with
    | text => rfl
    | placeholder p => exact (bind_assoc ..).symm

/-- What holds of every text holds of the pieces of a template if it does of its placeholders. -/
theorem forall_pieces_iff {r : Piece → Prop} (text : ∀ cs, r (.text cs)) :
    (∀ piece ∈ (pieces cs).1, r piece) ↔ ∀ p ∈ placeholders cs, r (.placeholder p) := by
  simp only [placeholders, List.mem_filterMap]
  constructor
  · rintro pieces p ⟨piece, member, found⟩
    cases piece with
    | text => cases found
    | placeholder =>
      cases found
      exact pieces _ member
  · intro placeholders piece member
    cases piece with
    | text cs => exact text cs
    | placeholder p => exact placeholders p ⟨_, member, rfl⟩

theorem succeeds_fill_iff : Succeeds (fill m (depth + 1) w cs) ↔
    (∀ p ∈ placeholders cs, Succeeds (p.text m depth w)) ∧ (pieces cs).2 = none := by
  have filled : (∀ piece ∈ (pieces cs).1, Succeeds (piece.filled m depth w)) ↔
      ∀ p ∈ placeholders cs, Succeeds (p.text m depth w) :=
    forall_pieces_iff fun _ => succeeds_ok
  rw [fill_succ, ← filled, ← succeeds_mapM]
  refine succeeds_bind_iff fun texts => ?_
  cases (pieces cs).2 <;> simp

/-- A filled template is made of the texts of its pieces. -/
theorem fill_eq_ok_iff {text : List Char} : fill m (depth + 1) w cs = .ok text ↔
    (pieces cs).2 = none ∧ ∃ g : Piece → List Char,
      (∀ piece ∈ (pieces cs).1, piece.filled m depth w = .ok (g piece)) ∧
        (pieces cs).1.flatMap g = text := by
  rw [fill_succ]
  constructor
  · intro filled
    obtain ⟨texts, found, joined⟩ := bind_eq_ok.1 filled
    choose! g shown using succeeds_mapM.1 ⟨texts, found⟩
    cases found.symm.trans (mapM_eq_ok shown)
    cases fault : (pieces cs).2 with
    | some e =>
      rw [fault] at joined
      cases joined
    | none =>
      rw [fault] at joined
      exact ⟨rfl, g, shown, (List.flatMap_def ..).trans (Except.ok.inj joined)⟩
  · rintro ⟨sound, g, shown, rfl⟩
    rw [mapM_eq_ok shown, sound]
    rfl

/-- How what a placeholder stands for depends on the word. -/
inductive Placeholder.Stands (m : Members) (p : Placeholder) : Prop where
  | constant (x : Entity) (found : ∀ w, p.entity m w = .ok x)
  | word (found : p.IsWord m)
  | numeral (found : p.IsNumeral m)
  /-- For an object that goes with the word, or its text. -/
  | bound (x : Int → Entity) (found : ∀ w, p.entity m w = .ok (x w))
      (alike : ∀ spec v w, Succeeds ((x v).format spec) → Succeeds ((x w).format spec))

/-- Every conversion but the empty one gives a text. -/
theorem convert_cases (conversion : Option Char) : (∀ x, convert x conversion = .ok x) ∨
    (∃ c, ∀ x, convert x conversion = (x.converted c).map .text) ∨
      ∃ e, ∀ x, convert x conversion = .error e := by
  unfold convert
  split
  · exact .inl fun _ => rfl
  · exact .inl fun _ => rfl
  · exact .inr (.inl ⟨_, fun _ => rfl⟩)
  · exact .inr (.inl ⟨_, fun _ => rfl⟩)
  · exact .inr (.inl ⟨_, fun _ => rfl⟩)
  · exact .inr (.inr ⟨_, fun _ => rfl⟩)

namespace Placeholder

theorem stands_of_converted {f : Int → Except TemplateError Entity} {c : Conversion}
    (uniform : Uniform f)
    (entity : ∀ w, p.entity m w = f w >>= fun x => (x.converted c).map .text)
    (zero : Succeeds (p.entity m 0)) : p.Stands m := by
  rw [entity] at zero
  cases uniform with
  | refused failed => exact absurd ((succeeds_bind.1 zero).imp fun _ answer => answer.1) (failed 0)
  | constant x found =>
    rw [found, ok_bind] at zero
    obtain ⟨y, converted⟩ := zero
    exact .constant y fun w => by rw [entity, found, ok_bind, converted]
  | word found =>
    refine .numeral fun w lower upper => ?_
    rw [entity, found, ok_bind, Entity.converted, decimalText_of_lt lower upper]
    rfl
  | bound x plain found =>
    choose text shown using fun w => (plain w).text c
    refine .bound (fun w => .text (text w)) (fun w => ?_) fun spec v w =>
      (succeeds_formatText _ _).1
    rw [entity, found, ok_bind, Entity.converted, shown]
    rfl

theorem stands_of_entity (uniform : Uniform (p.entity m)) (zero : Succeeds (p.entity m 0)) :
    p.Stands m := by
  cases uniform with
  | refused failed => exact absurd zero (failed 0)
  | constant x found => exact .constant x found
  | word found => exact .word found
  | bound x plain found =>
    exact .bound _ found fun spec v w taken =>
      ((plain w).format spec).2 (((plain v).format spec).1 taken)

/-- What a placeholder that takes zero stands for, for all words. -/
theorem stands (law : m.IsUniform) (zero : Succeeds (p.entity m 0)) : p.Stands m := by
  have uniform := uniform_resolve law p.name
  have entity : p.entity m = fun w => resolve m w p.name >>= (convert · p.conversion) := rfl
  obtain same | ⟨c, converted⟩ | ⟨e, failed⟩ := convert_cases p.conversion
  · refine stands_of_entity ?_ zero
    have found : p.entity m = fun w => resolve m w p.name := by
      simp only [entity, same]
      exact funext fun w => bind_pure _
    exact found ▸ uniform
  · refine stands_of_converted (c := c) uniform (fun w => ?_) zero
    simp only [entity, converted]
  · simp only [entity, failed] at zero
    obtain ⟨x, -, answer⟩ := succeeds_bind.1 zero
    exact absurd answer not_succeeds_error

theorem succeeds_text_iff_takesFormat (nested : p.IsNested) :
    Succeeds (p.text m depth w) ↔ p.TakesFormat m depth w := by
  rw [IsNested] at nested
  unfold text TakesFormat
  simp only [nested, if_true, succeeds_bind, exists_and_left]

theorem text_of_plain (plain : ¬p.IsNested) :
    p.text m depth w = p.entity m w >>= Entity.format p.spec := by
  rw [IsNested] at plain
  unfold text
  simp only [plain]
  rfl

theorem succeeds_text_iff (law : m.IsUniform) (plain : ¬p.IsNested)
    (zero : Succeeds (p.text m depth 0)) (lower : 0 ≤ w) (upper : w < 2 ^ 32) :
    Succeeds (p.text m depth w) ↔ (p.IsCharacter m → w ≤ 0x10ffff) := by
  rw [text_of_plain plain] at *
  by_cases same : p.IsWord m
  · rw [same, ok_bind] at *
    refine (succeeds_formatInteger lower upper zero).trans ?_
    simp [IsCharacter, same]
  -- What stands for another thing than the word takes every word.
  refine iff_of_true ?_ fun character => absurd character.1 same
  obtain ⟨x, first, -⟩ := succeeds_bind.1 zero
  cases p.stands law ⟨x, first⟩ with
  | constant x found =>
    rw [found] at *
    exact zero
  | word found => exact absurd found same
  | numeral found =>
    rw [found 0 (by decide) (by decide), ok_bind] at zero
    rw [found w lower upper, ok_bind]
    exact (succeeds_formatText _ _).1 zero
  | bound x found alike =>
    rw [found, ok_bind] at *
    exact alike _ _ _ zero

end Placeholder

end Disasm32.Template
