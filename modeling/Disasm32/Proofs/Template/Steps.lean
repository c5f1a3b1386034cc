import Disasm32.Proofs.Template.Formats

/-! What the name of a placeholder leads to, for all words at once. Of a number nothing depends on
its value but the number itself and the objects that go with it, like its operations; of those a
template can take a text, and a format only if it is empty. Names keep this law, since which step
comes next is up to the name alone. -/
namespace Disasm32.Template

/-- An object that has texts, and no formats of its own. -/
structure Object.IsPlain (x : Object) : Prop where
  text : ∀ c, Succeeds (x.text c)
  format : ∀ spec, Succeeds (x.format spec) ↔ spec = []

/-- How what a path leads to depends on the word. -/
inductive Uniform (f : Int → Except TemplateError Entity) : Prop where
  | refused (failed : ∀ w, ¬Succeeds (f w))
  | constant (x : Entity) (found : ∀ w, f w = .ok x)
  | word (found : ∀ w, f w = .ok (.number w))
  | bound (x : Int → Object) (plain : ∀ w, (x w).IsPlain) (found : ∀ w, f w = .ok (.object (x w)))

/-- The law of attributes and indices. -/
def Members.IsUniform (m : Members) : Prop := ∀ path, path ≠ [] → Uniform fun w => m w path

variable {m : Members} {f : Int → Except TemplateError Entity}

theorem Uniform.of_eq (r : Except TemplateError Entity) : Uniform fun _ => r := by
  cases r with
  | error e => exact .refused fun _ => not_succeeds_error
  | ok x => exact .constant x fun _ => rfl

/-- A step fails for all words, or leads on from all of them. -/
theorem Uniform.succeeds (uniform : Uniform f) :
    (∀ w, ¬Succeeds (f w)) ∨ ∀ w, Succeeds (f w) := by
  cases uniform with
  | refused failed => exact .inl failed
  | constant x found => exact .inr fun w => ⟨_, found w⟩
  | word found => exact .inr fun w => ⟨_, found w⟩
  | bound x plain found => exact .inr fun w => ⟨_, found w⟩

theorem uniform_reach (law : m.IsUniform) (path : List Access) :
    Uniform fun w => m.reach w path := by
  cases path with
  | nil => exact .word fun w => rfl
  | cons access path => exact law _ (List.cons_ne_nil _ _)

theorem follow_of_takeAccess {fuel : Nat} {path : List Access} {cs rest : List Char}
    {access : Access} (w : Int) (taken : takeAccess cs = .ok (access, rest)) :
    follow m w (fuel + 1) path cs =
      m.reach w (path ++ [access]) >>= fun _ => follow m w fuel (path ++ [access]) rest := by
  cases cs with
  | nil => cases taken
  | cons c cs => simp only [follow, taken]; rfl

theorem uniform_follow (law : m.IsUniform) (fuel : Nat) (path : List Access) (cs : List Char) :
    Uniform fun w => follow m w fuel path cs := by
  induction fuel generalizing path cs with
  | zero => exact uniform_reach law path
  | succ fuel ih =>
    cases cs with
    | nil => exact uniform_reach law path
    | cons c cs =>
      cases taken : takeAccess (c :: cs) with
      | error e =>
        simp only [follow, taken]
        exact .of_eq (.error e)
      | ok step =>
        simp only [follow_of_takeAccess _ taken]
        obtain failed | found := (uniform_reach law (path ++ [step.1])).succeeds
        · exact .refused fun w reached => failed w
            ((succeeds_bind.1 reached).imp fun _ answer => answer.1)
        · choose x found using found
          simp only [found, ok_bind]
          exact ih _ _

theorem uniform_resolve (law : m.IsUniform) (name : List Char) :
    Uniform fun w => resolve m w name := by
  unfold resolve
  dsimp only
  cases position? (name.takeWhile (!startsAccess ·)) with
  | error e => exact .of_eq (.error e)
  | ok found =>
    cases found with
    | some n => exact .of_eq (.error _)
    | none =>
      simp only [bind, Except.bind]
      split
      · exact .of_eq (.error _)
      split
      · exact .of_eq (.error _)
      · exact uniform_follow law _ _ _

end Disasm32.Template
