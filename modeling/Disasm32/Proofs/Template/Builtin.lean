import Disasm32.Proofs.Template.Steps
import Disasm32.Template.Builtin

/-! The attributes and indices that the program follows obey the law: on a path of them the number
goes only into itself and its operations. -/
namespace Disasm32.Template

namespace Builtin

/-- How what a path leads to depends on the word. -/
inductive Even (f : Int → Except TemplateError Builtin) : Prop where
  | refused (failed : ∀ w, ¬Succeeds (f w))
  | constant (x : Builtin) (found : ∀ w, f w = .ok x)
  | word (found : ∀ w, f w = .ok (.number w))
  | operation (name : String) (found : ∀ w, f w = .ok (.operation name w))

variable {f : Int → Except TemplateError Builtin}

theorem even_named_number (name : String) : Even fun w => (number w).named name := by
  simp only [named]
  split
  · exact .constant (sort "int") fun _ => rfl
  split
  · exact .word fun _ => rfl
  split
  · exact .constant _ fun _ => rfl
  split
  · exact .constant _ fun _ => rfl
  split
  · exact .operation name fun _ => rfl
  · exact .refused fun _ => not_succeeds_error

theorem even_named_operation (own name : String) : Even fun w => (operation own w).named name := by
  simp only [named]
  split
  · exact .constant (sort "builtin_function_or_method") fun _ => rfl
  split
  · exact .constant _ fun _ => rfl
  split
  · exact .constant _ fun _ => rfl
  split
  · exact .word fun _ => rfl
  · exact .refused fun _ => not_succeeds_error

theorem even_step (even : Even f) (access : Access) : Even fun w => f w >>= (·.step access) := by
  cases even with
  | refused failed =>
    exact .refused fun w reached => failed w
      ((succeeds_bind.1 reached).imp fun _ answer => answer.1)
  | constant x found =>
    simp only [found, ok_bind]
    cases step : x.step access with
    | error e => exact .refused fun _ => not_succeeds_error
    | ok y => exact .constant y fun _ => rfl
  | word found =>
    simp only [found, ok_bind]
    obtain name | ⟨name, position?⟩ := access
    · exact even_named_number _
    · exact .refused fun _ => not_succeeds_error
  | operation own found =>
    simp only [found, ok_bind]
    obtain name | ⟨name, position?⟩ := access
    · exact even_named_operation own _
    · exact .refused fun _ => not_succeeds_error

theorem even_foldlM (even : Even f) (path : List Access) :
    Even fun w => f w >>= path.foldlM step := by
  induction path generalizing f with
  | nil => simpa using even
  | cons access path ih => simpa [List.foldlM_cons] using ih (even_step even access)

end Builtin

theorem usual_isUniform : Members.usual.IsUniform := by
  intro path _
  have even := Builtin.even_foldlM (.word fun _ => rfl) path
  unfold Members.usual
  cases even with
  | refused failed => exact .refused fun w => by rw [succeeds_map]; exact failed w
  | constant x found =>
    have same (w : Int) : path.foldlM Builtin.step (.number w) = .ok x := found w
    exact .constant x.entity fun w => by rw [same]; rfl
  | word found =>
    have same (w : Int) : path.foldlM Builtin.step (.number w) = .ok (.number w) := found w
    exact .word fun w => by rw [same]; rfl
  | operation name found =>
    have same (w : Int) : path.foldlM Builtin.step (.number w) = .ok (.operation name w) := found w
    have plain (w : Int) (text : String) : ((Builtin.operation name w).plain text).IsPlain := by
      refine ⟨fun _ => succeeds_ok, fun spec => ?_⟩
      cases spec <;> simp [Builtin.plain]
    exact .bound _ (fun w => plain w _) fun w => by rw [same]; rfl

end Disasm32.Template
