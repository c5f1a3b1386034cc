import Disasm32.Waveform.Header
import Mathlib.Data.List.Basic

/-! A header line by line. A line before the end of the definitions may declare a signal and may
open or close a scope, and the lines behind it are read with what it leaves. -/
namespace Disasm32.Waveform

open Text

def afterLine (scopes : List (List Char)) (signals : List Signal) (line : List Char) :
    Except HeaderError (List Signal) :=
  if begins "$var" line then
    (declaration? scopes (words line)).map fun declared? =>
      declared?.elim signals fun s => declare s signals
  else .ok signals

variable {scopes : List (List Char)} {signals kept : List Signal} {line : List Char}
  {lines : List (List Char)} {index : Nat} {s t : Signal}

theorem scopesAfter_of_var (var : begins "$var" line = true) :
    scopesAfter scopes line = scopes := by
  obtain ⟨rest, rfl⟩ := List.isPrefixOf_iff_prefix.1 var
  rfl

theorem readHeaderFrom_cons (index : Nat) (scopes : List (List Char)) (signals : List Signal)
    (line : List Char) (rest : List (List Char)) :
    readHeaderFrom index scopes signals (line :: rest) =
      if begins "$enddefinitions" line then .ok (signals, index + 1)
      else (afterLine scopes signals line).bind fun kept =>
        readHeaderFrom (index + 1) (scopesAfter scopes line) kept rest := by
  rw [readHeaderFrom, afterLine]
  split
  · rfl
  · by_cases var : begins "$var" line = true
    · rw [if_pos var, if_pos var, scopesAfter_of_var var]
      cases declaration? scopes (words line) with
      | error e => rfl
      | ok declared? => cases declared? <;> rfl
    · rw [if_neg var, if_neg var]
      rfl

/-- The line declares a variable whose width is no number. -/
def Unreadable (line : List Char) : Prop :=
  begins "$var" line = true ∧ 5 ≤ (words line).length ∧
    ∃ width e, (words line)[2]? = some width ∧ Literal.read 10 width = .error e

theorem declaration?_error_iff (scopes : List (List Char)) {parts : List (List Char)} :
    (∃ e, declaration? scopes parts = .error e) ↔
      5 ≤ parts.length ∧ ∃ width e, parts[2]? = some width ∧ Literal.read 10 width = .error e := by
  unfold declaration?
  split
  · rename_i width identifier name more
    cases read : Literal.read 10 width <;> simp [read]
  · rename_i short
    refine iff_of_false (by simp) fun ⟨long, _⟩ => ?_
    match parts, short, long with
    | _ :: _ :: _ :: _ :: _ :: _, short, _ => exact short _ _ _ _ _ _ rfl

theorem afterLine_error_iff (scopes : List (List Char)) (signals : List Signal) :
    (∃ e, afterLine scopes signals line = .error e) ↔ Unreadable line := by
  unfold afterLine Unreadable
  by_cases var : begins "$var" line = true
  · rw [if_pos var, and_iff_right var, ← declaration?_error_iff scopes]
    cases declaration? scopes (words line) <;> simp [Except.map]
  · simp [var]

/-- A header is refused exactly for a width before the end of the definitions. -/
theorem readHeaderFrom_error_iff :
    (∃ e, readHeaderFrom index scopes signals lines = .error e) ↔
      ∃ line ∈ lines.takeWhile (!begins "$enddefinitions" ·), Unreadable line := by
  induction lines generalizing index scopes signals with
  | nil => simp [readHeaderFrom]
  | cons line lines ih =>
    rw [readHeaderFrom_cons]
    cases ends : begins "$enddefinitions" line with
    | true => simp [ends]
    | false =>
      rw [List.takeWhile_cons_of_pos (by simp [ends]), List.exists_mem_cons_iff,
        ← afterLine_error_iff scopes signals]
      cases declared : afterLine scopes signals line with
      | error e => simp [Except.bind]
      | ok kept => simpa [Except.bind] using ih

theorem mem_of_mem_declare (member : s ∈ declare t signals) : s = t ∨ s ∈ signals := by
  induction signals with
  | nil => exact .inl (List.mem_singleton.1 member)
  | cons u signals ih =>
    rw [declare] at member
    split at member
    · exact (List.mem_cons.1 member).imp_right (List.mem_cons_of_mem u)
    · rcases List.mem_cons.1 member with rfl | later
      · exact .inr List.mem_cons_self
      · exact (ih later).imp_right (List.mem_cons_of_mem u)

theorem mem_of_mem_afterLine (declared : afterLine scopes signals line = .ok kept)
    (member : s ∈ kept) : declaration? scopes (words line) = .ok (some s) ∨ s ∈ signals := by
  unfold afterLine at declared
  split at declared
  · cases found : declaration? scopes (words line) with
    | error e =>
      rw [found] at declared
      cases declared
    | ok declared? =>
      rw [found] at declared
      cases declared? with
      | none =>
        cases declared
        exact .inr member
      | some t =>
        cases declared
        rcases mem_of_mem_declare member with rfl | earlier
        · exact .inl rfl
        · exact .inr earlier
  · cases declared
    exact .inr member

end Disasm32.Waveform
