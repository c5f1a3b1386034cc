import Disasm32.Proofs.CommandLine.Arguments

/-! The form of an argument. An argument is an operand exactly if it begins with no dash, is one,
or is a negative number or holds a blank and looks like no switch. -/
namespace Disasm32.CommandLine

variable {g : Grammar} {text : String}

namespace Grammar

theorem mem_spellings_of_switch? {spelling : String} {s : Switch}
    (known : g.switch? spelling = some s) : spelling ∈ g.spellings.map (·.1) := by
  obtain ⟨⟨other, t⟩, found, rfl⟩ := Option.map_eq_some_iff.1 known
  have same : other = spelling := by simpa using List.find?_some found
  exact List.mem_map.2 ⟨_, List.mem_of_find?_eq_some found, same⟩

variable {s : Switch} {c : Char} {cs : List Char}

theorem splitValue_append (unequal : '=' ∉ cs) (value : List Char) :
    splitValue (cs ++ '=' :: value) = (cs, some value) := by
  induction cs with
  | nil => rfl
  | cons c cs ih =>
    rw [List.mem_cons, not_or] at unequal
    rw [List.cons_append, splitValue_cons (Ne.symm unequal.1), ih unequal.2]

theorem role_of_switch? (dashed : text.toList = '-' :: c :: cs) (known : g.switch? text = some s) :
    g.role text = .ok (.switch s (c != '-') none) := by
  unfold role
  dsimp only
  split
  · rename_i same
    obtain ⟨rfl, -⟩ := List.cons.inj (List.cons.inj (same.symm.trans dashed)).2
    rw [known]
  · rename_i short
    exact absurd dashed (short c cs)

theorem role_joined (unequal : ∀ spelling ∈ g.spellings.map (·.1), '=' ∉ spelling.toList)
    {spelling : String} (dashed : spelling.toList = '-' :: c :: cs)
    (known : g.switch? spelling = some s) (value : String) :
    g.role (spelling ++ "=" ++ value) = .ok (.switch s (c != '-') (some value.toList)) := by
  have bare := unequal _ (mem_spellings_of_switch? known)
  have whole : (spelling ++ "=" ++ value).toList = spelling.toList ++ '=' :: value.toList := by
    simp
  have unknown : g.switch? (spelling ++ "=" ++ value) = none := by
    cases found : g.switch? (spelling ++ "=" ++ value) with
    | none => rfl
    | some t =>
      refine absurd ?_ (unequal _ (mem_spellings_of_switch? found))
      simp
  have cut := splitValue_append (dashed ▸ bare) value.toList
  have start : String.ofList ('-' :: c :: cs) = spelling := by rw [← dashed, String.ofList_toList]
  rw [List.cons_append, List.cons_append] at cut
  unfold role
  rw [whole, dashed]
  simp only [List.cons_append, unknown, cut, start, known]

end Grammar

end Disasm32.CommandLine
