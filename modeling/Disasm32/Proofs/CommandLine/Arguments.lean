import Disasm32.CommandLine.Run

/-! How arguments reach a command. An argument is read by its form: without a dash in front it is an
operand. The name of a command takes everything behind it along, whatever it is to the program as a
whole. -/
namespace Disasm32.CommandLine

variable {g : Grammar} {argument : String} {rest : List String} {r : Role}
  {rs : List (String × Role)}

namespace Grammar

theorem role_of_head (plain : argument.toList.head? ≠ some '-') :
    g.role argument = .ok .operand := by
  unfold role
  generalize argument.toList = cs at plain
  dsimp only
  split
  · exact absurd rfl plain
  · rfl

theorem roles_divided (g : Grammar) (rest : List String) : g.roles ("--" :: rest) =
    .ok (("--", .separator) :: rest.map fun operand => (operand, .operand)) := by
  rw [Grammar.roles, if_pos rfl]

theorem roles_cons (named : argument ≠ "--") (role : g.role argument = .ok r)
    (roles : g.roles rest = .ok rs) : g.roles (argument :: rest) = .ok ((argument, r) :: rs) := by
  rw [Grammar.roles, if_neg named, role, roles]
  rfl

theorem roles_cons_of_head (plain : argument.toList.head? ≠ some '-')
    (roles : g.roles rest = .ok rs) :
    g.roles (argument :: rest) = .ok ((argument, .operand) :: rs) := by
  have named : argument ≠ "--" := by
    rintro rfl
    exact plain rfl
  exact roles_cons named (role_of_head plain) roles

/-- The first argument divides the others off or has a role of its own. -/
theorem eq_of_roles_cons (roles : g.roles (argument :: rest) = .ok rs) :
    rs = ("--", .separator) :: rest.map (fun operand => (operand, .operand)) ∧ argument = "--" ∨
      ∃ r later, rs = (argument, r) :: later ∧ g.role argument = .ok r ∧
        g.roles rest = .ok later := by
  rw [Grammar.roles] at roles
  split at roles
  · rename_i divided
    cases roles
    exact .inl ⟨by rw [divided], divided⟩
  · cases role : g.role argument with
    | error e =>
      rw [role] at roles
      cases roles
    | ok r =>
      cases later : g.roles rest with
      | error e =>
        rw [role, later] at roles
        cases roles
      | ok rs =>
        rw [role, later] at roles
        cases roles
        exact .inr ⟨r, rs, rfl, rfl, rfl⟩

/-- Roles are given to the arguments in their order, and to all of them. -/
theorem map_fst_of_roles (roles : g.roles rest = .ok rs) : rs.map (·.1) = rest := by
  induction rest generalizing rs with
  | nil =>
    cases roles
    rfl
  | cons argument rest ih =>
    rcases eq_of_roles_cons roles with ⟨rfl, rfl⟩ | ⟨r, later, rfl, -, others⟩
    · simp [Function.comp_def]
    · rw [List.map_cons, ih others]

theorem roles_of_plain {texts : List String} (plain : ∀ t ∈ texts, t.toList.head? ≠ some '-') :
    g.roles texts = .ok (texts.map fun t => (t, .operand)) := by
  induction texts with
  | nil => rfl
  | cons text texts ih =>
    rw [List.forall_mem_cons] at plain
    exact roles_cons_of_head plain.1 (ih plain.2)

variable {phase : Phase} {a : Arguments} {s : Switch} {short : Bool} {value : String}

/-- An operand is the first, a further one if there may be several, or belongs to nothing. -/
theorem readFrom_operand {n : Arity} (arity : g.arity? = some n) (other : n ≠ .command)
    (text : String) (a : Arguments) : g.readFrom ((text, .operand) :: rs) phase a =
      if phase = .before then g.readFrom rs .among { a with operands? := some [text] }
      else if phase = .among ∧ n = .many then
        g.readFrom rs .among { a with operands? := some (a.operands ++ [text]) }
      else g.readFrom rs .after { a with extra := a.extra ++ [text] } := by
  cases n with
  | command => exact absurd rfl other
  | one | many => cases phase <;> simp [readFrom, arity]

theorem readFrom_first {n : Arity} (arity : g.arity? = some n) (other : n ≠ .command)
    (text : String) (a : Arguments) : g.readFrom ((text, .operand) :: rs) .before a =
      g.readFrom rs .among { a with operands? := some [text] } := by
  rw [readFrom_operand arity other, if_pos rfl]

theorem readFrom_operands (arity : g.arity? = some .many) {texts : List String}
    (filled : texts ≠ []) (a : Arguments) :
    g.readFrom (texts.map fun t => (t, .operand)) .before a =
      .ok { a with operands? := some texts } := by
  have more (texts front : List String) (a : Arguments) (held : a.operands? = some front) :
      g.readFrom (texts.map fun t => (t, .operand)) .among a =
        .ok { a with operands? := some (front ++ texts) } := by
    induction texts generalizing a front with
    | nil => rw [List.map_nil, readFrom_nil, List.append_nil, ← held]
    | cons text texts ih =>
      have longer : some (a.operands ++ [text]) = some (front ++ [text]) := by
        simp [Arguments.operands, held]
      rw [List.map_cons, readFrom_operand arity (by decide), if_neg (by decide),
        if_pos ⟨rfl, rfl⟩, ih _ _ longer, List.append_assoc, List.singleton_append]
  obtain ⟨text, texts, rfl⟩ := List.exists_cons_of_ne_nil filled
  rw [List.map_cons, readFrom_first arity (by decide), more texts [text] _ rfl,
    List.singleton_append]

def behind (phase : Phase) : Phase := if phase = .before then .before else .after

theorem record_of_ne_help {long : String} (other : long ≠ "help") (values : List String)
    (a : Arguments) (next? : Option Switch) :
    record a { settings := [(long, values)], open? := next? } =
      .ok { a with settings := a.settings ++ [(long, values)] } := by
  have unasked : [(long, values)].any (·.1 == Switch.askHelp.long) = false := by
    simpa [Switch.askHelp] using other
  rw [record, unasked]
  rfl

variable {attached? : Option (List Char)} {e : Expansion} {last : Switch}

theorem readFrom_closed (given : g.expand s short attached? = .ok e) (closed : e.open? = none) :
    g.readFrom ((argument, .switch s short attached?) :: rs) phase a =
      (record a e).bind (g.readFrom rs (behind phase)) := by
  rw [readFrom, given]
  simp only [closed]
  rfl

theorem readFrom_alone (alone : s.value? = none) (other : s.long ≠ "help") :
    g.readFrom ((argument, .switch s short none) :: rs) phase a =
      g.readFrom rs (behind phase) { a with settings := a.settings ++ [(s.long, [])] } := by
  have given : g.expand s short none = .ok { settings := [(s.long, [])] } := by
    simp [expand, Switch.alone, alone]
  rw [readFrom_closed given rfl, record_of_ne_help other]
  rfl

theorem readFrom_attached (takes : s.value?.isSome = true) (other : s.long ≠ "help")
    (text : List Char) : g.readFrom ((argument, .switch s short (some text)) :: rs) phase a =
      g.readFrom rs (behind phase)
        { a with settings := a.settings ++ [(s.long, attachedValues text)] } := by
  have given : g.expand s short (some text) =
      .ok { settings := [(s.long, attachedValues text)] } := by
    cases text <;> simp [expand, attached, takes]
  rw [readFrom_closed given rfl, record_of_ne_help other]
  rfl

theorem readFrom_divider (arity : g.arity? = some .one) (filled : rs ≠ []) :
    g.readFrom ((argument, .separator) :: rs) .before a = g.readFrom rs .before a := by
  obtain ⟨entry, rs, rfl⟩ := List.exists_cons_of_ne_nil filled
  simp [readFrom, arity]

theorem readKnown_of_readFrom {os : List String} (roles : g.roles rest = .ok rs)
    (read : g.readFrom rs .before {} = .ok a) (held : a.operands? = some os) :
    g.readKnown rest = .ok a := by
  rw [readKnown, roles]
  show (g.readFrom rs .before {}).bind _ = _
  rw [read]
  simp only [Except.bind, held]
  cases g.operand? <;> rfl

end Grammar

theorem splitValue_cons {c : Char} (other : c ≠ '=') (cs : List Char) :
    splitValue (c :: cs) = (c :: (splitValue cs).1, (splitValue cs).2) := by
  unfold splitValue
  rw [List.dropWhile_cons_of_pos (by simpa using other),
    List.takeWhile_cons_of_pos (by simpa using other)]
  split <;> rfl

theorem length_candidates_main (cs : List Char) : (mainGrammar.candidates cs).length ≤ 1 := by
  have spellings : mainGrammar.spellings =
      [("-h", Switch.askHelp), ("--help", Switch.askHelp)] := rfl
  unfold Grammar.candidates
  split
  · rename_i cs
    have short : (splitValue ('-' :: '-' :: cs)).1.isPrefixOf "-h".toList = false := by
      rw [splitValue_cons (by decide), splitValue_cons (by decide)]
      rfl
    dsimp only
    rw [List.length_map, spellings, List.filter_cons_of_neg (by rw [short]; decide)]
    exact List.length_filter_le _ _
  · rename_i c value _
    have long : ("--help" == String.ofList ['-', c]) = false := by
      refine beq_eq_false_iff_ne.2 fun same => ?_
      have letters : "--help".length = 2 := (congrArg _ same).trans String.length_ofList
      exact absurd letters (by decide)
    rw [List.length_map, spellings, List.filter_cons,
      List.filter_cons_of_neg (by rw [long]; decide)]
    split
    · exact Nat.le_refl 1
    · exact Nat.zero_le 1
  · exact Nat.zero_le 1

/-- The program itself has too few switches to take an argument for two of them. -/
theorem exists_role_main (argument : String) : ∃ r, mainGrammar.role argument = .ok r := by
  unfold Grammar.role
  dsimp only
  split
  · split
    · exact ⟨_, rfl⟩
    · split
      · exact ⟨_, rfl⟩
      · split
        · exact ⟨_, rfl⟩
        · rename_i several
          have few := length_candidates_main argument.toList
          simp_all
        · exact ⟨_, rfl⟩
  · exact ⟨_, rfl⟩

theorem exists_roles_main (arguments : List String) :
    ∃ rs, mainGrammar.roles arguments = .ok rs := by
  induction arguments with
  | nil => exact ⟨_, rfl⟩
  | cons argument rest ih =>
    by_cases divided : argument = "--"
    · subst divided
      exact ⟨_, Grammar.roles_divided _ _⟩
    · obtain ⟨r, role⟩ := exists_role_main argument
      obtain ⟨rs, roles⟩ := ih
      exact ⟨_, Grammar.roles_cons divided role roles⟩

theorem readKnown_main (plain : argument.toList.head? ≠ some '-') (rest : List String) :
    mainGrammar.readKnown (argument :: rest) = .ok { operands? := some (argument :: rest) } := by
  obtain ⟨rs, roles⟩ := exists_roles_main rest
  have whole := Grammar.map_fst_of_roles roles
  rw [Grammar.readKnown, Grammar.roles_cons_of_head plain roles, ← whole]
  rfl

/-- The program leaves everything behind the name of a command to the command. -/
theorem run_eq_runCommand (env : Environment) (plain : argument.toList.head? ≠ some '-')
    (rest : List String) : run env (argument :: rest) = runCommand env argument rest [] := by
  rw [run, readKnown_main plain]
  rfl

end Disasm32.CommandLine
