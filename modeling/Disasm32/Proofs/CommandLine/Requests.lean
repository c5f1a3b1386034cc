import Disasm32.Proofs.CommandLine.Forms

/-! Requests as arguments. A request can be written with each value joined to its switch, or with
each value behind its switch. The first is always read back; the second only if every value looks
like an operand, since it is read by its form. -/
namespace Disasm32.CommandLine

def valued : List String := ["signal", "strip-prefix", "config", "target"]

namespace TraceRequest

def values (r : TraceRequest) : List (String × String) :=
  (r.signal?.map ("signal", ·)).toList ++ (r.scope?.map ("strip-prefix", ·)).toList ++
    (r.settings?.map ("config", ·)).toList ++ (r.target?.map ("target", ·)).toList

def flags (r : TraceRequest) : List String := if r.verbose then ["-v"] else []

/-- The arguments for a request with each value joined to its switch. -/
def joined (r : TraceRequest) : List String :=
  r.values.map (fun (long, value) => "--" ++ long ++ "=" ++ value) ++ (r.flags ++ ["--", r.dump])

def pairs (values : List (String × String)) : List String :=
  values.flatMap fun (long, value) => ["--" ++ long, value]

def flagged (r : TraceRequest) : List (String × List String) :=
  if r.verbose then [("verbose", [])] else []

def given (r : TraceRequest) (read : String → List String) : List (String × List String) :=
  r.values.map (fun (long, value) => (long, read value)) ++ r.flagged

theorem mem_valued_of_mem_values {r : TraceRequest} {pair : String × String}
    (member : pair ∈ r.values) : pair.1 ∈ valued := by
  simp only [values, List.mem_append, Option.mem_toList, Option.map_eq_some_iff] at member
  rcases member with ((⟨_, _, rfl⟩ | ⟨_, _, rfl⟩) | ⟨_, _, rfl⟩) | ⟨_, _, rfl⟩ <;>
    simp [valued]

theorem find?_value (read : String → List String) (name long : String) (value? : Option String) :
    (((value?.map (name, ·)).toList.map fun (long, v) => (long, read v)).reverse.find?
      (·.1 == long)) = if name = long then value?.map fun v => (name, read v) else none := by
  cases value? with
  | none => simp
  | some value => by_cases same : name = long <;> simp [same]

theorem find?_flagged (r : TraceRequest) (long : String) :
    r.flagged.reverse.find? (·.1 == long) =
      if r.verbose = true ∧ "verbose" = long then some ("verbose", []) else none := by
  unfold flagged
  cases r.verbose with
  | false => rfl
  | true => by_cases same : "verbose" = long <;> simp [same]

theorem has_eq_isSome_values? (a : Arguments) (long : String) :
    a.has long = (a.values? long).isSome := by
  rw [Bool.eq_iff_iff]
  simp [Arguments.has, Arguments.values?, List.find?_isSome]

theorem values?_given (r : TraceRequest) (read : String → List String) :
    let a : Arguments := { settings := r.given read, operands? := some [r.dump] }
    a.values? "signal" = r.signal?.map read ∧ a.values? "strip-prefix" = r.scope?.map read ∧
      a.values? "config" = r.settings?.map read ∧ a.values? "target" = r.target?.map read ∧
      a.has "verbose" = r.verbose := by
  have found (long : String) : (r.given read).reverse.find? (·.1 == long) =
      ((((if r.verbose = true ∧ "verbose" = long then some ("verbose", []) else none).or
        (if "target" = long then r.target?.map fun v => ("target", read v) else none)).or
        (if "config" = long then r.settings?.map fun v => ("config", read v) else none)).or
        (if "strip-prefix" = long then r.scope?.map fun v => ("strip-prefix", read v) else none)).or
        (if "signal" = long then r.signal?.map fun v => ("signal", read v) else none) := by
    simp only [given, values, List.map_append, List.reverse_append, List.find?_append, find?_value,
      find?_flagged, Option.or_assoc]
  simp only [has_eq_isSome_values?, Arguments.values?, found]
  cases r.verbose <;> simp [Function.comp_def]

theorem traceRequest_given (r : TraceRequest) (read : String → List String) :
    traceRequest { settings := r.given read, operands? := some [r.dump] } =
      { dump := r.dump
        signal? := (r.signal?.map read).bind (·.head?)
        scope? := (r.scope?.map read).map (·.headD "")
        settings? := (r.settings?.map read).bind (·.head?)
        target? := (r.target?.map read).bind (·.head?)
        verbose := r.verbose } := by
  obtain ⟨signal, scope, settings, target, verbose⟩ := values?_given r read
  simp only [traceRequest, Arguments.value?, signal, scope, settings, target, verbose]
  rfl

end TraceRequest

variable {g : Grammar} {text long value : String}

structure ReadsRequests (g : Grammar) : Prop where
  unequal : ∀ spelling ∈ g.spellings.map (·.1), '=' ∉ spelling.toList
  valued : ∀ long ∈ valued, ∃ s, g.switch? ("--" ++ long) = some s ∧ s.long = long ∧
    s.value?.isSome = true
  verbose : ∃ s, g.switch? "-v" = some s ∧ s.long = "verbose" ∧ s.value? = none
  single : g.arity? = some .one

theorem readsRequests (known : g = traceGrammar ∨ g = Command.trace.grammar) :
    ReadsRequests g := by
  rcases known with rfl | rfl
  all_goals
    refine ⟨by decide +kernel, ?_, ⟨_, rfl, rfl, rfl⟩, rfl⟩
    simp only [valued, List.forall_mem_cons]
    refine ⟨⟨_, rfl, rfl, rfl⟩, ⟨_, rfl, rfl, rfl⟩, ⟨_, rfl, rfl, rfl⟩, ⟨_, rfl, rfl, rfl⟩, ?_⟩
    simp

theorem ne_help_of_mem_valued (listed : long ∈ valued) : long ≠ "help" := by
  rintro rfl
  exact absurd listed (by decide)

namespace Grammar

def readOn (g : Grammar) (phase : Phase) (a : Arguments) (arguments : List String) :
    Except Stop Arguments :=
  ((g.roles arguments).mapError .usage).bind fun rs => g.readFrom rs phase a

variable {phase : Phase} {a : Arguments} {r : Role} {rest : List String}
  {values : List (String × String)}

theorem readOn_of_roles {rs : List (String × Role)} (roles : g.roles rest = .ok rs) :
    g.readOn phase a rest = g.readFrom rs phase a := by
  rw [readOn, roles]
  rfl

theorem readOn_cons (named : text ≠ "--") (role : g.role text = .ok r) :
    g.readOn phase a (text :: rest) =
      ((g.roles rest).mapError .usage).bind fun rs => g.readFrom ((text, r) :: rs) phase a := by
  rw [readOn, roles, if_neg named, role]
  show (((g.roles rest).bind fun rs => .ok ((text, r) :: rs)).mapError Stop.usage).bind _ = _
  cases g.roles rest <;> rfl

theorem readKnown_eq (g : Grammar) (arguments : List String) :
    g.readKnown arguments = (g.readOn .before {} arguments).bind fun a =>
      match g.operand?, a.operands? with
      | some operand, none =>
        if operand.arity = .command then .ok a else .error (.usage (.missing operand.name))
      | _, _ => .ok a := by
  unfold readKnown readOn
  cases g.roles arguments <;> rfl

theorem readKnown_of_readOn {os : List String} (read : g.readOn .before {} rest = .ok a)
    (held : a.operands? = some os) : g.readKnown rest = .ok a := by
  rw [readKnown_eq, read]
  simp only [Except.bind, held]
  cases g.operand? <;> rfl

theorem readOn_joined (known : ReadsRequests g) (listed : long ∈ valued) (value : String) :
    g.readOn phase a (("--" ++ long ++ "=" ++ value) :: rest) = g.readOn (behind phase)
      { a with settings := a.settings ++ [(long, attachedValues value.toList)] } rest := by
  obtain ⟨s, found, rfl, takes⟩ := known.valued long listed
  have dashed : ("--" ++ s.long).toList = '-' :: '-' :: s.long.toList := by simp
  have named : "--" ++ s.long ++ "=" ++ value ≠ "--" := by
    intro same
    simpa using congrArg String.toList same
  rw [readOn_cons named (role_joined known.unequal dashed found value)]
  simp only [readFrom_attached takes (ne_help_of_mem_valued listed)]
  rfl

theorem readOn_joined_values (known : ReadsRequests g) (listed : ∀ pair ∈ values, pair.1 ∈ valued)
    (a : Arguments) (rest : List String) :
    g.readOn .before a (values.map (fun (long, value) => "--" ++ long ++ "=" ++ value) ++ rest) =
      g.readOn .before
        { a with
          settings := a.settings ++
            values.map fun (long, value) => (long, attachedValues value.toList) } rest := by
  induction values generalizing a with
  | nil => simp
  | cons pair values ih =>
    rw [List.forall_mem_cons] at listed
    rw [List.map_cons, List.cons_append, readOn_joined known listed.1]
    show g.readOn .before _ _ = _
    rw [ih listed.2, List.map_cons, List.append_assoc, List.singleton_append]

theorem readOn_flags (known : ReadsRequests g) (q : TraceRequest) (phase : Phase) (a : Arguments)
    (rest : List String) : g.readOn phase a (q.flags ++ rest) =
      g.readOn (if q.verbose then behind phase else phase)
        { a with settings := a.settings ++ q.flagged } rest := by
  unfold TraceRequest.flags TraceRequest.flagged
  cases q.verbose with
  | false => simp
  | true =>
    obtain ⟨s, found, long, alone⟩ := known.verbose
    have other : s.long ≠ "help" := by
      rw [long]
      decide
    rw [if_pos rfl, if_pos rfl, if_pos rfl, List.singleton_append,
      readOn_cons (by decide) (role_of_switch? rfl found)]
    simp only [readFrom_alone alone other, long]
    rfl

theorem readKnown_joined (known : ReadsRequests g) (q : TraceRequest) :
    g.readKnown q.joined = .ok
      { settings := q.given fun value => attachedValues value.toList
        operands? := some [q.dump] } := by
  have last (a : Arguments) :
      g.readOn .before a ["--", q.dump] = .ok { a with operands? := some [q.dump] } := by
    rw [readOn_of_roles (roles_divided _ _), readFrom_divider known.single (by simp)]
    exact readFrom_first known.single (by decide) _ a
  have listed : ∀ pair ∈ q.values, pair.1 ∈ valued :=
    fun _ => TraceRequest.mem_valued_of_mem_values
  refine readKnown_of_readOn ?_ rfl
  rw [TraceRequest.joined, readOn_joined_values known listed, readOn_flags known]
  show g.readOn (if q.verbose then .before else .before) _ _ = _
  rw [ite_self, last, TraceRequest.given, List.nil_append]

end Grammar

/-- What the joined arguments of a request ask for: two dashes are no value, and for a prefix they
are the empty one. -/
def TraceRequest.meant (r : TraceRequest) : TraceRequest :=
  { r with
    signal? := r.signal?.filter (· != "--")
    scope? := r.scope?.map fun scope => if scope = "--" then "" else scope
    settings? := r.settings?.filter (· != "--")
    target? := r.target?.filter (· != "--") }

theorem attachedValues_toList (value : String) :
    attachedValues value.toList = if value = "--" then [] else [value] := by
  rw [attachedValues, String.ofList_toList]
  by_cases same : value = "--" <;> simp [same]

theorem head?_attachedValues (value? : Option String) :
    (value?.map fun value => attachedValues value.toList).bind (·.head?) =
      value?.filter (· != "--") := by
  cases value? with
  | none => rfl
  | some value =>
    show (attachedValues value.toList).head? = _
    rw [attachedValues_toList, Option.filter]
    by_cases same : value = "--" <;> simp [same]

theorem headD_attachedValues (value? : Option String) (other : String) :
    (value?.map fun value => attachedValues value.toList).map (·.headD other) =
      value?.map fun value => if value = "--" then other else value := by
  cases value? with
  | none => rfl
  | some value =>
    show some ((attachedValues value.toList).headD other) = _
    rw [attachedValues_toList]
    by_cases same : value = "--" <;> simp [same]

theorem runTrace_joined (env : Environment) (r : TraceRequest) :
    runTrace env r.joined = traceDump env r.meant := by
  have read : traceGrammar.read r.joined =
      .ok { settings := r.given fun value => attachedValues value.toList
            operands? := some [r.dump] } := by
    rw [Grammar.read, Grammar.readKnown_joined (readsRequests (.inl rfl))]
    rfl
  rw [runTrace, read]
  dsimp only
  rw [TraceRequest.traceRequest_given, headD_attachedValues]
  simp only [head?_attachedValues]
  rfl

end Disasm32.CommandLine
