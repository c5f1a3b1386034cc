import Disasm32.Proofs.Waveform.Lookup
import Disasm32.Proofs.Waveform.Steps

/-! Names under a scope. The signals that lie under a path are named relative to it and all others
keep their names, so what a lookup selects among them has a declared path that says the same. -/
namespace Disasm32.Waveform

open Text

variable {scopes : List (List Char)} {signals : List Signal} {lines : List String}
  {path stem : List Char} {name : String} {s o : Signal} {start : Nat}

/-- The name of the signal is the path, and behind a blank its range if it has one. -/
structure Signal.HasPath (s : Signal) (path : List Char) : Prop where
  solid : ' ' ∉ path
  named : s.name.toList = path ∨ ∃ bits, s.name.toList = path ++ ' ' :: '[' :: bits

theorem Signal.HasPath.baseName_eq (has : s.HasPath path) : s.baseName.toList = path := by
  rw [Signal.baseName, String.toList_ofList]
  rcases has.named with whole | ⟨bits, ranged⟩
  · rw [whole, before_of_absent has.solid]
  · rw [ranged]
    exact before_append_of_absent has.solid bits

theorem blank_notMem_pathName (opened : ∀ scope ∈ scopes, ' ' ∉ scope) (solid : ' ' ∉ path) :
    ' ' ∉ pathName scopes path := by
  intro member
  obtain ⟨piece, listed, inside⟩ := exists_of_mem_intercalate (by decide) member
  rcases List.mem_append.1 listed with outer | last
  · exact opened piece outer inside
  · exact solid (List.mem_singleton.1 last ▸ inside)

theorem hasPath_of_declaration? (opened : ∀ scope ∈ scopes, ' ' ∉ scope)
    {parts : List (List Char)} (solid : ∀ part ∈ parts, ' ' ∉ part)
    (declared : declaration? scopes parts = .ok (some s)) : ∃ path, s.HasPath path := by
  unfold declaration? at declared
  split at declared
  · rename_i width identifier name more
    cases read : Literal.read 10 width with
    | error e =>
      rw [read] at declared
      cases declared
    | ok n =>
      rw [read] at declared
      cases declared
      have free := blank_notMem_pathName opened (solid name (by simp))
      refine ⟨pathName scopes name, free, ?_⟩
      rw [String.toList_ofList]
      split
      · exact .inr ⟨_, rfl⟩
      · exact .inl (List.append_nil _)
  · cases declared

theorem blank_notMem_words {part line : List Char} (listed : part ∈ words line) : ' ' ∉ part := by
  intro inside
  exact absurd (not_blank_of_mem_words listed inside) (by decide)

theorem blank_notMem_scopesAfter (opened : ∀ scope ∈ scopes, ' ' ∉ scope) (line : List Char) :
    ∀ scope ∈ scopesAfter scopes line, ' ' ∉ scope := by
  intro scope listed
  unfold scopesAfter at listed
  split at listed
  · split at listed
    · rename_i name _ parts
      rcases List.mem_append.1 listed with outer | last
      · exact opened scope outer
      · rw [List.mem_singleton.1 last]
        have named : name ∈ words line := by simp [parts]
        exact blank_notMem_words named
    · exact opened scope listed
  · split at listed
    · exact opened scope (List.dropLast_subset _ listed)
    · exact opened scope listed

/-- The invariant of reading a header: no open scope has a blank in its name, and every signal that
is kept has a path. -/
theorem exists_hasPath_readHeaderFrom {lines : List (List Char)} {index stop : Nat}
    {kept : List Signal} (opened : ∀ scope ∈ scopes, ' ' ∉ scope)
    (paths : ∀ s ∈ signals, ∃ path, s.HasPath path)
    (read : readHeaderFrom index scopes signals lines = .ok (kept, stop)) :
    ∀ s ∈ kept, ∃ path, s.HasPath path := by
  induction lines generalizing index scopes signals with
  | nil =>
    cases read
    exact paths
  | cons line lines ih =>
    rw [readHeaderFrom_cons] at read
    split at read
    · cases read
      exact paths
    · cases declared : afterLine scopes signals line with
      | error e =>
        rw [declared] at read
        cases read
      | ok next =>
        rw [declared] at read
        refine ih (blank_notMem_scopesAfter opened line) (fun s member => ?_) read
        rcases mem_of_mem_afterLine declared member with fresh | earlier
        · exact hasPath_of_declaration? opened (fun part => blank_notMem_words) fresh
        · exact paths s earlier

theorem hasPath_baseName_of_readHeader (header : readHeader lines = .ok (signals, start))
    (member : s ∈ signals) : s.HasPath s.baseName.toList := by
  obtain ⟨path, has⟩ :=
    exists_hasPath_readHeaderFrom (by simp) (by simp) header s member
  rwa [has.baseName_eq]

def undotted (path : List Char) : List Char :=
  if path.getLast? = some '.' then path.dropLast else path

/-- The components of the path begin with those of `stem`, and there are more. -/
def Under (stem path : List Char) : Prop :=
  ∃ more, more ≠ [] ∧ path.splitOn '.' = (undotted stem).splitOn '.' ++ more

theorem withDot_eq (stem : List Char) : withDot stem = undotted stem ++ ['.'] := by
  unfold withDot undotted
  split
  · rename_i dotted
    obtain ⟨front, rfl⟩ := List.getLast?_eq_some_iff.1 dotted
    rw [List.dropLast_concat]
  · rfl

theorem intercalate_append {separator : List Char} {xs ys : List (List Char)} (filled : xs ≠ [])
    (more : ys ≠ []) : separator.intercalate (xs ++ ys) =
      separator.intercalate xs ++ (separator ++ separator.intercalate ys) := by
  induction xs with
  | nil => exact absurd rfl filled
  | cons x xs ih =>
    cases xs with
    | nil =>
      rw [List.singleton_append, List.intercalate_cons_of_ne_nil more, List.intercalate_singleton,
        List.append_assoc]
    | cons y xs =>
      rw [List.cons_append, List.cons_append, List.intercalate_cons_cons, ← List.cons_append,
        ih (List.cons_ne_nil y xs), List.intercalate_cons_cons]
      simp only [List.append_assoc]

theorem under_iff : Under stem path ↔ withDot stem <+: path := by
  rw [withDot_eq]
  constructor
  · rintro ⟨more, filled, parts⟩
    have whole := congrArg (['.'].intercalate ·) parts
    rw [List.intercalate_splitOn, intercalate_append (List.splitOn_ne_nil _ _) filled,
      List.intercalate_splitOn] at whole
    exact ⟨['.'].intercalate more, by rw [whole, List.append_assoc]⟩
  · rintro ⟨rest, rfl⟩
    refine ⟨rest.splitOn '.', List.splitOn_ne_nil _ _, ?_⟩
    rw [List.append_assoc, List.singleton_append, List.splitOn_append_cons_self]

/-- The signal `s` is `o` named relative to the path `stem`; without a path nothing is cut off. -/
structure Relative (stem : List Char) (o s : Signal) : Prop where
  identifier : s.identifier = o.identifier
  width : s.width = o.width
  shortened : stem ≠ [] → Under stem o.baseName.toList →
    o.name.toList = undotted stem ++ '.' :: s.name.toList
  kept : stem = [] ∨ ¬Under stem o.baseName.toList → s.name = o.name

theorem prefix_name_iff (has : o.HasPath path) (solid : ' ' ∉ stem) :
    stem <+: o.name.toList ↔ stem <+: path := by
  rcases has.named with whole | ⟨bits, ranged⟩
  · rw [whole]
  · rw [ranged]
    refine ⟨fun front => ?_, fun front => front.trans (List.prefix_append _ _)⟩
    rcases List.prefix_or_prefix_of_prefix front (List.prefix_append path _) with short | long
    · exact short
    · -- A longer beginning would hold the blank before the range.
      obtain ⟨rest, rfl⟩ := long
      cases rest with
      | nil => simp
      | cons c rest =>
        rw [List.prefix_append_right_inj] at front
        obtain ⟨rfl, -⟩ := List.cons_prefix_cons.1 front
        exact absurd (List.mem_append_right _ List.mem_cons_self) solid

theorem blank_notMem_withDot (solid : ' ' ∉ stem) : ' ' ∉ withDot stem := by
  unfold withDot
  split
  · exact solid
  · simpa using solid

theorem relative_cases (has : o.HasPath path) (solid : ' ' ∉ stem) :
    (Under stem path ∧ ∃ rest, afterStem? (withDot stem) o.name.toList = some rest ∧
        o.name.toList = undotted stem ++ '.' :: rest) ∨
      ¬Under stem path ∧ afterStem? (withDot stem) o.name.toList = none := by
  rw [under_iff, ← prefix_name_iff has (blank_notMem_withDot solid)]
  by_cases front : withDot stem <+: o.name.toList
  · refine .inl ⟨front, ?_⟩
    obtain ⟨rest, whole⟩ := front
    refine ⟨rest, ?_, ?_⟩
    · rw [← whole, afterStem?, if_pos (by simp), List.drop_left]
    · rw [← whole, withDot_eq, List.append_assoc, List.singleton_append]
  · exact .inr ⟨front, if_neg (by simpa using front)⟩

theorem forall₂_relativeTo (paths : ∀ o ∈ signals, o.HasPath o.baseName.toList)
    (solid : ' ' ∉ name.toList) :
    List.Forall₂ (Relative name.toList) signals (relativeTo name signals) := by
  unfold relativeTo
  split
  · rename_i empty
    have none : name.toList = [] := by simpa using empty
    rw [none, List.forall₂_same]
    exact fun o _ => ⟨rfl, rfl, fun filled => absurd rfl filled, fun _ => rfl⟩
  · rename_i filled
    have some : name.toList ≠ [] := by simpa using filled
    rw [List.forall₂_map_right_iff, List.forall₂_same]
    intro o member
    rcases relative_cases (paths o member) solid with ⟨under, rest, cut, whole⟩ | ⟨apart, uncut⟩
    · rw [cut]
      refine ⟨rfl, rfl, fun _ _ => ?_, fun kept => ?_⟩
      · rw [whole, String.toList_ofList]
      · exact absurd under (kept.resolve_left some)
    · rw [uncut]
      exact ⟨rfl, rfl, fun _ under => absurd under apart, fun _ => rfl⟩

/-- A dot at the end of the path makes no difference. -/
theorem relativeTo_append_dot (filled : name ≠ "") (bare : name.toList.getLast? ≠ some '.')
    (signals : List Signal) : relativeTo (name ++ ".") signals = relativeTo name signals := by
  have dotted : withDot (name ++ ".").toList = withDot name.toList := by
    have dot : ".".toList = ['.'] := rfl
    rw [String.toList_append, dot, withDot, withDot, if_neg bare, if_pos List.getLast?_concat]
  have some : name.isEmpty = false := by simpa using filled
  have more : (name ++ ".").isEmpty = false := by simp
  simp only [relativeTo, dotted, some, more]

theorem Relative.path_cases (relative : Relative stem o s) (has : o.HasPath path) :
    (s.name = o.name ∧ s.HasPath path) ∨
      ∃ rest, s.HasPath rest ∧ path = undotted stem ++ '.' :: rest := by
  by_cases cut : stem ≠ [] ∧ Under stem path
  · right
    have whole := relative.shortened cut.1 (has.baseName_eq ▸ cut.2)
    obtain ⟨rest, rfl⟩ := under_iff.1 cut.2
    rw [withDot_eq, List.append_assoc, List.singleton_append] at has ⊢
    refine ⟨rest, ⟨fun inside => has.solid (by simp [inside]), ?_⟩, rfl⟩
    have named := has.named
    rw [whole] at named
    simpa using named
  · left
    have same := relative.kept (by rw [has.baseName_eq]; tauto)
    exact ⟨same, has.solid, same ▸ has.named⟩

def Signal.EndsIn (s : Signal) (name : String) : Prop :=
  ('.' :: name.toList) <:+ s.baseName.toList

/-- The path of the signal is `name` or ends in it. -/
def Signal.IsNamed (s : Signal) (name : String) : Prop :=
  s.baseName = name ∨ s.EndsIn name

/-- Between these signals stands the first whose path is `name` or, without any such, the first
whose path ends in it. -/
inductive Selected (name : String) (s : Signal) (front back : List Signal) : Prop where
  | exact : s.baseName = name → (∀ t ∈ front, t.baseName ≠ name) → Selected name s front back
  | ending : s.EndsIn name → (∀ t ∈ front ++ s :: back, t.baseName ≠ name) →
      (∀ t ∈ front, ¬t.EndsIn name) → Selected name s front back

theorem find?_eq_some_iff : find? signals name = some s ↔
    ∃ front back, signals = front ++ s :: back ∧ Selected name s front back := by
  have ends (t : Signal) : endsIn name.toList t.baseName.toList = true ↔ t.EndsIn name :=
    endsIn_iff _ _
  rw [find?]
  cases exact : signals.find? (·.baseName = name) with
  | some u =>
    obtain ⟨same, front, back, whole, first⟩ := List.find?_eq_some_iff_append.1 exact
    have same : u.baseName = name := by simpa using same
    have first : ∀ t ∈ front, t.baseName ≠ name := by simpa using first
    constructor
    · rintro ⟨⟩
      exact ⟨front, back, whole, .exact same first⟩
    · rintro ⟨front', back', whole', selected⟩
      have found : u ∈ front' ++ s :: back' := by simp [← whole', whole]
      cases selected with
      | exact same' first' =>
        refine exact.symm.trans (List.find?_eq_some_iff_append.2 ⟨by simpa using same', ?_⟩)
        exact ⟨front', back', whole', by simpa using first'⟩
      | ending _ none _ => exact absurd same (none u found)
  | none =>
    have none : ∀ t ∈ signals, t.baseName ≠ name := by simpa using exact
    simp only [List.find?_eq_some_iff_append, ends, Bool.not_eq_true', ← Bool.not_eq_true]
    constructor
    · rintro ⟨ending, front, back, whole, first⟩
      exact ⟨front, back, whole, .ending ending (whole ▸ none) first⟩
    · rintro ⟨front, back, whole, selected⟩
      cases selected with
      | exact same _ => exact absurd same (none s (by simp [whole]))
      | ending ending _ first => exact ⟨ending, front, back, whole, first⟩

theorem find?_eq_none_iff : find? signals name = none ↔ ∀ s ∈ signals, ¬s.IsNamed name := by
  have ends (t : Signal) : endsIn name.toList t.baseName.toList = true ↔ t.EndsIn name :=
    endsIn_iff _ _
  rw [find?]
  cases exact : signals.find? (·.baseName = name) with
  | some u =>
    have same : u.baseName = name := by simpa using List.find?_some exact
    exact iff_of_false (by simp) fun none => none u (List.mem_of_find?_eq_some exact) (.inl same)
  | none =>
    have none : ∀ t ∈ signals, t.baseName ≠ name := by simpa using exact
    simp only [List.find?_eq_none, ends, Signal.IsNamed, not_or]
    exact ⟨fun apart s member => ⟨none s member, apart s member⟩, fun apart s member =>
      (apart s member).2⟩

theorem Selected.isNamed {front back : List Signal} (selected : Selected name s front back) :
    s.IsNamed name := by
  cases selected with
  | exact same _ => exact .inl same
  | ending ending _ _ => exact .inr ending

theorem Relative.hasPath (relative : Relative stem o s) (has : o.HasPath path) :
    s.HasPath s.baseName.toList := by
  rcases relative.path_cases has with ⟨-, kept⟩ | ⟨rest, below, -⟩
  · rwa [kept.baseName_eq]
  · rwa [below.baseName_eq]

/-- A path that names a signal under a scope names it from outside as well. -/
theorem Relative.isNamed (relative : Relative stem o s) (has : o.HasPath o.baseName.toList)
    (named : s.IsNamed name) : o.IsNamed name := by
  rcases relative.path_cases has with ⟨same, -⟩ | ⟨rest, below, whole⟩
  · have path : s.baseName = o.baseName := by rw [Signal.baseName, Signal.baseName, same]
    rwa [Signal.IsNamed, Signal.EndsIn, path] at named
  · right
    have inner : ('.' :: s.baseName.toList) <:+ o.baseName.toList :=
      ⟨undotted stem, by rw [whole, below.baseName_eq]⟩
    rcases named with rfl | ending
    · exact inner
    · exact ending.trans ((List.suffix_cons _ _).trans inner)

/-- Signals named relative to a path are the declared ones, in their order, and exactly those under
the path have shorter names. A lookup selects the first that has the path asked for, or else the
first whose path ends in it, and its declared path says the same. -/
theorem find?_relativeTo (header : readHeader lines = .ok (signals, start)) {scope : String}
    (solid : ' ' ∉ scope.toList) (name : String) :
    (∀ s ∈ signals ++ relativeTo scope signals, s.HasPath s.baseName.toList) ∧
      List.Forall₂ (Relative scope.toList) signals (relativeTo scope signals) ∧
      (scope ≠ "" → scope.toList.getLast? ≠ some '.' →
        relativeTo (scope ++ ".") signals = relativeTo scope signals) ∧
      (∀ s, find? (relativeTo scope signals) name = some s ↔
        ∃ front back, relativeTo scope signals = front ++ s :: back ∧
          Selected name s front back ∧
          ∃ o, signals[front.length]? = some o ∧ o.IsNamed name) ∧
      (find? (relativeTo scope signals) name = none ↔
        ∀ s ∈ relativeTo scope signals, ¬s.IsNamed name) := by
  have paths : ∀ o ∈ signals, o.HasPath o.baseName.toList :=
    fun o => hasPath_baseName_of_readHeader header
  have relative := forall₂_relativeTo paths solid
  have origin {i : Nat} {s : Signal} (found : (relativeTo scope signals)[i]? = some s) :
      ∃ o ∈ signals, signals[i]? = some o ∧ Relative scope.toList o s := by
    obtain ⟨inside, rfl⟩ := List.getElem?_eq_some_iff.1 found
    obtain ⟨same, each⟩ := List.forall₂_iff_get.1 relative
    have listed : i < signals.length := same ▸ inside
    exact ⟨signals[i], List.getElem_mem listed, List.getElem?_eq_getElem listed,
      each i listed inside⟩
  refine ⟨fun s member => ?_, relative, fun filled bare => relativeTo_append_dot filled bare _,
    fun s => ?_, find?_eq_none_iff⟩
  · rcases List.mem_append.1 member with declared | left
    · exact paths s declared
    · obtain ⟨i, found⟩ := List.mem_iff_getElem?.1 left
      obtain ⟨o, declared, -, related⟩ := origin found
      exact related.hasPath (paths o declared)
  · rw [find?_eq_some_iff]
    constructor
    · rintro ⟨front, back, whole, selected⟩
      have found : (relativeTo scope signals)[front.length]? = some s := by simp [whole]
      obtain ⟨o, declared, same, related⟩ := origin found
      exact ⟨front, back, whole, selected, o, same,
        related.isNamed (paths o declared) selected.isNamed⟩
    · rintro ⟨front, back, whole, selected, -⟩
      exact ⟨front, back, whole, selected⟩

/-- The name of the scope begins the name of another, and two signals end alike. -/
theorem find?_relativeTo_sibling :
    let lines := ["$scope module tb $end", "$var wire 1 ! a.clk $end",
      "$var wire 32 % clk [31:0] $end", "$upscope $end", "$scope module tbx $end",
      "$var wire 1 & clk $end", "$enddefinitions $end"]
    let signals : List Signal :=
      [⟨"!", "tb.a.clk", 1⟩, ⟨"%", "tb.clk [31:0]", 32⟩, ⟨"&", "tbx.clk", 1⟩]
    readHeader lines = .ok (signals, 7) ∧ ' ' ∉ "tb".toList ∧
      relativeTo "tb" signals =
        [⟨"!", "a.clk", 1⟩, ⟨"%", "clk [31:0]", 32⟩, ⟨"&", "tbx.clk", 1⟩] ∧
      List.Forall₂ (Relative "tb".toList) signals (relativeTo "tb" signals) ∧
      ∃ front back, relativeTo "tb" signals = front ++ ⟨"%", "clk [31:0]", 32⟩ :: back ∧
        Selected "clk" ⟨"%", "clk [31:0]", 32⟩ front back ∧
        ∃ o, signals[front.length]? = some o ∧ o.IsNamed "clk" := by
  intro lines signals
  have header : readHeader lines = .ok (signals, 7) := by decide +kernel
  have solid : ' ' ∉ "tb".toList := by decide
  have named : relativeTo "tb" signals =
      [⟨"!", "a.clk", 1⟩, ⟨"%", "clk [31:0]", 32⟩, ⟨"&", "tbx.clk", 1⟩] := by decide +kernel
  have found : find? (relativeTo "tb" signals) "clk" = some ⟨"%", "clk [31:0]", 32⟩ := by
    decide +kernel
  obtain ⟨-, relative, -, lookup, -⟩ := find?_relativeTo header solid "clk"
  exact ⟨header, solid, named, relative, (lookup _).1 found⟩

end Disasm32.Waveform
