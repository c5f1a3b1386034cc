import Disasm32.Template.Error

/-! A template is text with placeholders between braces; a doubled brace stands for itself. A
placeholder has a name, after `!` a conversion, and after `:` a format, which may hold placeholders
of its own. `pieces` divides a template up to its first fault. -/
namespace Disasm32.Template

structure Placeholder where
  name : List Char
  conversion : Option Char
  spec : List Char
  deriving DecidableEq, Repr

inductive Piece where
  | text (cs : List Char)
  | placeholder (p : Placeholder)
  deriving DecidableEq, Repr

def isBrace (c : Char) : Bool := c == '{' || c == '}'

def endsName (c : Char) : Bool := isBrace c || c == ':' || c == '!'

/-- The name of a placeholder and what follows. Between square brackets every character belongs
to the name. -/
def spanName : Bool → List Char → List Char × List Char
  | _, [] => ([], [])
  | bracketed, c :: cs =>
    if !bracketed && endsName c then ([], c :: cs)
    else
      let parts := spanName (if bracketed then c != ']' else c == '[') cs
      (c :: parts.1, parts.2)

/-- The format of a placeholder up to the brace that closes the placeholder, with `depth` braces
open inside it, and what follows. -/
def spanSpec : Nat → List Char → List Char × List Char
  | _, [] => ([], [])
  | 0, '}' :: cs => ([], '}' :: cs)
  | depth, c :: cs =>
    let parts := spanSpec (if c == '{' then depth + 1 else if c == '}' then depth - 1 else depth) cs
    (c :: parts.1, parts.2)

theorem append_spanName (bracketed : Bool) (cs : List Char) :
    (spanName bracketed cs).1 ++ (spanName bracketed cs).2 = cs := by
  induction cs generalizing bracketed with
  | nil => rfl
  | cons c cs ih =>
    simp only [spanName]
    split
    · rfl
    · simp [ih]

theorem append_spanSpec (depth : Nat) (cs : List Char) :
    (spanSpec depth cs).1 ++ (spanSpec depth cs).2 = cs := by
  fun_induction spanSpec depth cs with
  | case1 => rfl
  | case2 => rfl
  | case3 depth c cs _ parts ih =>
    rw [List.cons_append]
    exact congrArg (c :: ·) ih

theorem length_spanName_le (cs : List Char) : (spanName false cs).2.length ≤ cs.length := by
  have := congrArg List.length (append_spanName false cs)
  simp only [List.length_append] at this
  omega

theorem length_spanSpec_le (cs : List Char) : (spanSpec 0 cs).2.length ≤ cs.length := by
  have := congrArg List.length (append_spanSpec 0 cs)
  simp only [List.length_append] at this
  omega

def scanSpec (cs : List Char) : Except TemplateError (List Char × List Char) :=
  match (spanSpec 0 cs).2 with
  | [] => .error .unclosedSpec
  | _ :: rest => .ok ((spanSpec 0 cs).1, rest)

def scanPlaceholder (cs : List Char) : Except TemplateError (Placeholder × List Char) :=
  let name := (spanName false cs).1
  match (spanName false cs).2 with
  | [] => .error .unclosedName
  | '{' :: _ => .error .openInName
  | '}' :: rest => .ok (⟨name, none, []⟩, rest)
  | ':' :: rest => (scanSpec rest).map fun parts => (⟨name, none, parts.1⟩, parts.2)
  | [_] => .error .noConversion
  | [_, _] => .error .unclosedSpec
  | _ :: conversion :: '}' :: rest => .ok (⟨name, some conversion, []⟩, rest)
  | _ :: conversion :: ':' :: rest =>
    (scanSpec rest).map fun parts => (⟨name, some conversion, parts.1⟩, parts.2)
  | _ :: _ :: _ :: _ => .error .textAfterConversion

theorem length_scanSpec {cs : List Char} {parts : List Char × List Char}
    (h : scanSpec cs = .ok parts) : parts.2.length < cs.length := by
  have hle := length_spanSpec_le cs
  unfold scanSpec at h
  split at h
  · simp at h
  · rename_i hs
    simp only [hs, List.length_cons] at hle
    simp only [Except.ok.injEq] at h
    subst h
    exact hle

theorem length_scanPlaceholder {cs : List Char} {parts : Placeholder × List Char}
    (h : scanPlaceholder cs = .ok parts) : parts.2.length < cs.length := by
  have hle := length_spanName_le cs
  have hmap : ∀ (rest : List Char) (f : List Char → Placeholder),
      rest.length < cs.length →
      (scanSpec rest).map (fun parts => (f parts.1, parts.2)) = .ok parts →
      parts.2.length < cs.length := by
    intro rest f hlt hm
    cases hs : scanSpec rest with
    | error e => simp [hs, Except.map] at hm
    | ok v =>
      have := length_scanSpec hs
      simp only [hs, Except.map, Except.ok.injEq] at hm
      subst hm
      simp only
      omega
  simp only [scanPlaceholder] at h
  split at h <;> rename_i hs <;> simp only [hs, List.length_cons, reduceCtorEq] at hle h
  all_goals first
    | exact hmap _ _ (by omega) h
    | (simp only [Except.ok.injEq] at h; subst h; simp only; omega)

theorem length_dropWhile_le (p : Char → Bool) (cs : List Char) :
    (cs.dropWhile p).length ≤ cs.length :=
  (List.dropWhile_sublist p).length_le

/-- The pieces of a template in order, up to the first fault if it has one. -/
def pieces (cs : List Char) : List Piece × Option TemplateError :=
  let text := cs.takeWhile (!isBrace ·)
  match _h : cs.dropWhile (!isBrace ·) with
  | [] => ([.text text], none)
  | [c] => ([], some (if c == '{' then .loneOpen else .loneClose))
  | c :: next :: rest =>
    if c == next then
      let (more, fault) := pieces rest
      (.text (text ++ [c]) :: more, fault)
    else if c == '}' then ([], some .loneClose)
    else match _hs : scanPlaceholder (next :: rest) with
      | .error e => ([], some e)
      | .ok (p, rest) =>
        let (more, fault) := pieces rest
        (.text text :: .placeholder p :: more, fault)
termination_by cs.length
decreasing_by
  · have := length_dropWhile_le (!isBrace ·) cs
    simp only [_h, List.length_cons] at this
    omega
  · have := length_dropWhile_le (!isBrace ·) cs
    have := length_scanPlaceholder _hs
    simp only [_h, List.length_cons] at *
    omega

end Disasm32.Template
