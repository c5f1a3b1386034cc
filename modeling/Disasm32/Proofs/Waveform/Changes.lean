import Disasm32.Proofs.Text.Tokens
import Disasm32.Proofs.Word.Fields
import Disasm32.Waveform.Trace
import Mathlib.Data.List.Chain

/-! What the lines of a dump say about a signal: the value changes, each with the last time set
before it, and among those with a defined value the ones to another word than before. The events
that a trace follows say the same. -/
namespace Disasm32.Waveform

open Text

def Tells (line : List Char) : Prop := line ≠ [] ∧ line.head? ≠ some '$'

instance (line : List Char) : Decidable (Tells line) := inferInstanceAs (Decidable (_ ∧ _))

def told (lines : List String) : List (List Char) := (lines.map stripped).filter (Tells ·)

def stamp? (line : List Char) : Option Int :=
  if line.head? = some '#' then (Literal.read 10 line.tail).toOption else none

/-- The value that a line gives a signal: after a `b`, before the identifier as a second word, or
one character directly before the identifier. -/
def value? (identifier line : List Char) : Option (List Char) :=
  if line.head? = some 'b' ∨ line.head? = some 'B' then
    if (words line)[1]? = some identifier then (words line)[0]?.map List.tail else none
  else if line.head? = some '#' ∨ line.head? = some 'r' ∨ line.head? = some 'R' then none
  else if line.tail = identifier then some (line.take 1)
  else none

def clock (time : Int) (lines : List (List Char)) : Int :=
  ((lines.filterMap stamp?).getLast?).getD time

def word? (value : List Char) : Option Nat :=
  if value ≠ [] ∧ value.all fun c => c = '0' ∨ c = '1' then
    some (Digits.value 2 (value.map fun c => c.toNat - '0'.toNat) % 0x100000000)
  else none

structure Change where
  time : Int
  value : List Char
  deriving DecidableEq, Repr

structure Sample where
  time : Int
  word : Nat
  deriving DecidableEq, Repr

/-- The changes of a signal from a time on, each with the time that the lines before it set. -/
def changes (identifier : List Char) (time : Int) (lines : List (List Char)) : List Change :=
  lines.zipIdx.filterMap fun (line, i) =>
    (value? identifier line).map fun value => ⟨clock time (lines.take i), value⟩

def samples (cs : List Change) : List Sample :=
  cs.filterMap fun c => (word? c.value).map fun word => ⟨c.time, word⟩

def undefined (cs : List Change) : Nat := cs.countP fun c => word? c.value = none

/-- The samples with another word than the one just before; `before` is the word before all. -/
def fresh (before : Option Nat) (ss : List Sample) : List Sample :=
  ((before :: ss.map fun s => some s.word).zip ss).filterMap fun (word, s) =>
    if word = some s.word then none else some s

variable {identifier line value : List Char} {lines : List (List Char)} {time : Int}

theorem clock_cons (time : Int) (line : List Char) (lines : List (List Char)) :
    clock time (line :: lines) = clock ((stamp? line).getD time) lines := by
  cases stamped : stamp? line with
  | none => simp [clock, stamped]
  | some t =>
    cases rest : lines.filterMap stamp? <;> simp [clock, stamped, rest, List.getLast?_cons]

theorem changes_cons (identifier : List Char) (time : Int) (line : List Char)
    (lines : List (List Char)) : changes identifier time (line :: lines) =
      ((value? identifier line).map fun value => ⟨time, value⟩).toList ++
        changes identifier ((stamp? line).getD time) lines := by
  have rest : (lines.zipIdx.map (Prod.map id (· + 1))).filterMap (fun (l, i) =>
      (value? identifier l).map fun value =>
        (⟨clock time ((line :: lines).take i), value⟩ : Change)) =
      changes identifier ((stamp? line).getD time) lines := by
    simp only [List.filterMap_map, Function.comp_def, Prod.map, List.take_succ_cons, clock_cons,
      id_eq, changes]
  rw [changes, List.zipIdx_cons', List.filterMap_cons, rest]
  cases given : value? identifier line <;> simp [given, clock]

variable {c : Change} {cs : List Change}

theorem samples_cons_of_none (bad : word? c.value = none) : samples (c :: cs) = samples cs := by
  simp [samples, bad]

theorem samples_cons_of_some {w : Nat} (defined : word? c.value = some w) :
    samples (c :: cs) = ⟨c.time, w⟩ :: samples cs := by
  simp [samples, defined]

theorem undefined_cons_of_none (bad : word? c.value = none) :
    undefined (c :: cs) = undefined cs + 1 := by
  simp [undefined, bad]

theorem undefined_cons_of_some {w : Nat} (defined : word? c.value = some w) :
    undefined (c :: cs) = undefined cs := by
  simp [undefined, defined]

theorem fresh_cons (before : Option Nat) (s : Sample) (ss : List Sample) :
    fresh before (s :: ss) =
      if before = some s.word then fresh (some s.word) ss else s :: fresh (some s.word) ss := by
  by_cases same : before = some s.word <;> simp [fresh, same]

theorem isChain_fresh (before : Option Nat) (ss : List Sample) :
    (∀ s ∈ (fresh before ss).head?, before ≠ some s.word) ∧
      (fresh before ss).IsChain (·.word ≠ ·.word) := by
  induction ss generalizing before with
  | nil => simp [fresh]
  | cons s ss ih =>
    obtain ⟨first, chain⟩ := ih (some s.word)
    rw [fresh_cons]
    split
    · rename_i same
      rw [same]
      exact ⟨first, chain⟩
    · rename_i new
      refine ⟨?_, List.isChain_cons.2 ⟨fun t next same => first t next (congrArg some same), chain⟩⟩
      rintro t ⟨⟩
      exact new

theorem word?_eq (value : List Char) :
    word? value = (binary? value).map fun n : Nat => Word.low n := by
  have low (n : Nat) : Word.low (n : Int) = n % 0x100000000 := by
    unfold Word.low
    omega
  by_cases defined : value ≠ [] ∧ value.all fun c => c = '0' ∨ c = '1'
  · have binary : ∀ c ∈ value, c = '0' ∨ c = '1' := by simpa using defined.2
    have bits : value.map (fun c => c.toNat - '0'.toNat) =
        value.map fun c => if c = '1' then 1 else 0 := by
      refine List.map_congr_left fun c member => ?_
      rcases binary c member with rfl | rfl <;> rfl
    have plain : ¬((value.isEmpty || value.any fun c => c != '0' && c != '1') = true) := by
      simpa [imp_iff_not_or] using defined
    rw [word?, if_pos defined, binary?, if_neg plain, bits, Option.map_some, low]
  · have flawed : (value.isEmpty || value.any fun c => c != '0' && c != '1') = true := by
      rw [← Bool.not_eq_false]
      intro plain
      exact defined (by simpa [imp_iff_not_or] using plain)
    rw [word?, if_neg defined, binary?, if_pos flawed]
    rfl

theorem value?_of_stamp {t : Int} (stamped : stamp? line = some t) :
    value? identifier line = none := by
  have hash : line.head? = some '#' := by
    by_contra plain
    rw [stamp?, if_neg plain] at stamped
    cases stamped
  simp [value?, hash]

theorem ofLine_of_not_tells (silent : ¬Tells line) : Event.ofLine identifier line = .other := by
  cases line with
  | nil => rfl
  | cons c cs =>
    have command : c = '$' := by simpa [Tells] using silent
    subst command
    rfl

theorem ofLine_of_tells (named : identifier ≠ []) (tells : Tells line) :
    Event.ofLine identifier line =
      match stamp? line with
      | some t => .time t
      | none => match value? identifier line with
        | some value => .change value
        | none => .other := by
  unfold Event.ofLine
  split
  · exact absurd rfl tells.1
  · exact absurd rfl tells.2
  · rename_i number
    have stamped : stamp? ('#' :: number) = (Literal.read 10 number).toOption := rfl
    rw [stamped]
    cases Literal.read 10 number <;> rfl
  · rename_i c cs noDollar noHash
    have plain : c ≠ '#' := noHash
    have unstamped : stamp? (c :: cs) = none := if_neg (by simpa using plain)
    rw [unstamped]
    by_cases vector : c = 'b' ∨ c = 'B'
    · simp only [if_pos vector, value?, List.head?_cons, Option.some.injEq]
      rcases words (c :: cs) with _ | ⟨value, _ | ⟨name, more⟩⟩
      · simp
      · simp
      · by_cases same : name = identifier <;> simp [same]
    · simp only [if_neg vector, value?, List.head?_cons, Option.some.injEq, plain, false_or]
      by_cases real : c = 'r' ∨ c = 'R'
      · simp [real]
      · by_cases same : cs = identifier
        · subst same
          simp [real, named]
        · simp [real, same]

end Disasm32.Waveform
