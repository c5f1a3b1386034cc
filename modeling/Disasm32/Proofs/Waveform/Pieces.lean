import Disasm32.Proofs.Waveform.Traces

/-! Traces in pieces. The cache carries the last word from one piece to the next, and the time
starts anew in each, so a dump may be cut before any line that sets the time. -/
namespace Disasm32.Waveform

open Cache

abbrev Outcome := Except TextError (List Entry × Nat) × Cache

def extend (entries : List Entry) (skipped : Nat) (o : Outcome) : Outcome :=
  (o.1.map fun (more, others) => (entries ++ more, skipped + others), o.2)

/-- One trace and then another from the cache that it leaves. A fault of the first ends both. -/
def inTurn (first : Outcome) (second : Cache → Outcome) : Outcome :=
  match first with
  | (.ok (entries, skipped), cache) => extend entries skipped (second cache)
  | (.error e, cache) => (.error e, cache)

variable {c : Cache} {width : Int}

theorem extend_nil (o : Outcome) : extend [] 0 o = o := by
  obtain ⟨found, cache⟩ := o
  cases found <;> simp [extend, Except.map]

theorem extend_extend (xs ys : List Entry) (m n : Nat) (o : Outcome) :
    extend xs m (extend ys n o) = extend (xs ++ ys) (m + n) o := by
  obtain ⟨found, cache⟩ := o
  cases found <;> simp [extend, Except.map, Nat.add_assoc]

theorem inTurn_extend (entries : List Entry) (skipped : Nat) (o : Outcome)
    (next : Cache → Outcome) :
    inTurn (extend entries skipped o) next = extend entries skipped (inTurn o next) := by
  obtain ⟨found, cache⟩ := o
  cases found with
  | error => rfl
  | ok => exact (extend_extend _ _ _ _ _).symm

theorem inTurn_assoc (o : Outcome) (f g : Cache → Outcome) :
    inTurn (inTurn o f) g = inTurn o fun c => inTurn (f c) g := by
  obtain ⟨found, cache⟩ := o
  cases found with
  | error => rfl
  | ok => exact inTurn_extend _ _ _ _

theorem exists_inTurn_iff {o : Outcome} {next : Cache → Outcome} :
    (∃ found, (inTurn o next).1 = .ok found) ↔
      (∃ found, o.1 = .ok found) ∧ ∃ found, (next o.2).1 = .ok found := by
  obtain ⟨found, cache⟩ := o
  cases found with
  | error => simp [inTurn]
  | ok =>
    cases h : (next cache).1 <;> simp [inTurn, extend, Except.map, h]

def Event.clock (time : Int) : Event → Int
  | .time t => t
  | .change _ | .other => time

def record (time : Int) (c : Cache) : Event → Outcome
  | .change value => match binary? value with
    | none => (.ok ([], 1), c)
    | some word => match c.update word with
      | (.error e, next) => (.error e, next)
      | (.ok reply, next) =>
        (.ok (if c.isNew word then [⟨time, Word.low word, reply.result⟩] else [], 0), next)
  | .time _ | .other => (.ok ([], 0), c)

theorem follow_cons (time : Int) (c : Cache) (event : Event) (events : List Event) :
    follow time c (event :: events) =
      inTurn (record time c event) fun next => follow (event.clock time) next events := by
  cases event with
  | time t => exact (extend_nil _).symm
  | other => exact (extend_nil _).symm
  | change value =>
    rw [follow]
    cases binary : binary? value with
    | none => simp only [record, binary, inTurn, extend, List.nil_append, Nat.add_comm, Event.clock]
    | some word =>
      cases updated : c.update word with
      | mk answer next =>
        cases answer with
        | error => simp only [record, binary, updated, inTurn]
        | ok reply =>
          by_cases new : c.isNew word = true
          · simp [record, binary, updated, new, inTurn, extend, Event.clock]
          · simp [record, binary, updated, new, inTurn, extend_nil, Event.clock]

/-- The invariant of a cut: the second piece goes on with the cache and the time that the first
leaves. -/
theorem follow_append (time : Int) (c : Cache) (front back : List Event) :
    follow time c (front ++ back) =
      inTurn (follow time c front) fun next => follow (front.foldl Event.clock time) next back := by
  induction front generalizing time c with
  | nil => exact (extend_nil _).symm
  | cons event front ih =>
    simp only [List.cons_append, follow_cons, ih, inTurn_assoc, List.foldl_cons]

theorem display_record (time : Int) (c : Cache) (event : Event) :
    (record time c event).2.display = c.display := by
  cases event with
  | time t => rfl
  | other => rfl
  | change value =>
    cases binary : binary? value with
    | none => simp only [record, binary]
    | some word =>
      have kept := display_update c word
      cases updated : c.update word with
      | mk answer next =>
        rw [updated] at kept
        cases answer <;> simpa only [record, binary, updated] using kept

theorem exists_record (columns : c.display.mnemonicWidth = .columns width)
    (fits : FitsColumn width) (time : Int) (event : Event) :
    ∃ found, (record time c event).1 = .ok found := by
  cases event with
  | time t => exact ⟨_, rfl⟩
  | other => exact ⟨_, rfl⟩
  | change value =>
    cases binary : binary? value with
    | none => exact ⟨([], 1), by rw [record, binary]⟩
    | some word =>
      obtain ⟨reply, answered⟩ := exists_update columns fits word
      cases updated : c.update word with
      | mk answer next =>
        rw [updated] at answered
        subst answered
        simp only [record, binary, updated]
        exact ⟨_, rfl⟩

theorem exists_follow (columns : c.display.mnemonicWidth = .columns width)
    (fits : FitsColumn width) (time : Int) (events : List Event) :
    ∃ found, (follow time c events).1 = .ok found := by
  induction events generalizing time c with
  | nil => exact ⟨_, rfl⟩
  | cons event events ih =>
    rw [follow_cons, exists_inTurn_iff]
    exact ⟨exists_record columns fits time event, ih (by rwa [display_record]) _⟩

variable {time : Int} {event : Event} {entries : List Entry} {skipped : Nat} {e : Entry}

theorem display_of_mem_record (recorded : (record time c event).1 = .ok (entries, skipped))
    (member : e ∈ entries) : e.result.display = c.display := by
  cases event with
  | time t =>
    cases recorded
    cases member
  | other =>
    cases recorded
    cases member
  | change value =>
    cases binary : binary? value with
    | none =>
      simp only [record, binary] at recorded
      cases recorded
      cases member
    | some word =>
      obtain ⟨known, r, -, kept⟩ | ⟨new, fresh⟩ := update_cases c word
      · simp only [record, binary, kept, known] at recorded
        cases recorded
        cases member
      · rw [update.decodeInto] at fresh
        cases decoded : c.display.decodeWord (Word.low word) with
        | error err =>
          rw [decoded] at fresh
          simp only [record, binary, fresh] at recorded
          cases recorded
        | ok r =>
          rw [decoded] at fresh
          simp only [record, binary, fresh, new] at recorded
          cases recorded
          obtain ⟨text, -, rfl⟩ := Display.decodeWord_eq_ok decoded
          rw [List.mem_singleton.1 member]

/-- Every entry has the display of the cache that the trace began with. -/
theorem display_of_mem_follow {events : List Event}
    (followed : (follow time c events).1 = .ok (entries, skipped)) (member : e ∈ entries) :
    e.result.display = c.display := by
  induction events generalizing time c entries skipped with
  | nil =>
    cases followed
    cases member
  | cons event events ih =>
    have kept := display_record time c event
    rw [follow_cons] at followed
    cases recorded : record time c event with
    | mk found next =>
      rw [recorded] at kept
      rw [recorded] at followed
      cases found with
      | error => cases followed
      | ok found =>
        cases rest : (follow (event.clock time) next events).1 with
        | error =>
          simp only [inTurn, extend, rest] at followed
          cases followed
        | ok others =>
          simp only [inTurn, extend, rest] at followed
          cases followed
          rcases List.mem_append.1 member with here | later
          · exact display_of_mem_record (congrArg Prod.fst recorded) here
          · exact (ih rest later).trans kept

/-- A place where a dump can be cut: its end, or before a line that sets the time. -/
def Seam (lines : List String) (cut : Nat) : Prop :=
  cut = lines.length ∨ ∃ line t, lines[cut]? = some line ∧ stamp? (Text.stripped line) = some t

variable {lines : List String} {cut : Nat}

theorem ofLine_of_stamp {line : List Char} {t : Int} (stamped : stamp? line = some t)
    (identifier : List Char) : Event.ofLine identifier line = .time t := by
  unfold stamp? at stamped
  split at stamped
  · rename_i hash
    obtain ⟨number, rfl⟩ := List.head?_eq_some_iff.1 hash
    rw [List.tail_cons] at stamped
    cases read : Literal.read 10 number with
    | ok n =>
      rw [read] at stamped
      cases stamped
      simp only [Event.ofLine, read]
    | error =>
      rw [read] at stamped
      cases stamped
  · cases stamped

/-- Before a line that sets the time, it does not matter which time it was. -/
theorem follow_drop_of_seam (seam : Seam lines cut) (identifier : List Char) (time time' : Int)
    (c : Cache) :
    follow time c ((lines.drop cut).map fun line => Event.ofLine identifier (Text.stripped line)) =
      follow time' c
        ((lines.drop cut).map fun line => Event.ofLine identifier (Text.stripped line)) := by
  rcases seam with rfl | ⟨line, t, found, stamped⟩
  · rw [List.drop_length]
    rfl
  · obtain ⟨inside, rfl⟩ := List.getElem?_eq_some_iff.1 found
    rw [List.drop_eq_getElem_cons inside, List.map_cons, ofLine_of_stamp stamped]
    rfl

theorem drop_eq_append {start : Nat} (ordered : start ≤ cut) (inside : cut ≤ lines.length) :
    lines.drop start = (lines.take cut).drop start ++ lines.drop cut := by
  conv_lhs => rw [← List.take_append_drop cut lines]
  rw [List.drop_append_of_le_length (by rw [List.length_take]; omega)]

theorem Seam.le (seam : Seam lines cut) : cut ≤ lines.length := by
  rcases seam with rfl | ⟨line, t, found, -⟩
  · exact Nat.le_refl _
  · exact Nat.le_of_lt (List.getElem?_eq_some_iff.1 found).1

/-- A trace from a start on is the trace up to a seam and then the trace of the other lines, with
the cache that the first has left; if the column can be laid out, none of them fails. -/
theorem traceLines_inTurn {d : Display} (columns : d.mnemonicWidth = .columns width)
    (ops : List Op) (identifier : String) {start : Nat} (ordered : start ≤ cut)
    (seam : Seam lines cut) :
    ∃ whole first second, linesFrom lines start = .ok whole ∧
      linesFrom (lines.take cut) start = .ok first ∧ linesFrom lines cut = .ok second ∧
      traceLines whole identifier (after d ops) =
        inTurn (traceLines first identifier (after d ops)) (traceLines second identifier) ∧
      (FitsColumn width →
        ∃ found, (traceLines whole identifier (after d ops)).1 = .ok found) := by
  refine ⟨_, _, _, if_pos (Int.natCast_nonneg start), if_pos (Int.natCast_nonneg start),
    if_pos (Int.natCast_nonneg cut), ?_, fun fits => ?_⟩
  · simp only [Int.toNat_natCast, traceLines, drop_eq_append ordered seam.le, List.map_append,
      follow_append]
    exact congrArg _ (funext fun next => follow_drop_of_seam seam _ _ _ next)
  · exact exists_follow (by rw [display_after, columns]) fits 0 _

/-- The word of the second piece is that of the first, and the first begins with the word that the
cache holds already. -/
theorem traceLines_inTurn_held :
    let d : Display := {}
    let lines := ["b10011 %", "b1110011 %", " #7", "bx %", "b1110011 %", "1%"]
    d.mnemonicWidth = .columns 9 ∧ 0 ≤ 2 ∧ Seam lines 2 ∧
      ∃ whole first second, linesFrom lines 0 = .ok whole ∧
        linesFrom (lines.take 2) 0 = .ok first ∧ linesFrom lines 2 = .ok second ∧
        traceLines whole "%" (after d [.clear, .update 0x13]) =
          inTurn (traceLines first "%" (after d [.clear, .update 0x13])) (traceLines second "%") ∧
        (FitsColumn 9 →
          ∃ found, (traceLines whole "%" (after d [.clear, .update 0x13])).1 = .ok found) :=
  have seam : Seam ["b10011 %", "b1110011 %", " #7", "bx %", "b1110011 %", "1%"] 2 :=
    .inr ⟨" #7", 7, rfl, by decide +kernel⟩
  ⟨rfl, Nat.zero_le 2, seam, traceLines_inTurn rfl _ "%" (Nat.zero_le 2) seam⟩

end Disasm32.Waveform
