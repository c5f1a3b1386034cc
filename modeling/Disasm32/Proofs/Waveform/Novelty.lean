import Disasm32.Proofs.Waveform.Pieces
import Disasm32.Proofs.Word.Congruence

/-! What is new to a trace and what is new to the cache. The trace tests each word before it asks
the cache, and the cache tests it again; both tests agree in every state, so a trace is what the
cache answers by itself, with an entry for each word that it decodes. -/
namespace Disasm32

open Word

namespace Cache

variable {c next : Cache} {reply : Reply} {w : Int}

/-- What an answer says: a stored outcome leaves the cache alone, and any other is that of decoding
the word now; the cache holds it either way. -/
structure Answers (c : Cache) (w : Int) (reply : Reply) (next : Cache) : Prop where
  reused : reply.reused = true ↔ c.isNew w = false
  stored : reply.reused = true → next = c
  decoded : reply.reused = false → c.display.decodeWord w = .ok reply.result
  result : next.result = some reply.result
  word : next.word = some (low w)

theorem answers_of_update (answered : c.update w = (.ok reply, next)) : Answers c w reply next := by
  obtain ⟨known, r, held, kept⟩ | ⟨new, fresh⟩ := update_cases c w
  · cases answered.symm.trans kept
    have same : c.word = some (low w) := by simpa [isNew, held] using known
    exact ⟨by simp [known], fun _ => rfl, by rintro ⟨⟩, held, same⟩
  · rw [update.decodeInto, Display.decodeWord_low] at fresh
    cases decoded : c.display.decodeWord w with
    | error e =>
      rw [decoded] at fresh
      cases answered.symm.trans fresh
    | ok r =>
      rw [decoded] at fresh
      cases answered.symm.trans fresh
      exact ⟨by simp [new], by rintro ⟨⟩, fun _ => decoded, rfl, rfl⟩

/-- After any operations, also such that failed, a word without an outcome is one that cannot be
written. -/
theorem not_decodes_of_unheld {d : Display} {ops : List Op} {n : Nat}
    (word : (after d ops).word = some n) (unheld : (after d ops).result = none) (r : Decoded) :
    d.decodeWord n ≠ .ok r := by
  induction ops using List.reverseRecOn with
  | nil => cases word
  | append_singleton ops op ih =>
    rw [after_append_singleton] at word unheld
    cases op with
    | clear => cases word
    | update w =>
      rw [Op.apply] at word unheld
      obtain ⟨-, r, -, kept⟩ | ⟨-, fresh⟩ := update_cases (after d ops) w
      · rw [kept] at word unheld
        exact ih word unheld
      · rw [update.decodeInto, display_after] at fresh
        cases decoded : d.decodeWord (low w) with
        | ok r =>
          rw [fresh, decoded] at unheld
          cases unheld
        | error e =>
          rw [fresh, decoded] at word
          cases word
          rw [decoded]
          rintro ⟨⟩

end Cache

namespace Waveform

open Cache

/-- A word of a trace, the answer of the cache, and the cache before and then. -/
structure Lookup where
  before : Cache
  sample : Sample
  reply : Reply
  next : Cache

/-- The entry for a word that was decoded; a stored outcome gives none. -/
def Lookup.entry? (l : Lookup) : Option Entry :=
  if l.reply.reused then none else some ⟨l.sample.time, l.sample.word, l.reply.result⟩

/-- A cache that is asked for one sample after the other, up to the first that fails. -/
def consult (c : Cache) : List Sample → Except TextError (List Lookup) × Cache
  | [] => (.ok [], c)
  | s :: ss => match c.update s.word with
    | (.error e, next) => (.error e, next)
    | (.ok reply, next) =>
      let (found, last) := consult next ss
      (found.map (⟨c, s, reply, next⟩ :: ·), last)

def recorded (skipped : Nat) (o : Except TextError (List Lookup) × Cache) : Outcome :=
  (o.1.map fun lookups => (lookups.filterMap Lookup.entry?, skipped), o.2)

/-- The changes of a signal. No signal has an empty identifier. -/
def observed (identifier : String) (lines : List String) : List Change :=
  if identifier = "" then [] else signalChanges identifier lines

/-- The entries are those of the words that the cache decodes, with the outcome that it holds then.
A first word that it holds from before gives none. -/
structure Concurs (d : Display) (c : Cache) (ss : List Sample) (lookups : List Lookup)
    (entries : List Entry) : Prop where
  asked : lookups.map (·.sample) = ss
  shown : entries = lookups.filterMap Lookup.entry?
  count : entries.length = lookups.countP (!·.reply.reused)
  decoded : ∀ l ∈ lookups, l.reply.reused = false → d.decodeWord l.sample.word = .ok l.reply.result
  stored : ∀ l ∈ lookups, l.reply.reused = true → l.next = l.before
  held : ∀ l ∈ lookups, l.next.word = some l.sample.word ∧ l.next.result = some l.reply.result
  known : ∀ s ∈ ss.head?, c.word = some s.word → ∀ l ∈ lookups.head?, l.reply.reused = true

variable {c : Cache} {s : Sample} {ss : List Sample} {lookups : List Lookup}

theorem consult_cons_eq_ok (found : (consult c (s :: ss)).1 = .ok lookups) :
    ∃ reply next rest, c.update s.word = (.ok reply, next) ∧ (consult next ss).1 = .ok rest ∧
      lookups = ⟨c, s, reply, next⟩ :: rest := by
  rw [consult] at found
  cases answered : c.update s.word with
  | mk answer next =>
    rw [answered] at found
    cases answer with
    | error e => cases found
    | ok reply =>
      cases later : (consult next ss).1 with
      | error e =>
        simp only [later] at found
        cases found
      | ok rest =>
        simp only [later] at found
        cases found
        exact ⟨reply, next, rest, rfl, later, rfl⟩

theorem map_sample_consult (found : (consult c ss).1 = .ok lookups) :
    lookups.map (·.sample) = ss := by
  induction ss generalizing c lookups with
  | nil =>
    cases found
    rfl
  | cons s ss ih =>
    obtain ⟨reply, next, rest, -, later, rfl⟩ := consult_cons_eq_ok found
    rw [List.map_cons, ih later]

theorem answers_of_mem_consult (found : (consult c ss).1 = .ok lookups) {l : Lookup}
    (member : l ∈ lookups) :
    l.before.display = c.display ∧ Answers l.before l.sample.word l.reply l.next := by
  induction ss generalizing c lookups with
  | nil =>
    cases found
    cases member
  | cons s ss ih =>
    obtain ⟨reply, next, rest, answered, later, rfl⟩ := consult_cons_eq_ok found
    rcases List.mem_cons.1 member with rfl | behind
    · exact ⟨rfl, answers_of_update answered⟩
    · obtain ⟨same, answers⟩ := ih later behind
      have kept := display_update c s.word
      rw [answered] at kept
      exact ⟨same.trans kept, answers⟩

/-- A word that the cache holds from operations before is not decoded again. -/
theorem reused_of_held {d : Display} {ops : List Op} {reply : Reply} {next : Cache} {w : Nat}
    (held : (after d ops).word = some w) (whole : low (w : Int) = w)
    (answered : (after d ops).update w = (.ok reply, next)) : reply.reused = true := by
  have answers := answers_of_update answered
  cases fresh : reply.reused with
  | true => rfl
  | false =>
    have decoded := answers.decoded fresh
    rw [display_after] at decoded
    cases stored : (after d ops).result with
    | none => exact absurd decoded (not_decodes_of_unheld held stored _)
    | some r =>
      have known : (after d ops).isNew w = false := by simp [isNew, stored, held, whole]
      rw [← fresh, answers.reused.2 known]

theorem exists_consult {width : Int} (columns : c.display.mnemonicWidth = .columns width)
    (fits : FitsColumn width) (ss : List Sample) :
    ∃ lookups, (consult c ss).1 = .ok lookups := by
  induction ss generalizing c with
  | nil => exact ⟨[], rfl⟩
  | cons s ss ih =>
    obtain ⟨reply, answered⟩ := exists_update columns fits s.word
    have kept := display_update c s.word
    rw [consult]
    cases updated : c.update s.word with
    | mk answer next =>
      rw [updated] at answered kept
      obtain ⟨rest, later⟩ := ih (c := next) (by rwa [kept])
      subst answered
      exact ⟨_, by simp only [later]; rfl⟩

theorem length_filterMap_entry? (lookups : List Lookup) :
    (lookups.filterMap Lookup.entry?).length = lookups.countP (!·.reply.reused) := by
  induction lookups with
  | nil => rfl
  | cons l lookups ih => cases reused : l.reply.reused <;> simp [Lookup.entry?, reused, ih]

theorem concurs_consult {d : Display} {ops : List Op} (whole : ∀ s ∈ ss, low (s.word : Int) = s.word)
    (found : (consult (after d ops) ss).1 = .ok lookups) :
    Concurs d (after d ops) ss lookups (lookups.filterMap Lookup.entry?) where
  asked := map_sample_consult found
  shown := rfl
  count := length_filterMap_entry? lookups
  decoded l member fresh := by
    obtain ⟨same, answers⟩ := answers_of_mem_consult found member
    rw [← answers.decoded fresh, same, display_after]
  stored l member := (answers_of_mem_consult found member).2.stored
  held l member := by
    have answers := (answers_of_mem_consult found member).2
    have asked : l.sample ∈ ss := map_sample_consult found ▸ List.mem_map_of_mem member
    exact ⟨by rw [answers.word, whole _ asked], answers.result⟩
  known s first held l head := by
    cases ss with
    | nil => cases first
    | cons s' ss =>
      cases first
      obtain ⟨reply, next, rest, answered, -, rfl⟩ := consult_cons_eq_ok found
      cases head
      exact reused_of_held held (whole s List.mem_cons_self) answered

theorem follow_change {value : List Char} {w : Nat} (defined : word? value = some w)
    (time : Int) (c : Cache) (es : List Event) :
    follow time c (.change value :: es) =
      match c.update w with
      | (.error e, next) => (.error e, next)
      | (.ok reply, next) =>
        extend (if reply.reused then [] else [⟨time, w, reply.result⟩]) 0 (follow time next es) := by
  obtain ⟨n, binary, rfl⟩ := exists_binary? defined
  rw [follow_cons, record, binary, c.update_congr (low_low n)]
  cases answered : c.update n with
  | mk answer next =>
    cases answer with
    | error e => simp [answered, inTurn]
    | ok reply =>
      -- The two tests of novelty agree.
      have agree := (answers_of_update answered).reused
      cases new : c.isNew n <;> simp [answered, inTurn, new, agree, Event.clock]

theorem follow_events_eq_recorded (time : Int) (c : Cache) (cs : List Change) :
    follow time c (events cs) = recorded (undefined cs) (consult c (samples cs)) := by
  induction cs generalizing time c with
  | nil => rfl
  | cons change cs ih =>
    rw [follow_events_cons]
    cases defined : word? change.value with
    | none =>
      rw [follow_undefined defined, ih, samples_cons_of_none defined,
        undefined_cons_of_none defined]
      cases found : (consult c (samples cs)).1 <;> simp [recorded, found, Except.map]
    | some w =>
      rw [follow_change defined, samples_cons_of_some defined, undefined_cons_of_some defined,
        consult]
      cases answered : c.update w with
      | mk answer next =>
        cases answer with
        | error e => rfl
        | ok reply =>
          cases found : (consult next (samples cs)).1 <;> cases reused : reply.reused <;>
            simp [ih, recorded, found, extend, Except.map, Lookup.entry?, reused]

theorem ofLine_nil (line : List Char) :
    Event.ofLine [] line = .other ∨ ∃ t, Event.ofLine [] line = .time t := by
  unfold Event.ofLine
  split
  · exact .inl rfl
  · exact .inl rfl
  · rename_i number
    cases Literal.read 10 number with
    | ok t => exact .inr ⟨t, rfl⟩
    | error e => exact .inl rfl
  · rename_i c cs _ _
    left
    split
    · split
      · rename_i value name more spelled
        have listed : name ∈ Text.words (c :: cs) := by simp [spelled]
        exact if_neg (Text.ne_nil_of_mem_words listed)
      · rfl
    · split
      · rfl
      · exact if_neg fun named => named.1 named.2

theorem follow_unnamed (time : Int) (c : Cache) (lines : List (List Char)) :
    follow time c (lines.map (Event.ofLine [])) = (.ok ([], 0), c) := by
  induction lines generalizing time with
  | nil => rfl
  | cons line lines ih =>
    rw [List.map_cons]
    obtain silent | ⟨t, stamp⟩ := ofLine_nil line
    · rw [silent]
      exact ih time
    · rw [stamp]
      exact ih t

theorem traceLines_eq_recorded (lines : List String) (identifier : String) (c : Cache) :
    traceLines lines identifier c =
      recorded (undefined (observed identifier lines))
        (consult c (samples (observed identifier lines))) := by
  have stripped : (lines.map fun line => Event.ofLine identifier.toList (Text.strip line.toList)) =
      (lines.map Text.stripped).map (Event.ofLine identifier.toList) := by
    rw [List.map_map]
    rfl
  rw [traceLines, stripped, observed]
  split
  · rename_i empty
    rw [empty]
    exact follow_unnamed 0 c _
  · rename_i named
    rw [follow_ofLine (by simpa using named)]
    exact follow_events_eq_recorded 0 c _

theorem low_of_mem_samples {cs : List Change} (member : s ∈ samples cs) :
    low (s.word : Int) = s.word := by
  obtain ⟨change, -, given⟩ := List.mem_filterMap.1 member
  obtain ⟨w, defined, rfl⟩ := Option.map_eq_some_iff.1 given
  exact low_word defined

/-- A trace from any state of the cache and any start is what the cache does with the words of the
signal by itself: the entries are the words that it decodes, and a word that it cannot decode ends
both. If the column can be laid out there is no such word. -/
theorem traceLines_concurs {d : Display} {width : Int} (columns : d.mnemonicWidth = .columns width)
    (ops : List Op) (identifier : String) (lines : List String) (start : Int) :
    ∀ rest, linesFrom lines start = .ok rest →
      let c := after d ops
      let cs := observed identifier rest
      traceLines rest identifier c = recorded (undefined cs) (consult c (samples cs)) ∧
        (∀ entries skipped, (traceLines rest identifier c).1 = .ok (entries, skipped) →
          ∃ lookups, (consult c (samples cs)).1 = .ok lookups ∧
            Concurs d c (samples cs) lookups entries) ∧
        (FitsColumn width →
          ∃ entries skipped, (traceLines rest identifier c).1 = .ok (entries, skipped)) := by
  intro rest _ c cs
  have same : traceLines rest identifier c = recorded (undefined cs) (consult c (samples cs)) :=
    traceLines_eq_recorded rest identifier c
  refine ⟨same, fun entries skipped traced => ?_, fun fits => ?_⟩
  · rw [same, recorded] at traced
    cases found : (consult c (samples cs)).1 with
    | error e =>
      rw [found] at traced
      cases traced
    | ok lookups =>
      rw [found] at traced
      cases traced
      exact ⟨lookups, rfl, concurs_consult (fun _ => low_of_mem_samples) found⟩
  · have laid : c.display.mnemonicWidth = .columns width := by rw [display_after, columns]
    obtain ⟨lookups, found⟩ := exists_consult laid fits (samples cs)
    rw [same, recorded, found]
    exact ⟨_, _, rfl⟩

/-- The lines from the last but one on, and then all once more; the cache holds the word of the
first of them, and the others hold words that differ above the lower bits only. -/
theorem traceLines_concurs_held :
    let d : Display := {}
    let lines := ["b10011 %", "b100000000000000000000000000010011 %", "bx %", "b1110011 %", "1%"]
    let rest := ["b1110011 %", "1%"] ++ lines
    let c := after d [.update 0x13, .clear, .update 0x73]
    let cs := observed "%" rest
    d.mnemonicWidth = .columns 9 ∧ linesFrom lines (-2) = .ok rest ∧
      samples cs = [⟨0, 0x73⟩, ⟨0, 1⟩, ⟨0, 0x13⟩, ⟨0, 0x13⟩, ⟨0, 0x73⟩, ⟨0, 1⟩] ∧
      ∃ entries skipped lookups, (traceLines rest "%" c).1 = .ok (entries, skipped) ∧
        (consult c (samples cs)).1 = .ok lookups ∧ Concurs d c (samples cs) lookups entries := by
  intro d lines rest c cs
  have chosen : linesFrom lines (-2) = .ok rest := by decide +kernel
  obtain ⟨-, concurs, traced⟩ :=
    traceLines_concurs (d := d) rfl [.update 0x13, .clear, .update 0x73] "%" lines (-2) rest chosen
  obtain ⟨entries, skipped, traced⟩ := traced (by decide)
  obtain ⟨lookups, found, agree⟩ := concurs entries skipped traced
  exact ⟨rfl, chosen, by decide +kernel, entries, skipped, lookups, traced, found, agree⟩

end Waveform

end Disasm32
