import Disasm32.Proofs.Cache.Runs
import Disasm32.Proofs.Waveform.Changes

/-! Traces of a signal. While every word can be written, the cache holds the word of the last
sample, so an entry is made exactly where the word changes; the first sample whose word cannot
be written ends the trace. -/
namespace Disasm32

open Word

namespace Cache

variable {d : Display} {last : Option Int} {w : Int}

theorem isNew_holding (decodes : ∀ v ∈ last, ∃ r, d.decodeWord v = .ok r) :
    (holding d last).isNew w = decide (last.map low ≠ some (low w)) := by
  cases last with
  | none => simp [holding, isNew]
  | some v =>
    obtain ⟨r, decoded⟩ := decodes v rfl
    simp [holding, isNew, decoded, Except.toOption, bne, beq_eq_decide]

end Cache

namespace Waveform

open Cache

variable {d : Display} {last : Option Int} {identifier : List Char} {time : Int}

def events (cs : List Change) : List Event :=
  cs.flatMap fun c => [.time c.time, .change c.value]

theorem follow_events_cons (time : Int) (cache : Cache) (c : Change) (cs : List Change) :
    follow time cache (events (c :: cs)) = follow c.time cache (.change c.value :: events cs) :=
  rfl

theorem follow_events_time (t t' : Int) (cache : Cache) (cs : List Change) :
    follow t cache (events cs) = follow t' cache (events cs) := by
  cases cs <;> rfl

theorem follow_ofLine (named : identifier ≠ []) (time : Int) (cache : Cache)
    (lines : List (List Char)) : follow time cache (lines.map (Event.ofLine identifier)) =
      follow time cache (events (changes identifier time (lines.filter (Tells ·)))) := by
  induction lines generalizing time cache with
  | nil => rfl
  | cons line lines ih =>
    rw [List.map_cons]
    by_cases tells : Tells line
    · rw [List.filter_cons_of_pos (by simpa using tells), changes_cons, ofLine_of_tells named tells]
      cases stamped : stamp? line with
      | some t =>
        rw [value?_of_stamp stamped]
        exact (ih t cache).trans (follow_events_time _ _ _ _)
      | none =>
        cases value? identifier line with
        | none => exact ih time cache
        | some value => simp [follow, ih, events]
    · rw [List.filter_cons_of_neg (by simpa using tells), ofLine_of_not_tells tells]
      exact ih time cache

/-- The entry is for the sample, with the outcome of decoding its word. -/
structure Shows (d : Display) (s : Sample) (e : Entry) : Prop where
  time : e.time = s.time
  word : e.word = s.word
  decoded : d.decodeWord s.word = .ok e.result

def lastWord (last : Option Int) (ss : List Sample) : Option Int :=
  (ss.getLast?.map fun s => (s.word : Int)).or last

theorem follow_undefined {value : List Char} (undefined : word? value = none) (time : Int)
    (cache : Cache) (es : List Event) : follow time cache (.change value :: es) =
      ((follow time cache es).1.map (fun (entries, skipped) => (entries, skipped + 1)),
        (follow time cache es).2) := by
  rw [word?_eq, Option.map_eq_none_iff] at undefined
  rw [follow, undefined]

theorem exists_binary? {value : List Char} {w : Nat} (defined : word? value = some w) :
    ∃ n : Nat, binary? value = some n ∧ low n = w := by
  rw [word?_eq] at defined
  exact Option.map_eq_some_iff.1 defined

theorem follow_sample (decodes : ∀ v ∈ last, ∃ r, d.decodeWord v = .ok r) {value : List Char}
    {w : Nat} (defined : word? value = some w) {r : Decoded} (decoded : d.decodeWord w = .ok r)
    (time : Int) (es : List Event) : follow time (holding d last) (.change value :: es) =
      ((follow time (holding d (some w)) es).1.map fun (entries, skipped) =>
          (if last.map low = some w then entries else ⟨time, w, r⟩ :: entries, skipped),
        (follow time (holding d (some w)) es).2) := by
  obtain ⟨n, binary, rfl⟩ := exists_binary? defined
  rw [Display.decodeWord_low] at decoded
  rw [follow, binary]
  simp only [update_holding decodes decoded, isNew_holding decodes, holding_congr (low_low n)]
  by_cases same : last.map low = some (low n)
  · simp only [same]
    cases (follow time (holding d (some n)) es).1 <;> simp [Except.map]
  · simp [same]

theorem follow_unwritable (decodes : ∀ v ∈ last, ∃ r, d.decodeWord v = .ok r) {value : List Char}
    {w : Nat} (defined : word? value = some w) {err : TextError}
    (failed : d.decodeWord w = .error err) (time : Int) (es : List Event) :
    (follow time (holding d last) (.change value :: es)).1 = .error err := by
  obtain ⟨n, binary, rfl⟩ := exists_binary? defined
  rw [Display.decodeWord_low] at failed
  rw [follow, binary]
  simp only [update_holding_error decodes failed]

theorem lastWord_cons (last : Option Int) (s : Sample) (ss : List Sample) :
    lastWord last (s :: ss) = lastWord (some s.word) ss := by
  cases h : ss.getLast? <;> simp [lastWord, List.getLast?_cons, h]

theorem decodes_some {w : Nat} {r : Decoded} (decoded : d.decodeWord w = .ok r) :
    ∀ v ∈ some (w : Int), ∃ r, d.decodeWord v = .ok r := by
  rintro v ⟨⟩
  exact ⟨r, decoded⟩

theorem low_word {value : List Char} {w : Nat} (defined : word? value = some w) :
    low (w : Int) = w := by
  obtain ⟨n, -, rfl⟩ := exists_binary? defined
  exact low_low n

/-- The invariant of a trace in which each word has a text: the cache holds the word of the last
sample, and what is recorded are the fresh samples. -/
theorem follow_events {cs : List Change} (decodes : ∀ v ∈ last, ∃ r, d.decodeWord v = .ok r)
    (writable : ∀ s ∈ samples cs, ∃ r, d.decodeWord s.word = .ok r) (time : Int) :
    ∃ entries, follow time (holding d last) (events cs) =
        (.ok (entries, undefined cs), holding d (lastWord last (samples cs))) ∧
      List.Forall₂ (Shows d) (fresh (last.map low) (samples cs)) entries := by
  induction cs generalizing last time with
  | nil => exact ⟨[], rfl, .nil⟩
  | cons c cs ih =>
    rw [follow_events_cons]
    cases defined : word? c.value with
    | none =>
      rw [samples_cons_of_none defined] at writable ⊢
      obtain ⟨entries, rest, shown⟩ := ih decodes writable c.time
      refine ⟨entries, ?_, shown⟩
      rw [follow_undefined defined, rest, undefined_cons_of_none defined]
      rfl
    | some w =>
      rw [samples_cons_of_some defined, List.forall_mem_cons] at writable
      obtain ⟨⟨r, decoded⟩, writable⟩ := writable
      obtain ⟨entries, rest, shown⟩ := ih (decodes_some decoded) writable c.time
      rw [Option.map_some, low_word defined] at shown
      rw [follow_sample decodes defined decoded, rest, samples_cons_of_some defined,
        undefined_cons_of_some defined, lastWord_cons, fresh_cons]
      refine ⟨_, rfl, ?_⟩
      -- The cache finds the word new exactly where it differs from the sample before.
      split
      · exact shown
      · exact .cons ⟨rfl, rfl, decoded⟩ shown

/-- The first word without a text ends the trace. -/
theorem follow_events_error {cs : List Change} {err : TextError}
    (decodes : ∀ v ∈ last, ∃ r, d.decodeWord v = .ok r)
    (failing : ∀ w : Nat, (∃ r, d.decodeWord w = .ok r) ∨ d.decodeWord w = .error err)
    (unwritable : ∃ s ∈ samples cs, d.decodeWord s.word = .error err) (time : Int) :
    (follow time (holding d last) (events cs)).1 = .error err := by
  induction cs generalizing last time with
  | nil =>
    obtain ⟨s, member, -⟩ := unwritable
    cases member
  | cons c cs ih =>
    rw [follow_events_cons]
    cases defined : word? c.value with
    | none =>
      rw [samples_cons_of_none defined] at unwritable
      rw [follow_undefined defined, ih decodes unwritable]
      rfl
    | some w =>
      rcases failing w with ⟨r, decoded⟩ | failed
      · have later : ∃ s ∈ samples cs, d.decodeWord s.word = .error err := by
          obtain ⟨s, member, failed⟩ := unwritable
          rw [samples_cons_of_some defined, List.mem_cons] at member
          rcases member with rfl | member
          · cases decoded.symm.trans failed
          · exact ⟨s, member, failed⟩
        rw [follow_sample decodes defined decoded, ih (decodes_some decoded) later]
        rfl
      · exact follow_unwritable decodes defined failed c.time _

def signalChanges (identifier : String) (lines : List String) : List Change :=
  changes identifier.toList 0 (told lines)

/-- A trace records the changes: it counts those without a word, and among the others it has an
entry for each to another word than the one before. -/
structure Records (d : Display) (cs : List Change) (entries : List Entry) (skipped : Nat) :
    Prop where
  skipped : skipped = undefined cs
  shown : List.Forall₂ (Shows d) (fresh none (samples cs)) entries
  adjacent : entries.IsChain (·.word ≠ ·.word)

theorem map_word_of_shown {ss : List Sample} {entries : List Entry}
    (shown : List.Forall₂ (Shows d) ss entries) : entries.map (·.word) = ss.map (·.word) := by
  induction shown with
  | nil => rfl
  | cons shows _ ih => rw [List.map_cons, List.map_cons, shows.word, ih]

theorem records_of_shown {cs : List Change} {entries : List Entry}
    (shown : List.Forall₂ (Shows d) (fresh none (samples cs)) entries) :
    Records d cs entries (undefined cs) := by
  have words : ((fresh none (samples cs)).map (·.word)).IsChain (· ≠ ·) :=
    (List.isChain_map _).2 (isChain_fresh none (samples cs)).2
  rw [← map_word_of_shown shown] at words
  exact ⟨rfl, shown, (List.isChain_map _).1 words⟩

theorem traceLines_eq_follow {identifier : String} (named : identifier ≠ "") (d : Display)
    (lines : List String) : traceLines lines identifier { display := d } =
      follow 0 (holding d none) (events (signalChanges identifier lines)) := by
  have filled : identifier.toList ≠ [] := by simpa using named
  rw [signalChanges, told, ← follow_ofLine filled, List.map_map]
  rfl

/-- Every value change is traced as it should be exactly if the column can be laid out or no word
of the signal needs it; otherwise the first word that does ends the trace with the fault. -/
theorem traceLines_iff {width : Int} (columns : d.mnemonicWidth = .columns width)
    {identifier : String} (named : identifier ≠ "") (lines : List String) (start : Nat) :
    ∃ rest, linesFrom lines start = .ok rest ∧
      ((∃ entries skipped,
          (traceLines rest identifier { display := d }).1 = .ok (entries, skipped) ∧
            Records d (signalChanges identifier (lines.drop start)) entries skipped) ↔
        FitsColumn width ∨
          ∀ s ∈ samples (signalChanges identifier (lines.drop start)), Bare s.word) ∧
      (¬FitsColumn width →
        (∃ s ∈ samples (signalChanges identifier (lines.drop start)), ¬Bare s.word) →
          (traceLines rest identifier { display := d }).1 = .error .columnBeyondIndex) := by
  refine ⟨lines.drop start, if_pos (Int.natCast_nonneg start), ?_⟩
  rw [traceLines_eq_follow named]
  have unheld : ∀ v ∈ (none : Option Int), ∃ r, d.decodeWord v = .ok r := by simp
  have ends : ¬FitsColumn width →
      (∃ s ∈ samples (signalChanges identifier (lines.drop start)), ¬Bare s.word) →
        (follow 0 (holding d none) (events (signalChanges identifier (lines.drop start)))).1 =
          .error .columnBeyondIndex := by
    rintro bad ⟨s, member, operate⟩
    refine follow_events_error unheld (fun w => ?_)
      ⟨s, member, Display.decodeWord_error columns bad operate⟩ 0
    by_cases bare : Bare w
    · exact .inl ((Display.exists_decodeWord_iff columns).2 (.inr bare))
    · exact .inr (Display.decodeWord_error columns bad bare)
  refine ⟨⟨?_, fun fits => ?_⟩, ends⟩
  · rintro ⟨entries, skipped, answer, -⟩
    refine or_iff_not_imp_left.2 fun bad s member => Classical.byContradiction fun operate => ?_
    rw [ends bad ⟨s, member, operate⟩] at answer
    cases answer
  · have writable : ∀ s ∈ samples (signalChanges identifier (lines.drop start)),
        ∃ r, d.decodeWord s.word = .ok r := fun s member =>
      (Display.exists_decodeWord_iff columns).2 (fits.imp_right fun bare => bare s member)
    obtain ⟨entries, run, shown⟩ := follow_events unheld writable 0
    exact ⟨entries, _, by rw [run], records_of_shown shown⟩

/-- A trace with a wide value, undefined bits between equal words, an unreadable time and a value
before the start. -/
theorem traceLines_wide :
    let d : Display := {}
    let lines := ["b0 %", "$dumpvars", "#5", "b100000000000000000000000001110011 %", "#x", "bx1 %",
      "b1110011 %", "b1 &", "#7", "1%", ""]
    let cs := signalChanges "%" (lines.drop 1)
    d.mnemonicWidth = .columns 9 ∧ "%" ≠ "" ∧ samples cs = [⟨5, 0x73⟩, ⟨5, 0x73⟩, ⟨7, 1⟩] ∧
      ∃ rest entries skipped, linesFrom lines 1 = .ok rest ∧
        (traceLines rest "%" { display := d }).1 = .ok (entries, skipped) ∧
        Records d cs entries skipped ∧ entries.map (·.word) = [0x73, 1] ∧ skipped = 1 := by
  intro d lines cs
  have named : "%" ≠ "" := by decide
  have sampled : samples cs = [⟨5, 0x73⟩, ⟨5, 0x73⟩, ⟨7, 1⟩] := by decide +kernel
  have dropped : undefined cs = 1 := by decide +kernel
  obtain ⟨rest, chosen, traced, -⟩ := traceLines_iff (d := d) rfl named lines 1
  obtain ⟨entries, skipped, answer, records⟩ := traced.2 (.inl (by decide))
  refine ⟨rfl, named, sampled, rest, entries, skipped, chosen, answer, records, ?_,
    records.skipped.trans dropped⟩
  rw [map_word_of_shown records.shown, sampled]
  rfl

/-- In a column that begins too far to the left, an addition ends the trace. -/
theorem not_records_leftmost :
    let d : Display := { mnemonicWidth := .columns (-0x8000000000000000) }
    samples (signalChanges "!" ["b10011 !"]) = [⟨0, 0x13⟩] ∧
      ¬∃ entries skipped,
        (traceLines ["b10011 !"] "!" { display := d }).1 = .ok (entries, skipped) ∧
          Records d (signalChanges "!" ["b10011 !"]) entries skipped := by
  intro d
  refine ⟨by decide +kernel, ?_⟩
  have failed : (traceLines ["b10011 !"] "!" { display := d }).1 = .error .columnBeyondIndex := by
    decide +kernel
  rintro ⟨entries, skipped, answer, -⟩
  cases failed.symm.trans answer

end Waveform

end Disasm32
