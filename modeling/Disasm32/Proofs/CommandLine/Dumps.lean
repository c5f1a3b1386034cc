import Disasm32.Host.Usual
import Disasm32.Proofs.CommandLine.Requests
import Disasm32.Proofs.CommandLine.Shown
import Disasm32.Proofs.Text.Numerals
import Disasm32.Proofs.Waveform.Pieces
import Disasm32.Proofs.Waveform.Steps

/-! The report on a dump. It does not begin like a help page, and without remarks it does not begin
like one with remarks. Its exit code is at most 1, and 0 where the signal is found. In the usual
display every value change can be reported, so only a header that cannot be read keeps a trace from
its end. -/
namespace Disasm32.CommandLine

open Digits Waveform

/-- The output does not begin with `c`, the exit code is at most `limit`, and the report fails only
for one of the causes. -/
structure Mild (c : Char) (limit : Nat) (causes : Failure → Prop) (r : Report) : Prop where
  front : r.output.toList.head? ≠ some c
  code : ∀ n, r.ending = .ok n → n ≤ limit
  cause : ∀ cause, r.ending = .error cause → causes cause

variable {c : Char} {limit : Nat} {causes : Failure → Prop} {a b : Report} {text : String}
  {verbose : Bool} {m : Template.Members}

theorem head?_append_ne {s t : String} (first : s.toList.head? ≠ some c)
    (second : t.toList.head? ≠ some c) : (s ++ t).toList.head? ≠ some c := by
  rw [String.toList_append, List.head?_append]
  cases start : s.toList.head? with
  | none => exact second
  | some d =>
    rw [start] at first
    exact first

theorem Mild.append (first : Mild c limit causes a) (second : Mild c limit causes b) :
    Mild c limit causes (a ++ b) := by
  obtain ⟨output, complaints, ending⟩ := a
  cases ending with
  | error cause => exact first
  | ok m =>
    have front : (output ++ b.output).toList.head? ≠ some c :=
      head?_append_ne first.front second.front
    have ending : (({ output, complaints, ending := .ok m } : Report) ++ b).ending =
        b.ending.map (max m) := rfl
    refine ⟨front, fun n ends => ?_, fun cause ends => ?_⟩
    · cases last : b.ending with
      | error cause =>
        rw [ending, last] at ends
        cases ends
      | ok k =>
        rw [ending, last] at ends
        cases ends
        exact Nat.max_le.2 ⟨first.code m rfl, second.code k last⟩
    · cases last : b.ending with
      | error other =>
        rw [ending, last] at ends
        cases ends
        exact second.cause _ last
      | ok k =>
        rw [ending, last] at ends
        cases ends

theorem head?_empty_ne : ("" : String).toList.head? ≠ some c := nofun

theorem mild_of_code {code : Nat} {output complaints : String}
    (front : output.toList.head? ≠ some c) (small : code ≤ limit) :
    Mild c limit causes { output, complaints, ending := .ok code } :=
  ⟨front, fun _ ends => by cases ends; exact small, fun _ ends => nomatch ends⟩

theorem mild_empty : Mild c limit causes {} := mild_of_code head?_empty_ne (Nat.zero_le _)

theorem mild_warning (text : String) : Mild c limit causes (.warning text) :=
  mild_of_code head?_empty_ne (Nat.zero_le _)

theorem mild_error (large : 1 ≤ limit) (text : String) : Mild c limit causes (.error text) :=
  mild_of_code head?_empty_ne large

theorem mild_line {d : Char} (first : text.toList.head? = some d) (other : d ≠ c) :
    Mild c limit causes (.line text) := by
  refine mild_of_code ?_ (Nat.zero_le _)
  rw [String.toList_append, List.head?_append, first]
  exact fun same => other (Option.some.inj same)

theorem mild_fail {cause : Failure} (given : causes cause) :
    Mild c limit causes (.fail cause) := by
  refine ⟨head?_empty_ne, fun _ ends => (nomatch ends), fun other ends => ?_⟩
  cases ends
  exact given

theorem mild_remark {d : Char} (first : text.toList.head? = some d)
    (other : verbose = true → d ≠ c) : Mild c limit causes (remark verbose text) := by
  unfold remark
  split
  · exact mild_line first (other ‹_›)
  · exact mild_empty

theorem mild_concat {reports : List Report} (each : ∀ r ∈ reports, Mild c limit causes r) :
    Mild c limit causes (.concat reports) := by
  induction reports with
  | nil => exact mild_empty
  | cons r reports ih =>
    rw [List.forall_mem_cons] at each
    exact each.1.append (ih each.2)

/-- A character that a line for a value change can begin with. -/
def BeginsEntry (c : Char) : Prop := c = ' ' ∨ c = '-' ∨ c.isDigit = true

instance : DecidablePred BeginsEntry := fun _ => inferInstanceAs (Decidable (_ ∨ _))

theorem head?_show? {e : Entry} {line : String} (shown : e.show? m = .ok line) :
    ∃ d, line.toList.head? = some d ∧ BeginsEntry d := by
  cases text : e.result.show? m with
  | error =>
    rw [Entry.show?, text] at shown
    cases shown
  | ok text' =>
    rw [Entry.show?, text] at shown
    cases shown
    have filled : padLeft ' ' 10 (decimal e.time) ≠ [] := by
      simp [padLeft, decimal_ne_nil]
    refine ⟨(padLeft ' ' 10 (decimal e.time)).head filled, ?_, ?_⟩
    · simp only [String.append_assoc, String.toList_append, String.toList_ofList]
      rw [List.head?_append_of_ne_nil _ filled, List.head?_eq_some_head]
    · rcases List.mem_append.1 (List.head_mem filled) with blank | digit
      · exact .inl (List.eq_of_mem_replicate blank)
      · exact .inr (eq_minus_or_isDigit_of_mem_decimal digit)

theorem invalidText_of_show?_error {e : Entry} {cause : TemplateError}
    (failed : e.show? m = .error cause) :
    e.result.display.invalidText m e.result.word = .error cause := by
  unfold Entry.show? Decoded.show? at failed
  cases text : e.result.text with
  | some text =>
    rw [text] at failed
    cases failed
  | none =>
    rw [text] at failed
    dsimp only at failed
    cases message : e.result.display.invalidText m e.result.word with
    | ok text =>
      rw [message] at failed
      cases failed
    | error other =>
      rw [message] at failed
      cases failed
      rfl

theorem mild_signalWarning (signal : Signal) : Mild c limit causes (signalWarning signal) := by
  unfold signalWarning
  split
  · exact mild_empty
  · exact mild_warning _

theorem mild_changesReport {display : Display} {signal : Signal} {lines : List String}
    (other : ¬BeginsEntry c)
    (text : ∀ cause, (traceLines lines signal.identifier { display }).1 = .error cause →
      causes (.text cause))
    (template : ∀ (word : Nat) cause, display.invalidText m word = .error cause →
      causes (.template cause)) :
    Mild c limit causes (changesReport m display verbose signal lines) := by
  have blank : ' ' ≠ c := fun same => other (.inl same.symm)
  unfold changesReport
  split
  · rename_i cause failed
    exact mild_fail (text cause failed)
  · rename_i entries skipped followed
    have shown : Mild c limit causes (entryLines m entries) := by
      apply mild_concat
      intro r member
      obtain ⟨e, listed, rfl⟩ := List.mem_map.1 member
      have usual : e.result.display = display := display_of_mem_follow followed listed
      split
      · rename_i line shown
        obtain ⟨d, first, begins⟩ := head?_show? shown
        exact mild_line first fun same => other (same ▸ begins)
      · rename_i cause failed
        exact mild_fail (template e.result.word cause (usual ▸ invalidText_of_show?_error failed))
    have skips : Mild c limit causes (skippedWarning skipped) := by
      unfold skippedWarning
      split
      · exact mild_empty
      · exact mild_warning _
    exact (shown.append skips).append (mild_remark (by simp) fun _ => blank)

theorem mild_signalReport {display : Display} {signal : Signal} {lines : List String}
    (other : ¬BeginsEntry c) (bracket : verbose = true → '[' ≠ c)
    (text : ∀ cause, (traceLines lines signal.identifier { display }).1 = .error cause →
      causes (.text cause))
    (template : ∀ (word : Nat) cause, display.invalidText m word = .error cause →
      causes (.template cause)) :
    Mild c limit causes (signalReport m display verbose signal lines) := by
  have blank : ' ' ≠ c := fun same => other (.inl same.symm)
  exact (((mild_signalWarning signal).append (mild_remark (by simp) fun _ => blank)).append
    (mild_remark (by decide) bracket)).append (mild_changesReport other text template)

theorem mild_dumpReport {q : TraceRequest} {settings : Settings} {lines : List String}
    (other : ¬BeginsEntry c) (bracket : q.verbose = true → '[' ≠ c) (large : 1 ≤ limit)
    (header : ∀ cause, readHeader lines = .error cause → causes (.header cause))
    (text : ∀ later identifier cause,
      (traceLines later identifier { display := settings.display }).1 = .error cause →
        causes (.text cause))
    (template : ∀ (word : Nat) cause, settings.display.invalidText m word = .error cause →
      causes (.template cause)) :
    Mild c limit causes (dumpReport m q settings lines) := by
  have blank : ' ' ≠ c := fun same => other (.inl same.symm)
  apply (mild_remark (by decide) bracket).append
  split
  · rename_i cause failed
    exact mild_fail (header cause failed)
  · rename_i declared start read
    apply ((mild_remark (by simp) fun _ => blank).append (mild_remark (by simp) bracket)).append
    split
    · exact mild_error large _
    · exact mild_signalReport other bracket (text _ _) template

/-- A line of the header declares a variable whose width is no number. -/
def Malformed (lines : List String) : Prop :=
  ∃ line ∈ (lines.map fun line => Text.strip line.toList).takeWhile
    (!begins "$enddefinitions" ·), Unreadable line

/-- Whatever stands in the dump, there is an exit code of 0 or 1. It is 1, with an error, if the
header is malformed. -/
def Reported (lines : List String) (r : Report) : Prop :=
  ∃ code ≤ 1, r.ending = .ok code ∧
    (Malformed lines → code = 1 ∧ ∃ text, r.complaints = "Error: " ++ text ++ "\n")

variable {env : Environment} {q : TraceRequest} {lines : List String}

theorem traceDump_of_read {settings : Settings}
    (loaded : Settings.load env.host env.read (q.settings?.map Path.normal) q.target? =
      .ok settings)
    (held : env.read.lines q.dump = .ok lines) :
    traceDump env q = dumpReport env.host.members q settings lines := by
  simp only [traceDump, withSettings, loaded, held]

theorem malformed_iff : Malformed lines ↔ ∃ e, readHeader lines = .error e :=
  readHeaderFrom_error_iff.symm

theorem ending_of_refused {settings : Settings} {e : HeaderError}
    (refused : readHeader lines = .error e) :
    (dumpReport m q settings lines).ending = .error (.header e) := by
  unfold dumpReport remark
  simp only [refused]
  cases q.verbose <;> rfl

theorem ending_of_read (read : ¬Malformed lines) :
    ∃ code ≤ 1, (dumpReport m q {} lines).ending = .ok code := by
  have columns : ({} : Display).mnemonicWidth = .columns 9 := rfl
  -- In the usual display no cause of a failure is left but the header.
  have mild : Mild 'u' 1 (fun cause => ∃ e, cause = .header e ∧ readHeader lines = .error e)
      (dumpReport m q {} lines) := by
    refine mild_dumpReport (by decide) (fun _ => by decide) (le_refl 1)
      (fun e refused => ⟨e, rfl, refused⟩) ?_ fun word e failed => ?_
    · intro later identifier e failed
      obtain ⟨found, followed⟩ := exists_follow (c := { display := {} }) columns (by decide) 0
        (later.map fun line => Event.ofLine identifier.toList (Text.strip line.toList))
      cases followed.symm.trans failed
    · cases (Display.invalidText_usual m word).symm.trans failed
  cases ending : (dumpReport m q {} lines).ending with
  | ok code => exact ⟨code, mild.code code ending, rfl⟩
  | error cause =>
    obtain ⟨e, -, refused⟩ := mild.cause cause ending
    exact absurd (malformed_iff.2 ⟨e, refused⟩) read

/-- In the usual display everything in a dump is reported but a width that is no number. -/
theorem runTrace_reported_iff (unset : q.settings? = none ∧ q.target? = none)
    (held : env.read.lines q.dump = .ok lines) :
    (Reported lines (runTrace env q.joined) ↔ ¬Malformed lines) ∧
      ∀ e, readHeader lines = .error e → (runTrace env q.joined).ending = .error (.header e) := by
  have usual : runTrace env q.joined = dumpReport env.host.members q.meant {} lines := by
    have load : Settings.load env.host env.read (q.meant.settings?.map Path.normal)
        q.meant.target? = .ok {} := by
      simp only [TraceRequest.meant, unset.1, unset.2]
      rfl
    rw [runTrace_joined, traceDump_of_read load held]
  rw [usual]
  refine ⟨⟨fun ⟨_, _, ends, _⟩ malformed => ?_, fun read => ?_⟩, fun e => ending_of_refused⟩
  · obtain ⟨e, refused⟩ := malformed_iff.1 malformed
    cases ends.symm.trans (ending_of_refused refused)
  · obtain ⟨code, small, ends⟩ := ending_of_read (m := env.host.members) (q := q.meant) read
    exact ⟨code, small, ends, fun malformed => absurd malformed read⟩

/-- A dump with a word, an undefined value and a time that is no number. -/
theorem runTrace_reported_iff_undefined :
    let text := "$var wire 0_8 ! insn [7:0] $end\n$enddefinitions $end\n#x\nb10011 !\nbz !\n"
    let env : Environment := { host := .usual, read := fun _ => .ok (text.toList.map (·.toNat)) }
    let lines := ["$var wire 0_8 ! insn [7:0] $end\n", "$enddefinitions $end\n", "#x\n",
      "b10011 !\n", "bz !\n"]
    let q : TraceRequest := { dump := "-sim.vcd", signal? := some "insn", verbose := true }
    (q.settings? = none ∧ q.target? = none) ∧ env.read.lines q.dump = .ok lines ∧
      Reported lines (runTrace env q.joined) := by
  intro text env lines q
  have unset : q.settings? = none ∧ q.target? = none := ⟨rfl, rfl⟩
  have held : env.read.lines q.dump = .ok lines := by decide +kernel
  have readable : ¬Malformed lines := by
    have header : (readHeader lines).toOption.isSome = true := by decide +kernel
    rw [malformed_iff]
    rintro ⟨e, refused⟩
    rw [refused] at header
    cases header
  exact ⟨unset, held, (runTrace_reported_iff unset held).1.2 readable⟩

/-- The width of the variable is no number, so the trace ends with a failure. -/
theorem not_reported_letters :
    let text := "$var wire abc ! instr_rdata_i $end\n$enddefinitions $end\n#5\nb10011 !\n"
    let env : Environment := { host := .usual, read := fun _ => .ok (text.toList.map (·.toNat)) }
    let lines := ["$var wire abc ! instr_rdata_i $end\n", "$enddefinitions $end\n", "#5\n",
      "b10011 !\n"]
    env.read.lines "sim.vcd" = .ok lines ∧ Malformed lines ∧
      ¬Reported lines (runTrace env ["--", "sim.vcd"]) := by
  intro text env lines
  have held : env.read.lines "sim.vcd" = .ok lines := by decide +kernel
  have malformed : Malformed lines := by
    refine ⟨"$var wire abc ! instr_rdata_i $end".toList, by decide +kernel, by decide +kernel,
      by decide +kernel, "abc".toList, .malformed, by decide +kernel, by decide +kernel⟩
  refine ⟨held, malformed, fun ⟨code, _, ends, _⟩ => ?_⟩
  have failed : (runTrace env ["--", "sim.vcd"]).ending.toOption = none := by decide +kernel
  rw [ends] at failed
  cases failed

end Disasm32.CommandLine
