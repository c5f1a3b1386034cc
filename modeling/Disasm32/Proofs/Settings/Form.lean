import Disasm32.Proofs.Settings.Schema
import Disasm32.Proofs.Template.Formats
import Disasm32.Settings.Load

/-! What a document gives that is as the schema of settings says. Its values can be read, so that a
sound checker leaves nothing that could fail but the message for unknown words. -/
namespace Disasm32

theorem ColumnWidth.ofValue?_eq_some_iff {v : Value} {width : ColumnWidth} :
    ofValue? v = some width ↔ v = width.value := by
  cases v <;> cases width <;> simp [ofValue?, value]

theorem DisplaySection.display?_eq_some_iff {s : DisplaySection} {d : Display} :
    s.display? = some d ↔ s.mnemonicWidth = d.mnemonicWidth.value ∧
      (∃ word, s.registerNames = .text word ∧ RegisterNames.ofWord word = d.registerNames) ∧
      s.invalidFormat = .text d.invalidFormat := by
  obtain ⟨width, names, format⟩ := d
  simp only [display?, Option.bind_eq_bind, Option.bind_eq_some_iff, Option.pure_def,
    Option.some.injEq, Display.mk.injEq, ColumnWidth.ofValue?_eq_some_iff,
    Value.text?_eq_some_iff]
  constructor
  · rintro ⟨_, width, word, names, _, format, rfl, rfl, rfl⟩
    exact ⟨width, ⟨word, names, rfl⟩, format⟩
  · rintro ⟨width, ⟨word, names, rfl⟩, format⟩
    exact ⟨_, width, word, names, _, format, rfl, rfl, rfl⟩

theorem TraceSection.settings?_eq_some_iff {s : TraceSection} {t : TraceSettings} :
    s.settings? = some t ↔ s.instructionData = .text t.instructionData ∧
      s.testbenchPrefix = .text t.testbenchPrefix := by
  obtain ⟨data, stem⟩ := t
  simp only [settings?, Option.bind_eq_bind, Option.bind_eq_some_iff, Option.pure_def,
    Option.some.injEq, TraceSettings.mk.injEq, Value.text?_eq_some_iff]
  constructor
  · rintro ⟨_, data, _, stem, rfl, rfl⟩
    exact ⟨data, stem⟩
  · rintro ⟨data, stem⟩
    exact ⟨_, data, _, stem, rfl, rfl⟩

namespace Settings

variable {d : Document} {entries : List (Value × Value)} {name source : String} {s : Settings}

def displayUnder (d : Document) (entries : List (Value × Value)) : Option Display :=
  part? d {} (fun inner => (DisplaySection.ofEntries inner).display?)
    (Value.find? "display" entries)

def traceUnder (d : Document) (entries : List (Value × Value)) : Option TraceSettings :=
  part? d {} (fun inner => (TraceSection.ofEntries inner).settings?) (Value.find? "trace" entries)

theorem read?_eq_some_iff : read? d = some s ↔ ∃ entries,
    d.entries? d.root = some entries ∧ Value.find? "name" entries = some (.text s.name) ∧
      displayUnder d entries = some s.display ∧ traceUnder d entries = some s.trace := by
  obtain ⟨name, display, trace⟩ := s
  simp only [read?, Option.bind_eq_bind, Option.bind_eq_some_iff, Option.pure_def,
    Option.some.injEq, Settings.mk.injEq, Value.text?_eq_some_iff]
  constructor
  · rintro ⟨entries, root, _, ⟨_, found, rfl⟩, _, display, _, trace, rfl, rfl, rfl⟩
    exact ⟨entries, root, found, display, trace⟩
  · rintro ⟨entries, root, found, display, trace⟩
    exact ⟨entries, root, _, ⟨_, found, rfl⟩, _, display, _, trace, rfl, rfl, rfl⟩

/-- What is under a key can be read if the schema passes only values that can, and the usual value
can too. -/
theorem exists_read_getD {schema : Schema} {a : α} (read : Value → Option α) (usual : Value)
    (sound : ∀ u ∈ Value.find? name entries, schema.Holds d u)
    (each : ∀ u, schema.Holds d u → ∃ a, read u = some a) (default : read usual = some a) :
    ∃ a, read ((Value.find? name entries).getD usual) = some a := by
  cases found : Value.find? name entries with
  | none => exact ⟨a, default⟩
  | some u => exact each u (sound u found)

theorem exists_text {u : Value} (holds : Schema.Holds d { type := .string } u) :
    ∃ s, u.text? = some s := by
  obtain ⟨s, rfl⟩ := Schema.holds_string.1 holds
  exact ⟨s, rfl⟩

theorem exists_display {v : Value} (holds : displaySchema.Holds d v) :
    ∃ a, part? d {} (fun inner => (DisplaySection.ofEntries inner).display?) (some v) = some a := by
  obtain ⟨entries, given, -, sound, -⟩ := Schema.holds_object.1 holds
  simp only [List.forall_mem_cons] at sound
  obtain ⟨width, names, format, -⟩ := sound
  obtain ⟨width, hw⟩ := exists_read_getD ColumnWidth.ofValue? (ColumnWidth.value (.columns 9)) width
    (fun u holds => by
      obtain ⟨n, rfl | ⟨x, rfl, -⟩, -⟩ := Schema.holds_integer.1 holds
      · exact ⟨_, rfl⟩
      · exact ⟨_, rfl⟩) rfl
  obtain ⟨word, hn⟩ := exists_read_getD Value.text? (.text "numeric") names
    (fun u holds => by
      obtain ⟨s, -, rfl⟩ := Schema.holds_enum.1 holds
      exact ⟨s, rfl⟩) rfl
  obtain ⟨format, hf⟩ := exists_read_getD Value.text?
    (.text "invalid instruction 0x\x7bword:08x\x7d") format
    (fun u holds => by
      obtain ⟨s, rfl, -⟩ := Schema.holds_pattern.1 holds
      exact ⟨s, rfl⟩) rfl
  refine ⟨⟨width, .ofWord word, format⟩, ?_⟩
  rw [part?, given, Option.bind_some, DisplaySection.display?_eq_some_iff]
  exact ⟨ColumnWidth.ofValue?_eq_some_iff.1 hw, ⟨word, Value.text?_eq_some_iff.1 hn, rfl⟩,
    Value.text?_eq_some_iff.1 hf⟩

theorem exists_trace {v : Value} (holds : traceSchema.Holds d v) :
    ∃ a, part? d {} (fun inner => (TraceSection.ofEntries inner).settings?) (some v) = some a := by
  obtain ⟨entries, given, -, sound, -⟩ := Schema.holds_object.1 holds
  simp only [List.forall_mem_cons] at sound
  obtain ⟨data, stem, -⟩ := sound
  obtain ⟨data, hd⟩ := exists_read_getD Value.text? (.text "instr_rdata_i") data
    (fun _ => exists_text) rfl
  obtain ⟨stem, hs⟩ := exists_read_getD Value.text? (.text "") stem
    (fun _ => exists_text) rfl
  refine ⟨⟨data, stem⟩, ?_⟩
  rw [part?, given, Option.bind_some, TraceSection.settings?_eq_some_iff]
  exact ⟨Value.text?_eq_some_iff.1 hd, Value.text?_eq_some_iff.1 hs⟩

/-- The values of a document that is as the schema says have the right types. -/
theorem exists_read?_of_holds (holds : configSchema.Holds d d.root) : ∃ s, read? d = some s := by
  obtain ⟨entries, root, required, sound, -⟩ := Schema.holds_object.1 holds
  simp only [List.forall_mem_cons] at required sound
  obtain ⟨given, -⟩ := required
  obtain ⟨name, display, trace, -⟩ := sound
  obtain ⟨u, found⟩ := Option.isSome_iff_exists.1 given
  obtain ⟨text, rfl⟩ := Schema.holds_string.1 (name u found)
  have display : ∃ a, displayUnder d entries = some a := by
    unfold displayUnder
    cases under : Value.find? "display" entries with
    | none => exact ⟨_, rfl⟩
    | some v => exact exists_display (display v under)
  have trace : ∃ a, traceUnder d entries = some a := by
    unfold traceUnder
    cases under : Value.find? "trace" entries with
    | none => exact ⟨_, rfl⟩
    | some v => exact exists_trace (trace v under)
  obtain ⟨display, shown⟩ := display
  obtain ⟨trace, traced⟩ := trace
  exact ⟨⟨text, display, trace⟩, read?_eq_some_iff.2 ⟨entries, root, found, shown, traced⟩⟩

end Settings

def SettingsError.isRefusal : SettingsError → Bool
  | escaped _ | untyped => false
  | rejected .. | unwritable _ | badTemplate .. => true

namespace Settings

variable {host : Host} {d : Document} {source : String} {s : Settings}

/-- A document that is as the schema says depends on its message only. -/
theorem ofDocument_of_holds (sound : host.check.IsSound) (holds : configSchema.Holds d d.root)
    (found : read? d = some s) (source : String) : ofDocument host d source = tried host source s := by
  rw [ofDocument, (sound d).2 holds, found]

theorem ofDocument_refused (sound : host.check.IsSound) (bad : ¬configSchema.Holds d d.root)
    (source : String) : ∃ e, ofDocument host d source = .error e ∧ e.isRefusal = true := by
  unfold ofDocument
  cases checked : host.check configSchema d with
  | valid => exact absurd ((sound d).1 checked) bad
  | invalid message => exact ⟨_, rfl, rfl⟩
  | unwritable message => exact ⟨_, rfl, rfl⟩

/-- A document gives settings exactly if it is as the schema says and its message can be filled in
for the word zero. -/
theorem ofDocument_eq_ok_iff (sound : host.check.IsSound) : ofDocument host d source = .ok s ↔
    configSchema.Holds d d.root ∧ read? d = some s ∧
      Template.Succeeds (Template.render host.members s.display.invalidFormat 0) := by
  by_cases holds : configSchema.Holds d d.root
  · obtain ⟨t, found⟩ := exists_read?_of_holds holds
    rw [ofDocument_of_holds sound holds found, found, tried]
    cases filled : Template.render host.members t.display.invalidFormat 0 with
    | ok text =>
      constructor
      · rintro ⟨⟩
        exact ⟨holds, rfl, text, filled⟩
      · rintro ⟨-, ⟨⟩, -⟩
        rfl
    | error cause =>
      constructor
      · rintro ⟨⟩
      · rintro ⟨-, ⟨⟩, text, other⟩
        cases filled.symm.trans other
  · obtain ⟨e, refused, -⟩ := ofDocument_refused sound holds source
    rw [refused]
    constructor
    · rintro ⟨⟩
    · rintro ⟨other, -⟩
      exact absurd other holds

end Settings

end Disasm32
