import Disasm32.Host.Usual
import Disasm32.Proofs.Settings.Form

/-! Settings documents in plain values. A value gives settings exactly if it has the documented form
and its message can be filled in for the word zero, and the settings are what the form says. All
other values are refused, but for those whose message fails with an unexpected error. -/
namespace Disasm32.Settings

def Known (names : List String) (entries : List (Value × Value)) : Prop :=
  ∀ e ∈ entries, ∃ name ∈ names, e.1 = .text name

/-- What the value under a key says, whatever the other keys and their order; without the key the
usual holds. -/
def Under (name : String) (entries : List (Value × Value)) (means : Value → α → Prop) (usual a : α) :
    Prop :=
  (∃ v, (.text name, v) ∈ entries ∧ means v a) ∨ (∀ v, (.text name, v) ∉ entries) ∧ a = usual

/-- A number, not a truth value, that equals an integer from 1 to 32. -/
def IsWidth (v : Value) : Prop :=
  ∃ n : Int, (v = .int n ∨ ∃ x, v = .real x ∧ x.toInt? = some n) ∧ 1 ≤ n ∧ n ≤ 32

structure DisplayForm (entries : List (Value × Value)) (d : Display) : Prop where
  known : Known ["mnemonic_width", "register_names", "invalid_format"] entries
  width : Under "mnemonic_width" entries (fun v width => IsWidth v ∧ v = width.value) (.columns 9)
    d.mnemonicWidth
  names : Under "register_names" entries (fun v names => v = .text names.word) .numeric
    d.registerNames
  format : Under "invalid_format" entries
    (fun v format => v = .text format ∧ "\x7bword".toList <:+: format.toList)
    "invalid instruction 0x\x7bword:08x\x7d" d.invalidFormat

structure TraceForm (entries : List (Value × Value)) (t : TraceSettings) : Prop where
  known : Known ["instruction_data", "testbench_prefix"] entries
  data : Under "instruction_data" entries (fun v data => v = .text data) "instr_rdata_i"
    t.instructionData
  stem : Under "testbench_prefix" entries (fun v stem => v = .text stem) "" t.testbenchPrefix

structure Form (entries : List (Value × Value)) (s : Settings) : Prop where
  known : Known ["name", "display", "trace"] entries
  name : (.text "name", .text s.name) ∈ entries
  display : Under "display" entries (fun v d => ∃ inner, v = .mapping inner ∧ DisplayForm inner d) {}
    s.display
  trace : Under "trace" entries (fun v t => ∃ inner, v = .mapping inner ∧ TraceForm inner t) {}
    s.trace

/-- The value has the documented form, and this is what it says. -/
def Describes (v : Value) (s : Settings) : Prop := ∃ entries, v = .mapping entries ∧ Form entries s

/-- The message for unknown words can be filled in for the word zero. -/
def Fillable (host : Host) (s : Settings) : Prop :=
  Template.Succeeds (Template.render host.members s.display.invalidFormat 0)

/-- The value gives the settings that it describes if their message can be filled in, and without
such settings it is refused. -/
def Documented (host : Host) (v : Value) (source : String) : Prop :=
  (∀ s, ofValue host v source = .ok s ↔ Describes v s ∧ Fillable host s) ∧
    ((∀ s, Describes v s → ¬Fillable host s) →
      ∃ e, ofValue host v source = .error e ∧ e.isRefusal = true)

variable {d : Document} {entries : List (Value × Value)} {name : String}

/-- A key whose value, if there is one, passes a check and then gives what the value says. -/
theorem under_iff {accepts : Value → Prop} (stored : Option Value → Prop)
    {means : Value → α → Prop} {usual a : α} (distinct : (entries.map (·.1)).Nodup)
    (given : ∀ u, (.text name, u) ∈ entries → (accepts u ∧ stored (some u) ↔ means u a))
    (missing : stored none ↔ a = usual) :
    ((∀ u ∈ Value.find? name entries, accepts u) ∧ stored (Value.find? name entries)) ↔
      Under name entries means usual a := by
  cases found : Value.find? name entries with
  | none =>
    have absent := Value.find?_eq_none_iff.1 found
    simp [Under, absent, missing]
  | some u =>
    have only (w : Value) : (.text name, w) ∈ entries ↔ w = u := by
      rw [← Value.find?_eq_some_iff distinct, found, Option.some.injEq, eq_comm]
    simp [Under, only, given u ((only u).2 rfl)]

theorem mnemonicWidth_iff {width : ColumnWidth} (distinct : (entries.map (·.1)).Nodup) :
    ((∀ u ∈ Value.find? "mnemonic_width" entries,
        Schema.Holds d { type := .integer, minimum := some 1, maximum := some 32 } u) ∧
        (DisplaySection.ofEntries entries).mnemonicWidth = width.value) ↔
      Under "mnemonic_width" entries (fun v width => IsWidth v ∧ v = width.value) (.columns 9)
        width := by
  refine under_iff (fun u? => u?.getD _ = width.value) distinct
    (fun u _ => and_congr_left' Schema.holds_integer) ?_
  cases width <;> simp [ColumnWidth.value, eq_comm]

theorem registerNames_iff {names : RegisterNames} (distinct : (entries.map (·.1)).Nodup) :
    ((∀ u ∈ Value.find? "register_names" entries,
        Schema.Holds d { type := .string, enum := some ["numeric", "abi"] } u) ∧
        ∃ word, (DisplaySection.ofEntries entries).registerNames = .text word ∧
          RegisterNames.ofWord word = names) ↔
      Under "register_names" entries (fun v names => v = .text names.word) .numeric names := by
  refine under_iff (fun u? => ∃ word, u?.getD _ = .text word ∧ RegisterNames.ofWord word = names)
    distinct (fun u _ => ?_) ?_
  · rw [Schema.holds_enum]
    cases names <;> simp [RegisterNames.word, RegisterNames.ofWord] <;> grind
  · cases names <;> simp [RegisterNames.ofWord, RegisterNames.word]

theorem invalidFormat_iff {format : String} (distinct : (entries.map (·.1)).Nodup) :
    ((∀ u ∈ Value.find? "invalid_format" entries,
        Schema.Holds d { type := .string, pattern := some "\\\x7bword" } u) ∧
        (DisplaySection.ofEntries entries).invalidFormat = .text format) ↔
      Under "invalid_format" entries
        (fun v format => v = .text format ∧ "\x7bword".toList <:+: format.toList)
        "invalid instruction 0x\x7bword:08x\x7d" format := by
  have literal : Schema.literal "\\\x7bword".toList = "\x7bword".toList := by decide
  refine under_iff (fun u? => u?.getD _ = .text format) distinct (fun u _ => ?_) (by simp [eq_comm])
  rw [Schema.holds_pattern, literal]
  constructor
  · rintro ⟨⟨s, rfl, pattern⟩, ⟨⟩⟩
    exact ⟨rfl, pattern⟩
  · rintro ⟨rfl, pattern⟩
    exact ⟨⟨_, rfl, pattern⟩, rfl⟩

theorem holds_mapping_iff {properties : List (String × Schema)} :
    Schema.Holds d { type := .object, properties, additionalProperties := false }
        (.mapping entries) ↔
      (∀ property ∈ properties, ∀ u ∈ Value.find? property.1 entries, property.2.Holds d u) ∧
        Known (properties.map (·.1)) entries := by
  have itself : d.entries? (.mapping entries) = some entries := rfl
  simp [Schema.holds_object, itself, Known]

theorem displayForm_iff {a : Display} (distinct : (entries.map (·.1)).Nodup) :
    displaySchema.Holds d (.mapping entries) ∧
      (DisplaySection.ofEntries entries).display? = some a ↔ DisplayForm entries a := by
  rw [DisplaySection.display?_eq_some_iff, displaySchema, holds_mapping_iff]
  simp only [List.forall_mem_cons]
  constructor
  · rintro ⟨⟨⟨width, names, format, -⟩, known⟩, hw, hn, hf⟩
    exact ⟨known, (mnemonicWidth_iff distinct).1 ⟨width, hw⟩,
      (registerNames_iff distinct).1 ⟨names, hn⟩, (invalidFormat_iff distinct).1 ⟨format, hf⟩⟩
  · rintro ⟨known, width, names, format⟩
    obtain ⟨width, hw⟩ := (mnemonicWidth_iff distinct).2 width
    obtain ⟨names, hn⟩ := (registerNames_iff distinct).2 names
    obtain ⟨format, hf⟩ := (invalidFormat_iff distinct).2 format
    have done := List.forall_mem_nil fun property : String × Schema =>
      ∀ u ∈ Value.find? property.1 entries, property.2.Holds d u
    exact ⟨⟨⟨width, names, format, done⟩, known⟩, hw, hn, hf⟩

theorem text_iff {usual s : String} (distinct : (entries.map (·.1)).Nodup) :
    ((∀ u ∈ Value.find? name entries, Schema.Holds d { type := .string } u) ∧
        (Value.find? name entries).getD (.text usual) = .text s) ↔
      Under name entries (fun v s => v = .text s) usual s := by
  refine under_iff (fun u? => u?.getD (.text usual) = .text s) distinct (fun u _ => ?_) ?_
  · rw [Schema.holds_string]
    exact ⟨fun h => h.2, fun h => ⟨⟨s, h⟩, h⟩⟩
  · rw [Option.getD_none, Value.text.injEq, eq_comm]

theorem traceForm_iff {t : TraceSettings} (distinct : (entries.map (·.1)).Nodup) :
    traceSchema.Holds d (.mapping entries) ∧
      (TraceSection.ofEntries entries).settings? = some t ↔ TraceForm entries t := by
  rw [TraceSection.settings?_eq_some_iff, traceSchema, holds_mapping_iff]
  simp only [List.forall_mem_cons]
  constructor
  · rintro ⟨⟨⟨data, stem, -⟩, known⟩, hd, hs⟩
    exact ⟨known, (text_iff distinct).1 ⟨data, hd⟩, (text_iff distinct).1 ⟨stem, hs⟩⟩
  · rintro ⟨known, data, stem⟩
    obtain ⟨data, hd⟩ := (text_iff distinct).2 data
    obtain ⟨stem, hs⟩ := (text_iff distinct).2 stem
    have done := List.forall_mem_nil fun property : String × Schema =>
      ∀ u ∈ Value.find? property.1 entries, property.2.Holds d u
    exact ⟨⟨⟨data, stem, done⟩, known⟩, hd, hs⟩

variable {host : Host} {u v : Value} {s t : Settings} {source : String}

/-- A section, if it is there, is as its schema says and gives what it says. -/
theorem part_iff {schema : Schema} {describe : List (Value × Value) → Option α}
    {form : List (Value × Value) → α → Prop} {usual a : α}
    (json : Value.IsJson (.mapping entries))
    (checks : ∀ inner : List (Value × Value), (inner.map (·.1)).Nodup →
      (schema.Holds (.ofValue v) (.mapping inner) ∧ describe inner = some a ↔ form inner a)) :
    ((∀ u ∈ Value.find? name entries, schema.Holds (.ofValue v) u) ∧
      part? (.ofValue v) usual describe (Value.find? name entries) = some a) ↔
      Under name entries (fun u a => ∃ inner, u = .mapping inner ∧ form inner a) usual a := by
  refine under_iff (fun u? => part? (.ofValue v) usual describe u? = some a) json.distinct
    (fun u member => ?_) (by simp [part?, eq_comm])
  simp only [part?, Document.entries?_ofValue, Option.bind_eq_some_iff,
    Value.entries?_eq_some_iff]
  constructor
  · rintro ⟨holds, inner, rfl, described⟩
    exact ⟨inner, rfl, (checks inner (json.of_mem member).distinct).1 ⟨holds, described⟩⟩
  · rintro ⟨inner, rfl, fits⟩
    obtain ⟨holds, described⟩ := (checks inner (json.of_mem member).distinct).2 fits
    exact ⟨holds, inner, rfl, described⟩

/-- The documented form is what the schema says, with the settings that are read. -/
theorem describes_iff (json : v.IsJson) :
    configSchema.Holds (.ofValue v) v ∧ read? (.ofValue v) = some s ↔ Describes v s := by
  rw [read?_eq_some_iff, configSchema, Schema.holds_object]
  simp only [Document.entries?_ofValue, Value.entries?_eq_some_iff, List.forall_mem_cons]
  constructor
  · rintro ⟨⟨entries, rfl, -, ⟨-, display, trace, -⟩, known⟩, _, ⟨⟩, name, shown, traced⟩
    exact ⟨entries, rfl, by simpa [Known] using known, Value.mem_of_find?_eq_some name,
      (part_iff json fun _ => displayForm_iff).1 ⟨display, shown⟩,
      (part_iff json fun _ => traceForm_iff).1 ⟨trace, traced⟩⟩
  · rintro ⟨entries, rfl, known, name, display, trace⟩
    obtain ⟨display, shown⟩ := (part_iff json fun _ => displayForm_iff).2 display
    obtain ⟨trace, traced⟩ := (part_iff json fun _ => traceForm_iff).2 trace
    have name := (Value.find?_eq_some_iff json.distinct).2 name
    have given : (Value.find? "name" entries).isSome = true := by rw [name]; rfl
    have text : ∀ u ∈ Value.find? "name" entries, Schema.Holds (.ofValue (.mapping entries))
        { type := .string } u := by
      rw [name]
      rintro _ ⟨⟩
      exact Schema.holds_string.2 ⟨_, rfl⟩
    exact ⟨⟨entries, rfl, ⟨given, by simp⟩, ⟨text, display, trace, by simp⟩,
      by simpa [Known] using known⟩, entries, rfl, name, shown, traced⟩

theorem describes_unique (json : v.IsJson) (hs : Describes v s) (ht : Describes v t) : s = t :=
  Option.some.inj
    (((describes_iff json).2 hs).2.symm.trans ((describes_iff json).2 ht).2)

theorem ofValue_of_describes (sound : host.check.IsSound) (json : v.IsJson)
    (described : Describes v s) (fillable : Fillable host s) (source : String) :
    ofValue host v source = .ok s := by
  obtain ⟨holds, found⟩ := (describes_iff json).2 described
  exact (ofDocument_eq_ok_iff sound).2 ⟨holds, found, fillable⟩

/-- Under a sound checker settings documents are accepted and refused as documented, but for those
of the documented form with a message that fails with an error beyond the expected ones. -/
theorem documented_iff (sound : host.check.IsSound) (json : v.IsJson) (source : String) :
    Documented host v source ↔ ∀ s, Describes v s →
      ∀ e, Template.render host.members s.display.invalidFormat 0 = .error e →
        e.escapes = false := by
  by_cases holds : configSchema.Holds (.ofValue v) v
  · obtain ⟨s, found⟩ := exists_read?_of_holds holds
    have described := (describes_iff json).1 ⟨holds, found⟩
    have only (t : Settings) : Describes v t ↔ t = s :=
      ⟨fun other => describes_unique json other described, fun same => same ▸ described⟩
    have answer : ofValue host v source = _ := ofDocument_of_holds sound holds found source
    simp only [Documented, only, forall_eq, answer, tried]
    cases filled : Template.render host.members s.display.invalidFormat 0 with
    | ok text =>
      have fillable : Fillable host s := ⟨text, filled⟩
      have stored (t : Settings) :
          (.ok s : Except SettingsError Settings) = .ok t ↔ t = s ∧ Fillable host t := by
        rw [Except.ok.injEq, eq_comm, and_iff_left_of_imp]
        exact fun same => same ▸ fillable
      simp [stored, fillable]
    | error cause =>
      have unfillable : ¬Fillable host s := by
        rintro ⟨text, other⟩
        cases filled.symm.trans other
      have other (t : Settings) : ¬(t = s ∧ Fillable host t) := by
        rintro ⟨rfl, fillable⟩
        exact unfillable fillable
      cases escapes : cause.escapes <;>
        simp [other, unfillable, SettingsError.isRefusal, escapes]
  · have none (t : Settings) : ¬Describes v t := fun described =>
      holds ((describes_iff json).2 described).1
    have refused : ∃ e, ofValue host v source = .error e ∧ e.isRefusal = true :=
      ofDocument_refused sound holds source
    simp only [Documented, none, false_and, iff_false, false_implies, implies_true, iff_true,
      forall_const]
    refine ⟨fun s accepted => ?_, refused⟩
    obtain ⟨e, refused, -⟩ := refused
    cases accepted.symm.trans refused

def withDisplay (key : String) (v : Value) : Value :=
  .mapping [(.text "name", .text "x"), (.text "display", .mapping [(.text key, v)])]

theorem isJson_withDisplay {key : String} (json : v.IsJson) : (withDisplay key v).IsJson := by
  have display : Value.IsJson (.mapping [(.text key, v)]) :=
    .mapping [key] rfl (by simp) (by simpa using json)
  exact .mapping ["name", "display"] rfl (by decide) (by simp [Value.IsJson.text, display])

theorem describes_withDisplay {key : String} {d : Display}
    (form : DisplayForm [(.text key, v)] d) :
    Describes (withDisplay key v) { name := "x", display := d } :=
  ⟨_, rfl, by simp [Known], by simp, .inl ⟨_, by simp, _, rfl, form⟩, .inr ⟨by simp, rfl⟩⟩

def withMessage (format : String) : Value := withDisplay "invalid_format" (.text format)

theorem isJson_withMessage (format : String) : (withMessage format).IsJson :=
  isJson_withDisplay (.text format)

theorem describes_withMessage (format : String) (pattern : "\x7bword".toList <:+: format.toList) :
    Describes (withMessage format) { name := "x", display := { invalidFormat := format } } :=
  describes_withDisplay ⟨by simp [Known], .inr ⟨by simp, rfl⟩, .inr ⟨by simp, rfl⟩,
    .inl ⟨_, by simp, rfl, pattern⟩⟩

theorem fillable_hexadecimal :
    Fillable Host.usual { name := "x", display := { invalidFormat := "?? \x7bword:08x\x7d" } } :=
  ⟨"?? 00000000", by decide +kernel⟩

theorem ofValue_hexadecimal :
    ofValue Host.usual (withMessage "?? \x7bword:08x\x7d") "<dict>" =
      .ok { name := "x", display := { invalidFormat := "?? \x7bword:08x\x7d" } } :=
  ofValue_of_describes Schema.isSound_check (isJson_withMessage _)
    (describes_withMessage _ (Text.contains_iff_infix.1 rfl)) fillable_hexadecimal _

theorem documented_hexadecimal :
    Host.usual.check.IsSound ∧ (withMessage "?? \x7bword:08x\x7d").IsJson ∧
      (∀ s, Describes (withMessage "?? \x7bword:08x\x7d") s →
        ∀ e, Template.render Host.usual.members s.display.invalidFormat 0 = .error e →
          e.escapes = false) ∧
      Documented Host.usual (withMessage "?? \x7bword:08x\x7d") "<dict>" := by
  have json := isJson_withMessage "?? \x7bword:08x\x7d"
  have expected : ∀ s, Describes (withMessage "?? \x7bword:08x\x7d") s →
      ∀ e, Template.render Host.usual.members s.display.invalidFormat 0 = .error e →
        e.escapes = false := by
    intro s described e failed
    cases describes_unique json described (describes_withMessage _ (Text.contains_iff_infix.1 rfl))
    obtain ⟨text, filled⟩ := fillable_hexadecimal
    cases filled.symm.trans failed
  exact ⟨Schema.isSound_check, json, expected,
    (documented_iff Schema.isSound_check json "<dict>").2 expected⟩

/-- A sound message with a number that is no character. -/
theorem not_documented_flags :
    (withMessage "\x7bword.__class__.__flags__:c\x7d").IsJson ∧
      ¬Documented Host.usual (withMessage "\x7bword.__class__.__flags__:c\x7d") "<dict>" := by
  have json := isJson_withMessage "\x7bword.__class__.__flags__:c\x7d"
  have described := describes_withMessage "\x7bword.__class__.__flags__:c\x7d"
    (Text.contains_iff_infix.1 rfl)
  have failed : Template.render Host.usual.members "\x7bword.__class__.__flags__:c\x7d" 0 =
      .error .notACharacter := by
    decide +kernel
  obtain ⟨holds, found⟩ := (describes_iff json).2 described
  have answer : ofValue Host.usual _ "<dict>" = _ :=
    ofDocument_of_holds Schema.isSound_check holds found "<dict>"
  simp only [tried, failed] at answer
  refine ⟨json, fun documented => ?_⟩
  obtain ⟨e, refused, fault⟩ := documented.2 fun s other fillable => by
    obtain ⟨text, filled⟩ := fillable
    rw [describes_unique json other described, failed] at filled
    cases filled
  cases answer.symm.trans refused
  cases fault

end Disasm32.Settings
