import Disasm32.Proofs.Document.Values
import Mathlib.Tactic.Tauto
import Disasm32.Settings.Check

/-! The schema of settings documents, keyword by keyword. The checker that the program runs with
finds no violation of a schema exactly in the values that are as the schema says. -/
namespace Disasm32

theorem Text.contains_iff_infix {pattern cs : List Char} :
    contains pattern cs = true ↔ pattern <:+: cs := by
  induction cs with
  | nil => simp [contains]
  | cons c cs ih =>
    rw [contains, Bool.or_eq_true, ih, List.isPrefixOf_iff_prefix, List.infix_cons_iff]

theorem Value.text?_eq_some_iff {v : Value} {s : String} : v.text? = some s ↔ v = .text s := by
  cases v <;> simp [text?]

theorem Value.entries?_eq_some_iff {v : Value} {entries : List (Value × Value)} :
    v.entries? = some entries ↔ v = .mapping entries := by
  cases v <;> simp [entries?]

@[simp] theorem Document.entries?_ofValue {u v : Value} : (ofValue u).entries? v = v.entries? := by
  rw [Document.entries?, resolve_ofValue]

namespace Schema

variable {d : Document} {v : Value} {entries : List (Value × Value)} {path : List String}

theorem typeComplaints_eq_nil_iff {type : SchemaType} :
    typeComplaints d v type = [] ↔ type.admits d v = true := by
  simp [typeComplaints]

theorem missingComplaints_eq_nil_iff {required : List String} :
    missingComplaints required entries = [] ↔
      ∀ name ∈ required, (Value.find? name entries).isSome = true := by
  simp [missingComplaints, List.filter_eq_nil_iff, Option.ne_none_iff_isSome]

theorem enumComplaints_eq_nil_iff {texts : List String} :
    enumComplaints d v texts = [] ↔ ∃ text ∈ texts, v = .text text := by
  simp [enumComplaints, ← Value.text?_eq_some_iff]

theorem minimumComplaints_eq_nil_iff {limit : Int} :
    minimumComplaints v limit = [] ↔ v.isBelow limit = false := by
  simp [minimumComplaints]

theorem maximumComplaints_eq_nil_iff {limit : Int} :
    maximumComplaints v limit = [] ↔ v.isAbove limit = false := by
  simp [maximumComplaints]

theorem patternComplaints_eq_nil_iff {pattern : String} :
    patternComplaints v pattern = [] ↔
      ∀ text ∈ v.text?, literal pattern.toList <:+: text.toList := by
  unfold patternComplaints
  cases v.text? <;> simp [← Text.contains_iff_infix]

theorem extraComplaints_eq_nil_iff {known : List String} :
    extraComplaints known entries = [] ↔ ∀ e ∈ entries, ∃ name ∈ known, e.1 = .text name := by
  have every : extraKeys known entries = [] ↔
      ∀ e ∈ entries, ∃ name ∈ known, e.1 = .text name := by
    simp [extraKeys, List.filter_eq_nil_iff, Value.sameKey_text_iff]
  rw [← every, extraComplaints]
  cases extraKeys known entries <;> simp

theorem found_eq_nil_iff {keyword : Option α} {complaints : α → List Complaint} :
    found keyword complaints = [] ↔ ∀ a ∈ keyword, complaints a = [] := by
  cases keyword <;> simp [found]

/-- Every keyword is asked of the value itself, but for the schemas of its entries. -/
theorem holds_iff {s : Schema} : s.Holds d v ↔ s.type.admits d v = true ∧
    (∀ entries ∈ d.entries? v, (∀ name ∈ s.required, (Value.find? name entries).isSome = true) ∧
      (∀ property ∈ s.properties, ∀ u ∈ Value.find? property.1 entries, property.2.Holds d u) ∧
      (s.additionalProperties = false →
        ∀ e ∈ entries, ∃ property ∈ s.properties, e.1 = .text property.1)) ∧
    (∀ texts ∈ s.enum, ∃ text ∈ texts, v = .text text) ∧
    (∀ n ∈ s.minimum, v.isBelow n = false) ∧ (∀ n ∈ s.maximum, v.isAbove n = false) ∧
    ∀ p ∈ s.pattern, ∀ text ∈ v.text?, literal p.toList <:+: text.toList := by
  constructor
  · rintro ⟨type, required, properties, additional, enum, minimum, maximum, pattern⟩
    exact ⟨type, fun entries given => ⟨required entries given, properties entries given,
      fun closed => additional closed entries given⟩, enum, minimum, maximum, pattern⟩
  · rintro ⟨type, inner, enum, minimum, maximum, pattern⟩
    exact .intro type (fun entries given => (inner entries given).1)
      (fun entries given => (inner entries given).2.1)
      (fun closed entries given => (inner entries given).2.2 closed) enum minimum maximum pattern

mutual

theorem violations_eq_nil_iff (s : Schema) (path : List String) (v : Value) :
    violations d path v s = [] ↔ s.Holds d v := by
  obtain ⟨type, required, properties, additionalProperties, enum, minimum, maximum, pattern⟩ := s
  have inner := propertyViolations_eq_nil_iff properties path
  rw [holds_iff, violations]
  simp only [List.append_eq_nil_iff, List.map_eq_nil_iff, typeComplaints_eq_nil_iff,
    found_eq_nil_iff, enumComplaints_eq_nil_iff, minimumComplaints_eq_nil_iff,
    maximumComplaints_eq_nil_iff, patternComplaints_eq_nil_iff, inner]
  cases d.entries? v with
  | none =>
    have absent (name : String) : Value.find? name [] = none := rfl
    cases additionalProperties <;> simp [absent, extraComplaints, extraKeys] <;> tauto
  | some entries =>
    cases additionalProperties <;>
      simp [missingComplaints_eq_nil_iff, extraComplaints_eq_nil_iff] <;> tauto

theorem propertyViolations_eq_nil_iff (properties : List (String × Schema)) (path : List String)
    (entries : List (Value × Value)) : propertyViolations d path entries properties = [] ↔
      ∀ property ∈ properties, ∀ u ∈ Value.find? property.1 entries, property.2.Holds d u := by
  match properties with
  | [] => simp [propertyViolations]
  | (name, s) :: rest =>
    rw [propertyViolations, List.append_eq_nil_iff, propertyViolations_eq_nil_iff rest path entries,
      List.forall_mem_cons]
    refine and_congr_left' ?_
    cases Value.find? name entries <;> simp [violations_eq_nil_iff s (path ++ [name])]

end

theorem check_eq_valid_iff {s : Schema} : s.check d = .valid ↔ s.Holds d d.root := by
  rw [← violations_eq_nil_iff s [], check]
  cases s.violations d [] d.root with
  | nil => exact iff_of_true rfl rfl
  | cons violation rest =>
    simp only [reduceCtorEq, iff_false]
    split <;> exact nofun

theorem isSound_check : Checker.IsSound check := fun _ => check_eq_valid_iff

theorem admits_string_iff : SchemaType.string.admits d v = true ↔ ∃ s, v = .text s := by
  simp [SchemaType.admits, Option.isSome_iff_exists, Value.text?_eq_some_iff]

theorem holds_string : Holds d { type := .string } v ↔ ∃ s, v = .text s := by
  rw [holds_iff, admits_string_iff]
  simp

theorem holds_enum {texts : List String} :
    Holds d { type := .string, enum := some texts } v ↔ ∃ s ∈ texts, v = .text s := by
  rw [holds_iff, admits_string_iff]
  constructor
  · rintro ⟨-, -, enum, -⟩
    exact enum texts rfl
  · rintro ⟨s, member, rfl⟩
    simpa using member

theorem holds_pattern {pattern : String} :
    Holds d { type := .string, pattern := some pattern } v ↔
      ∃ s, v = .text s ∧ literal pattern.toList <:+: s.toList := by
  rw [holds_iff, admits_string_iff]
  constructor
  · rintro ⟨⟨s, rfl⟩, -, -, -, -, pattern⟩
    exact ⟨s, rfl, pattern _ rfl s rfl⟩
  · rintro ⟨s, rfl, found⟩
    simpa [Value.text?] using found

theorem holds_object {required : List String} {properties : List (String × Schema)} :
    Holds d { type := .object, required, properties, additionalProperties := false } v ↔
      ∃ entries, d.entries? v = some entries ∧
        (∀ name ∈ required, (Value.find? name entries).isSome = true) ∧
        (∀ property ∈ properties, ∀ u ∈ Value.find? property.1 entries, property.2.Holds d u) ∧
        ∀ e ∈ entries, ∃ property ∈ properties, e.1 = .text property.1 := by
  rw [holds_iff]
  cases given : d.entries? v <;> simp [SchemaType.admits, given]

/-- A number, not a truth value, that equals an integer between the limits. -/
theorem holds_integer {least greatest : Int} :
    Holds d { type := .integer, minimum := some least, maximum := some greatest } v ↔
      ∃ n : Int, (v = .int n ∨ ∃ x, v = .real x ∧ x.toInt? = some n) ∧
        least ≤ n ∧ n ≤ greatest := by
  have checks : Holds d { type := .integer, minimum := some least, maximum := some greatest } v ↔
      SchemaType.integer.admits d v = true ∧ v.isBelow least = false ∧
        v.isAbove greatest = false := by
    rw [holds_iff]
    simp
  rw [checks]
  cases v with
  | int n => simp [SchemaType.admits, Value.isBelow, Value.isAbove]
  | real x =>
    simp only [SchemaType.admits, Value.isBelow, Value.isAbove, ← Bool.not_eq_true, reduceCtorEq,
      Value.real.injEq, exists_eq_left', false_or]
    constructor
    · rintro ⟨integral, below, above⟩
      obtain ⟨n, found, order⟩ := Binary64.exists_of_isIntegral integral
      rw [(order least).1] at below
      rw [(order greatest).2] at above
      exact ⟨n, found, by omega, by omega⟩
    · rintro ⟨n, found, below, above⟩
      have integral := Binary64.isIntegral_of_toInt? found
      obtain ⟨m, same, order⟩ := Binary64.exists_of_isIntegral integral
      rw [(order least).1, (order greatest).2, Option.some.inj (same.symm.trans found)]
      exact ⟨integral, by omega, by omega⟩
  | _ => simp [SchemaType.admits]

end Schema

end Disasm32
