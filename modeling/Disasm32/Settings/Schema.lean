import Disasm32.Document.Basic

/-! The schema of settings documents, in the keywords that it uses, and what these keywords ask of
a value. A document is checked against it by a checker from outside. -/
namespace Disasm32

inductive SchemaType where
  | object
  | string
  | integer
  deriving DecidableEq, Repr

structure Schema where
  type : SchemaType
  required : List String := []
  properties : List (String × Schema) := []
  additionalProperties : Bool := true
  /-- The texts that are allowed. -/
  enum : Option (List String) := none
  minimum : Option Int := none
  maximum : Option Int := none
  /-- A regular expression that is searched for in a text. -/
  pattern : Option String := none

def displaySchema : Schema :=
  { type := .object
    properties :=
      [("mnemonic_width", { type := .integer, minimum := some 1, maximum := some 32 }),
       ("register_names", { type := .string, enum := some ["numeric", "abi"] }),
       ("invalid_format", { type := .string, pattern := some "\\\x7bword" })]
    additionalProperties := false }

def traceSchema : Schema :=
  { type := .object
    properties :=
      [("instruction_data", { type := .string }), ("testbench_prefix", { type := .string })]
    additionalProperties := false }

def configSchema : Schema :=
  { type := .object
    required := ["name"]
    properties := [("name", { type := .string }), ("display", displaySchema), ("trace", traceSchema)]
    additionalProperties := false }

def SchemaType.name : SchemaType → String
  | object => "object"
  | string => "string"
  | integer => "integer"

/-- Whether a value has a type. A real number with an integral value counts as an integer, a truth
value does not. -/
def SchemaType.admits (d : Document) : SchemaType → Value → Bool
  | object, v => (d.entries? v).isSome
  | string, v => v.text?.isSome
  | integer, .int _ => true
  | integer, .real x => x.isIntegral
  | integer, _ => false

namespace Value

def isBelow (v : Value) (limit : Int) : Bool :=
  match v with
  | int n => n < limit
  | real x => x.ltInt limit
  | _ => false

def isAbove (v : Value) (limit : Int) : Bool :=
  match v with
  | int n => limit < n
  | real x => x.gtInt limit
  | _ => false

end Value

namespace Schema

/-- The text that a regular expression without operators stands for; a backslash takes a character
as it is. -/
def literal : List Char → List Char
  | '\\' :: c :: cs => c :: literal cs
  | c :: cs => c :: literal cs
  | [] => []

/-- The value is as the schema says. Every keyword asks something of the values of its type, and
nothing of others. -/
inductive Holds (d : Document) : Schema → Value → Prop where
  | intro {s : Schema} {v : Value}
      (type : s.type.admits d v = true)
      (required : ∀ entries ∈ d.entries? v, ∀ name ∈ s.required,
        (Value.find? name entries).isSome = true)
      (properties : ∀ entries ∈ d.entries? v, ∀ property ∈ s.properties,
        ∀ u ∈ Value.find? property.1 entries, Holds d property.2 u)
      (additional : s.additionalProperties = false → ∀ entries ∈ d.entries? v, ∀ e ∈ entries,
        ∃ property ∈ s.properties, e.1 = .text property.1)
      (enum : ∀ texts ∈ s.enum, ∃ text ∈ texts, v = .text text)
      (minimum : ∀ n ∈ s.minimum, v.isBelow n = false)
      (maximum : ∀ n ∈ s.maximum, v.isAbove n = false)
      (pattern : ∀ p ∈ s.pattern, ∀ text ∈ v.text?, literal p.toList <:+: text.toList) :
      Holds d s v

end Schema

inductive Verdict where
  | valid
  | invalid (message : String)
  /-- A number in the message has too many digits to be written. -/
  | unwritable (message : String)
  deriving DecidableEq, Repr

abbrev Checker := Schema → Document → Verdict

/-- The checker passes the documents that are as the schema of settings says, and no others. -/
def Checker.IsSound (check : Checker) : Prop :=
  ∀ d, check configSchema d = .valid ↔ configSchema.Holds d d.root

end Disasm32
