import Disasm32.Settings.Complaint
import Disasm32.Settings.Schema
import Disasm32.Text.Blank

/-! The checker that the program runs with. It finds every violation of a schema, keyword by
keyword, and reports one of them. -/
namespace Disasm32

namespace Schema

variable (d : Document) (v : Value)

def typeComplaints (type : SchemaType) : List Complaint :=
  if type.admits d v then [] else [.notA type.name (d.expand v)]

def missingComplaints (required : List String) (entries : List (Value × Value)) : List Complaint :=
  (required.filter fun name => (Value.find? name entries).isNone).map .missing

def enumComplaints (texts : List String) : List Complaint :=
  if texts.any (v.text? == some ·) then [] else [.notOneOf (d.expand v) texts]

def minimumComplaints (limit : Int) : List Complaint :=
  if v.isBelow limit then [.below v limit] else []

def maximumComplaints (limit : Int) : List Complaint :=
  if v.isAbove limit then [.above v limit] else []

def patternComplaints (pattern : String) : List Complaint :=
  match v.text? with
  | some text =>
    if Text.contains (literal pattern.toList) text.toList then [] else [.noMatch v pattern]
  | none => []

def extraKeys (known : List String) (entries : List (Value × Value)) : List Value :=
  (entries.map (·.1)).filter fun key => !known.any fun name => key.sameKey (.text name)

def extraComplaints (known : List String) (entries : List (Value × Value)) : List Complaint :=
  match extraKeys known entries with
  | [] => []
  | keys => [.unexpected keys]

def found (keyword : Option α) (complaints : α → List Complaint) : List Complaint :=
  match keyword with
  | some a => complaints a
  | none => []

mutual

def violations (d : Document) (path : List String) (v : Value) : Schema → List Violation
  | ⟨type, required, properties, additionalProperties, enum, minimum, maximum, pattern⟩ =>
    let entries := (d.entries? v).getD []
    let here (complaints : List Complaint) := complaints.map (Violation.mk path)
    here (typeComplaints d v type) ++
      here (if (d.entries? v).isSome then missingComplaints required entries else []) ++
      propertyViolations d path entries properties ++
      here (found enum (enumComplaints d v)) ++
      here (found minimum (minimumComplaints v)) ++
      here (found maximum (maximumComplaints v)) ++
      here (found pattern (patternComplaints v)) ++
      here (if additionalProperties then [] else extraComplaints (properties.map (·.1)) entries)

def propertyViolations (d : Document) (path : List String) (entries : List (Value × Value)) :
    List (String × Schema) → List Violation
  | [] => []
  | (name, s) :: rest =>
    (match Value.find? name entries with
      | some u => violations d (path ++ [name]) u s
      | none => []) ++
      propertyViolations d path entries rest

end

/-- The text of every violation has to be written, though one is reported. -/
def check (s : Schema) (d : Document) : Verdict :=
  let found := s.violations d [] d.root
  if !found.all (·.complaint.isWritable) then .unwritable (Literal.limitMessage "")
  else match Violation.reported? found with
    | some violation => .invalid violation.complaint.message
    | none => .valid

end Schema

end Disasm32
