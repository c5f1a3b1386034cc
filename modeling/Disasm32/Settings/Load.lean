import Disasm32.Files.Basic
import Disasm32.Host
import Disasm32.Settings.Section

/-! Settings come from a file, or else are built in under a name, or else are the usual ones. A
document gives settings if the checker passes it and its message for unknown words can be filled
in. -/
namespace Disasm32

inductive SettingsError where
  | rejected (source message : String)
  /-- The checker cannot write its message. -/
  | unwritable (message : String)
  /-- The checker passes values that are none of settings. -/
  | untyped
  | badTemplate (source template : String) (cause : TemplateError)
  /-- The message for unknown words fails with an error that is not expected of a bad one. -/
  | escaped (cause : TemplateError)
  deriving DecidableEq, Repr

def SettingsError.message : SettingsError → String
  | rejected source message => "Invalid config file " ++ source ++ ": " ++ message
  | unwritable message => message
  | untyped => ""
  | badTemplate source template cause =>
    "Invalid config file " ++ source ++ ": bad invalid_format '" ++ template ++ "': " ++
      cause.message
  | escaped cause => cause.message

inductive LoadError where
  | file (cause : FileError)
  | markup (cause : MarkupFault)
  | settings (cause : SettingsError)
  | unknownTarget (name : String)
  deriving DecidableEq, Repr

def LoadError.message : LoadError → String
  | file cause => cause.message
  | markup cause => cause.message
  | settings cause => cause.message
  | unknownTarget name => "Unknown builtin target '" ++ name ++ "'"

namespace Settings

/-- What a section describes; without it the usual settings hold. -/
def part? (d : Document) (usual : α) (ofEntries? : List (Value × Value) → Option α) :
    Option Value → Option α
  | some v => (d.entries? v).bind ofEntries?
  | none => some usual

def read? (d : Document) : Option Settings := do
  let entries ← d.entries? d.root
  let name ← (Value.find? "name" entries).bind Value.text?
  let display ← part? d {} (fun inner => (DisplaySection.ofEntries inner).display?)
    (Value.find? "display" entries)
  let trace ← part? d {} (fun inner => (TraceSection.ofEntries inner).settings?)
    (Value.find? "trace" entries)
  return ⟨name, display, trace⟩

/-- The settings if their message for unknown words can be filled in for the word zero. -/
def tried (host : Host) (source : String) (s : Settings) : Except SettingsError Settings :=
  match Template.render host.members s.display.invalidFormat 0 with
  | .ok _ => .ok s
  | .error cause =>
    .error (if cause.escapes then .escaped cause
      else .badTemplate source s.display.invalidFormat cause)

def ofDocument (host : Host) (d : Document) (source : String) : Except SettingsError Settings :=
  match host.check configSchema d with
  | .invalid message => .error (.rejected source message)
  | .unwritable message => .error (.unwritable message)
  | .valid => match read? d with
    | some s => tried host source s
    | none => .error .untyped

def ofValue (host : Host) (v : Value) (source : String) : Except SettingsError Settings :=
  ofDocument host (.ofValue v) source

def builtin : List Settings :=
  [{ name := "default" }, { name := "abi", display := { registerNames := .abi } }]

def fromFile (host : Host) (read : FileReader) (path : String) : Except LoadError Settings := do
  let source := Path.normal path
  let bytes ← (read source).mapError .file
  let document ← (host.load source bytes).mapError .markup
  (ofDocument host document source).mapError .settings

def ofTarget (name : String) : Except LoadError Settings :=
  match builtin.find? (·.name == name) with
  | some settings => .ok settings
  | none => .error (.unknownTarget name)

/-- The settings of a file, of a name, or the usual ones; an empty path or name counts as none. -/
def load (host : Host) (read : FileReader) (path? target? : Option String) :
    Except LoadError Settings :=
  match path?.filter (· != ""), target?.filter (· != "") with
  | some path, _ => fromFile host read path
  | none, some name => ofTarget name
  | none, none => .ok {}

end Settings

end Disasm32
