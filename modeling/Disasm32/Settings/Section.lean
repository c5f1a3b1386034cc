import Disasm32.Display
import Disasm32.Document.Value
import Disasm32.Text.Blank

/-! The settings of the program, and the two sections of a settings document with the defaults for
the keys that are missing. -/
namespace Disasm32

structure TraceSettings where
  instructionData : String := "instr_rdata_i"
  testbenchPrefix : String := ""
  deriving DecidableEq, Repr

structure Settings where
  name : String := "default"
  display : Display := {}
  trace : TraceSettings := {}
  deriving DecidableEq, Repr

structure DisplaySection where
  mnemonicWidth : Value
  registerNames : Value
  invalidFormat : Value

structure TraceSection where
  instructionData : Value
  testbenchPrefix : Value

inductive SectionError where
  /-- Values of that type are not looked up by key. -/
  | noLookup (type : String)
  /-- Values of that type hold nothing. -/
  | noItems (type : String)
  /-- A text holds a key as a part. -/
  | textIndex
  /-- A sequence holds a key as an item. -/
  | sequenceIndex
  deriving DecidableEq, Repr

def SectionError.message : SectionError → String
  | noLookup type => "'" ++ type ++ "' object has no attribute 'get'"
  | noItems type => "argument of type '" ++ type ++ "' is not iterable"
  | textIndex => "string indices must be integers, not 'str'"
  | sequenceIndex => "list indices must be integers or slices, not str"

def Value.typeName : Value → String
  | null => "NoneType"
  | bool _ => "bool"
  | int _ => "int"
  | real _ => "float"
  | text _ => "str"
  | bytes _ => "bytes"
  | date .. => "datetime.date"
  | moment _ => "datetime.datetime"
  | sequence _ => "list"
  | pair .. => "tuple"
  | set _ => "set"
  | mapping _ => "dict"
  | shared _ isMapping => if isMapping then "dict" else "list"

def RegisterNames.word : RegisterNames → String
  | .numeric => "numeric"
  | .abi => "abi"

/-- Any word other than that for the roles means numbers. -/
def RegisterNames.ofWord (s : String) : RegisterNames :=
  if s = "abi" then .abi else .numeric

def ColumnWidth.value : ColumnWidth → Value
  | .columns n => .int n
  | .real x => .real x

def ColumnWidth.ofValue? : Value → Option ColumnWidth
  | .int n => some (.columns n)
  | .real x => some (.real x)
  | _ => none

namespace DisplaySection

def ofEntries (entries : List (Value × Value)) : DisplaySection :=
  let usual : Display := {}
  { mnemonicWidth := (Value.find? "mnemonic_width" entries).getD usual.mnemonicWidth.value
    registerNames :=
      (Value.find? "register_names" entries).getD (.text usual.registerNames.word)
    invalidFormat := (Value.find? "invalid_format" entries).getD (.text usual.invalidFormat) }

def ofValue : Value → Except SectionError DisplaySection
  | .mapping entries => .ok (ofEntries entries)
  | v => .error (.noLookup v.typeName)

def display? (s : DisplaySection) : Option Display := do
  let width ← ColumnWidth.ofValue? s.mnemonicWidth
  let word ← s.registerNames.text?
  let format ← s.invalidFormat.text?
  return ⟨width, RegisterNames.ofWord word, format⟩

end DisplaySection

namespace TraceSection

def ofEntries (entries : List (Value × Value)) : TraceSection :=
  let usual : TraceSettings := {}
  { instructionData :=
      (Value.find? "instruction_data" entries).getD (.text usual.instructionData)
    testbenchPrefix :=
      (Value.find? "testbench_prefix" entries).getD (.text usual.testbenchPrefix) }

def keys : List String := ["instruction_data", "testbench_prefix"]

/-- The section that a value is. A text or a sequence without a key in it counts as an empty
section. -/
def ofValue : Value → Except SectionError TraceSection
  | .mapping entries => .ok (ofEntries entries)
  | .text s =>
    if keys.any fun key => Text.contains key.toList s.toList then .error .textIndex
    else .ok (ofEntries [])
  | .sequence items =>
    if keys.any fun key => items.any (·.sameKey (.text key)) then .error .sequenceIndex
    else .ok (ofEntries [])
  | v => .error (.noItems v.typeName)

def settings? (s : TraceSection) : Option TraceSettings := do
  let data ← s.instructionData.text?
  let stem ← s.testbenchPrefix.text?
  return ⟨data, stem⟩

end TraceSection

end Disasm32
