import Disasm32.CommandLine.Grammar
import Disasm32.Text.Digits
import Disasm32.Text.Fill

/-! The usage line and the help page of a command, for a terminal of 80 columns. -/
namespace Disasm32.CommandLine

def pageWidth : Nat := 78

def maxColumn : Nat := 24

def blanks (n : Nat) : String := String.ofList (List.replicate n ' ')

def Switch.withValue (s : Switch) (spelling : String) : String :=
  match s.value? with
  | none => spelling
  | some value => spelling ++ " " ++ value

def Switch.usage (s : Switch) : String :=
  "[" ++ s.withValue (s.spellings.headD "") ++ "]"

def Switch.heading (s : Switch) : String :=
  ", ".intercalate (s.spellings.map s.withValue)

namespace Grammar

def choices (g : Grammar) : String :=
  "\x7b" ++ ",".intercalate (g.commands.map (·.1)) ++ "\x7d"

def operandHeading (g : Grammar) (operand : Operand) : String :=
  if operand.arity = .command then g.choices else operand.name

def operandUsage (g : Grammar) (operand : Operand) : List String :=
  match operand.arity with
  | .one => [operand.name]
  | .many => [operand.name, "[" ++ operand.name ++ " ...]"]
  | .command => [g.choices, "..."]

/-- The usage line of a command. If it is too long, switches and operands stand on lines of their
own. -/
def usageLines (g : Grammar) : List String :=
  let start := "usage: " ++ g.name ++ " "
  let switches := g.allSwitches.map Switch.usage
  let operands := (g.operand?.map g.operandUsage).getD []
  let whole := start ++ " ".intercalate (switches ++ operands)
  if whole.length ≤ pageWidth then [whole]
  else
    let indent := start.length
    let lines (parts : List String) : List String :=
      (Text.fillPieces (pageWidth - indent) (parts.map (⟨true, ·.toList⟩))).map String.ofList
    (lines switches ++ lines operands).mapIdx fun i line =>
      (if i = 0 then start else blanks indent) ++ line

def column (g : Grammar) : Nat :=
  let headings := (g.operand?.map g.operandHeading).toList ++ g.commands.map (·.1) ++
    g.allSwitches.map Switch.heading
  min maxColumn (headings.foldl (fun n heading => max n heading.length) 0 + 4)

/-- A heading with its explanation, which begins below it if the heading is too long. -/
def entry (column indent : Nat) (heading help : String) : List String :=
  let width := column - indent - 2
  let lines := (Text.fill (pageWidth - column) help.toList).map String.ofList
  match lines with
  | [] => [blanks indent ++ heading]
  | first :: more =>
    let below := more.map (blanks column ++ ·)
    if heading.length ≤ width then
      (blanks indent ++ String.ofList (Digits.padRight ' ' width heading.toList) ++ "  " ++ first)
        :: below
    else (blanks indent ++ heading) :: (blanks column ++ first) :: below

def operandEntries (g : Grammar) (operand : Operand) : List String :=
  "positional arguments:" :: entry g.column 2 (g.operandHeading operand) operand.help ++
    g.commands.flatMap fun (name, help) => entry g.column 4 name help

def switchEntries (g : Grammar) : List String :=
  "options:" :: g.allSwitches.flatMap fun s => entry g.column 2 s.heading s.help

def proseLines : Prose → List String
  | .filled text => (Text.fill pageWidth text.toList).map String.ofList
  | .verbatim lines => lines

def helpLines (g : Grammar) : List String :=
  let sections := [g.usageLines] ++ (g.description.map fun d => proseLines (.filled d)).toList ++
    (g.operand?.map g.operandEntries).toList ++ [g.switchEntries] ++
    (g.epilog.map proseLines).toList
  [""].intercalate sections

end Grammar

end Disasm32.CommandLine
