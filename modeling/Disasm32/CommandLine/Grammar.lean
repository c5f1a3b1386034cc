import Disasm32.Text.Blank

/-! What may stand on the command line of a command: switches, some of them with a value, and at
most one kind of operand. Every command has a switch that asks for help. -/
namespace Disasm32.CommandLine

/-- A switch with its long name and perhaps a letter; it takes a value if that has a name. -/
structure Switch where
  letter? : Option Char
  long : String
  value? : Option String
  help : String
  deriving DecidableEq, Repr

inductive Arity where
  | one
  | many
  /-- The name of another command with its own arguments, or none. -/
  | command
  deriving DecidableEq, Repr

structure Operand where
  name : String
  arity : Arity
  help : String
  deriving DecidableEq, Repr

/-- Text at the end of a help page: to be filled into lines, or lines as they are. -/
inductive Prose where
  | filled (text : String)
  | verbatim (lines : List String)
  deriving DecidableEq, Repr

structure Grammar where
  /-- The words that call the command. -/
  name : String
  description : Option String := none
  switches : List Switch := []
  operand? : Option Operand := none
  /-- The commands below this one, each with its help. -/
  commands : List (String × String) := []
  epilog : Option Prose := none
  deriving DecidableEq, Repr

namespace Switch

def askHelp : Switch := ⟨some 'h', "help", none, "show this help message and exit"⟩

def spellings (s : Switch) : List String :=
  (s.letter?.map fun c => String.ofList ['-', c]).toList ++ ["--" ++ s.long]

end Switch

namespace Grammar

def arity? (g : Grammar) : Option Arity := g.operand?.map (·.arity)

def allSwitches (g : Grammar) : List Switch := Switch.askHelp :: g.switches

def spellings (g : Grammar) : List (String × Switch) :=
  g.allSwitches.flatMap fun s => s.spellings.map fun spelling => (spelling, s)

def switch? (g : Grammar) (spelling : String) : Option Switch :=
  (g.spellings.find? (·.1 == spelling)).map (·.2)

end Grammar

end Disasm32.CommandLine
