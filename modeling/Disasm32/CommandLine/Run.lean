import Disasm32.CommandLine.Arguments
import Disasm32.CommandLine.Commands
import Disasm32.CommandLine.Decode
import Disasm32.CommandLine.Help
import Disasm32.CommandLine.Registers
import Disasm32.CommandLine.SelfTest
import Disasm32.CommandLine.Trace

/-! From the arguments of the program to its report. -/
namespace Disasm32.CommandLine

def helpReport (g : Grammar) : Report := .lines g.helpLines

def stopReport (g : Grammar) : Stop → Report
  | .help => helpReport g
  | .usage e =>
    { complaints := "\n".intercalate (g.usageLines ++ [g.name ++ ": error: " ++ e.message]) ++ "\n"
      ending := .ok 2 }

def traceRequest (a : Arguments) : TraceRequest :=
  { dump := a.operand
    signal? := a.value? "signal"
    scope? := (a.values? "strip-prefix").map (·.headD "")
    settings? := a.value? "config"
    target? := a.value? "target"
    verbose := a.has "verbose" }

def runTrace (env : Environment) (arguments : List String) : Report :=
  match traceGrammar.read arguments with
  | .error stop => stopReport traceGrammar stop
  | .ok a => traceDump env (traceRequest a)

/-- The text of the value of a switch; a switch given without one has the text of an empty list. -/
def Arguments.valueText? (a : Arguments) (long : String) : Option String :=
  (a.values? long).map (·.headD "[]")

/-- The arguments of the tracing tool for those of the command. An empty signal or target counts
as none. -/
def traceArguments (a : Arguments) : List String :=
  let setting (name : String) (value? : Option String) : List String :=
    match value? with
    | some value => [name, value]
    | none => []
  [a.operand] ++ setting "--signal" ((a.value? "signal").filter (· != "")) ++
    setting "--strip-prefix" (a.valueText? "strip-prefix") ++
    setting "--config" ((a.value? "config").map Path.normal) ++
    setting "--target" ((a.value? "target").filter (· != "")) ++
    (if a.has "verbose" then ["-v"] else [])

def Command.run (env : Environment) (a : Arguments) : Command → Report
  | .decode => withSettings env (a.value? "config") (a.value? "target") fun settings =>
      decodeWords env.host.members settings.display (a.has "verbose") a.operands
  | .disasm => withSettings env (a.value? "config") (a.value? "target") fun settings =>
      decodeFile env settings.display ((a.values? "base").getD ["0"]) a.operand
  | .csr => nameRegisters a.operands
  | .trace => runTrace env (traceArguments a)
  | .test => selfTest usualVectors
  | .version => .line (program ++ " version " ++ programVersion)

/-- Runs the command of that name; `extra` are arguments before it that belong to nothing. -/
def runCommand (env : Environment) (name : String) (arguments extra : List String) : Report :=
  match Command.ofName? name with
  | none =>
    stopReport mainGrammar
      (.usage (.unknownCommand "command" name (Command.all.map Command.name)))
  | some c => match c.grammar.readKnown arguments with
    | .error stop => stopReport c.grammar stop
    | .ok a =>
      if (extra ++ a.extra).isEmpty then c.run env a
      else stopReport mainGrammar (.usage (.unrecognized (extra ++ a.extra)))

/-- Runs the program. Without a command it shows its help page. -/
def run (env : Environment) (arguments : List String) : Report :=
  match mainGrammar.readKnown arguments with
  | .error stop => stopReport mainGrammar stop
  | .ok a => match a.operands with
    | name :: rest => runCommand env name rest a.extra
    | [] => stopReport mainGrammar
        (if a.extra.isEmpty then .help else .usage (.unrecognized a.extra))

/-- The paths of the files that a run of the program may read. -/
def pathsRead (arguments : List String) : List String :=
  match mainGrammar.readKnown arguments with
  | .error _ => []
  | .ok main =>
    match Command.ofName? main.operand with
    | none => []
    | some c =>
      match c.grammar.readKnown main.operands.tail with
      | .error _ => []
      | .ok a =>
        ((a.value? "config").map Path.normal).toList ++
          (if c = .disasm ∨ c = .trace then [a.operand] else [])

end Disasm32.CommandLine
