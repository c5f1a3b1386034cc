import Disasm32.CommandLine.Grammar
import Disasm32.Text.DecimalDigit
import Disasm32.Text.Quoted

/-! The arguments of a command read by its grammar. Switches and operands may be mixed, the operands
stand together, and after `--` everything is an operand. A long name may be cut short as long as
only one switch begins so. Letters may share a dash; the last of them may take a value. -/
namespace Disasm32.CommandLine

inductive UsageError where
  | ambiguous (argument : String) (spellings : List String)
  | expectedValue (s : Switch)
  | unusedValue (s : Switch) (value : String)
  | missing (operand : String)
  | unknownCommand (operand name : String) (names : List String)
  | unrecognized (arguments : List String)
  deriving DecidableEq, Repr

namespace UsageError

def about (name problem : String) : String := "argument " ++ name ++ ": " ++ problem

def switchName (s : Switch) : String := "/".intercalate s.spellings

def message : UsageError → String
  | ambiguous argument spellings =>
    "ambiguous option: " ++ argument ++ " could match " ++ ", ".intercalate spellings
  | expectedValue s => about (switchName s) "expected one argument"
  | unusedValue s value =>
    about (switchName s) ("ignored explicit argument " ++ Text.Quoted.text value)
  | missing operand => "the following arguments are required: " ++ operand
  | unknownCommand operand name names =>
    about operand ("invalid choice: " ++ Text.Quoted.text name ++ " (choose from " ++
      ", ".intercalate (names.map Text.Quoted.text) ++ ")")
  | unrecognized arguments => "unrecognized arguments: " ++ " ".intercalate arguments

end UsageError

inductive Role where
  | operand
  /-- The two dashes after which everything is an operand. -/
  | separator
  /-- A switch; `short` if it is written with one dash. Text may be attached to it. -/
  | switch (s : Switch) (short : Bool) (attached? : Option (List Char))
  | unknown
  deriving DecidableEq, Repr

/-- Whether a text is a number with a minus sign, which is no switch; a line feed may follow. -/
def isNegativeNumber (cs : List Char) : Bool :=
  let isDigit (c : Char) : Bool := (Text.decimalDigit? c).isSome
  let cs := if cs.getLast? = some '\n' then cs.dropLast else cs
  match cs with
  | '-' :: rest =>
    match rest.dropWhile isDigit with
    | [] => !rest.isEmpty
    | '.' :: places => !places.isEmpty && places.all isDigit
    | _ => false
  | _ => false

def splitValue (cs : List Char) : List Char × Option (List Char) :=
  match cs.dropWhile (· != '=') with
  | [] => (cs, none)
  | _ :: value => (cs.takeWhile (· != '='), some value)

namespace Grammar

/-- The spellings that an argument can stand for that is none itself: long names that begin so, or
the letter that a value is attached to. -/
def candidates (g : Grammar) (cs : List Char) : List (String × Role) :=
  match cs with
  | '-' :: '-' :: _ =>
    let (start, value?) := splitValue cs
    (g.spellings.filter fun (spelling, _) => start.isPrefixOf spelling.toList).map
      fun (spelling, s) => (spelling, .switch s false value?)
  | '-' :: c :: value =>
    (g.spellings.filter (·.1 == String.ofList ['-', c])).map
      fun (spelling, s) => (spelling, .switch s true (some value))
  | _ => []

def role (g : Grammar) (argument : String) : Except UsageError Role :=
  let cs := argument.toList
  match cs with
  | '-' :: second :: _ =>
    let short := second != '-'
    match g.switch? argument with
    | some s => .ok (.switch s short none)
    | none =>
      let (start, value?) := splitValue cs
      match value?, g.switch? (String.ofList start) with
      | some value, some s => .ok (.switch s short (some value))
      | _, _ =>
        match g.candidates cs with
        | [(_, role)] => .ok role
        | _ :: _ :: _ => .error (.ambiguous argument ((g.candidates cs).map (·.1)))
        | [] => .ok (if isNegativeNumber cs || cs.contains ' ' then .operand else .unknown)
  | _ => .ok .operand

def roles (g : Grammar) : List String → Except UsageError (List (String × Role))
  | [] => .ok []
  | argument :: rest =>
    if argument = "--" then
      .ok ((argument, .separator) :: rest.map fun operand => (operand, .operand))
    else do
      let role ← g.role argument
      return (argument, role) :: (← g.roles rest)

end Grammar

structure Arguments where
  /-- The switches in the order given, by their long names, each with its values. -/
  settings : List (String × List String) := []
  /-- The operands, if there are any. -/
  operands? : Option (List String) := none
  /-- The arguments that belong to nothing. -/
  extra : List String := []
  deriving DecidableEq, Repr

namespace Arguments

def has (a : Arguments) (long : String) : Bool := a.settings.any (·.1 == long)

/-- The values of a switch, if it is given; the last one counts. -/
def values? (a : Arguments) (long : String) : Option (List String) :=
  (a.settings.reverse.find? (·.1 == long)).map (·.2)

def value? (a : Arguments) (long : String) : Option String :=
  (a.values? long).bind (·.head?)

def operands (a : Arguments) : List String := a.operands?.getD []

def operand (a : Arguments) : String := a.operands.headD ""

end Arguments

/-- How the reading of arguments ends when they are not for the command to carry out. -/
inductive Stop where
  | help
  | usage (e : UsageError)
  deriving DecidableEq, Repr

inductive Phase where
  | before
  | among
  | after
  deriving DecidableEq, Repr

structure Expansion where
  settings : List (String × List String) := []
  /-- The last switch, if the next argument is its value. -/
  open? : Option Switch := none

def Switch.alone (s : Switch) : Expansion :=
  if s.value?.isSome then { open? := some s } else { settings := [(s.long, [])] }

/-- The values that an attached text gives; two dashes are no value. -/
def attachedValues (text : List Char) : List String :=
  [String.ofList text].filter (· != "--")

namespace Grammar

/-- The switches of an argument that attaches text to a switch. Text that is no value of a switch
with one dash is further letters, each of them a switch. -/
def attached (g : Grammar) (s : Switch) (short : Bool) : List Char → Except UsageError Expansion
  | [] =>
    if s.value?.isSome then .ok { settings := [(s.long, attachedValues [])] }
    else .error (.unusedValue s "")
  | c :: rest =>
    if s.value?.isSome then .ok { settings := [(s.long, attachedValues (c :: rest))] }
    else match short, g.switch? (String.ofList ['-', c]) with
      | true, some next =>
        let more := if rest.isEmpty then .ok next.alone else g.attached next true rest
        more.map fun e => { e with settings := (s.long, []) :: e.settings }
      | _, _ => .error (.unusedValue s (String.ofList (c :: rest)))

def expand (g : Grammar) (s : Switch) (short : Bool) (attached? : Option (List Char)) :
    Except UsageError Expansion :=
  match attached? with
  | some text => g.attached s short text
  | none => .ok s.alone

def record (a : Arguments) (e : Expansion) : Except Stop Arguments :=
  if e.settings.any (·.1 == Switch.askHelp.long) then .error .help
  else .ok { a with settings := a.settings ++ e.settings }

def readFrom (g : Grammar) :
    List (String × Role) → Phase → Arguments → Except Stop Arguments
  | [], _, a => .ok a
  | (text, .operand) :: rest, phase, a =>
    match phase, g.arity? with
    | .before, some .command => .ok { a with operands? := some (text :: rest.map (·.1)) }
    | .before, some _ => g.readFrom rest .among { a with operands? := some [text] }
    | .among, some .many =>
      g.readFrom rest .among { a with operands? := some (a.operands ++ [text]) }
    | _, _ => g.readFrom rest .after { a with extra := a.extra ++ [text] }
  | (text, .separator) :: rest, phase, a =>
    match phase, g.arity?, rest with
    | .before, some .command, _ :: _ =>
      .ok { a with operands? := some (text :: rest.map (·.1)) }
    | .before, some _, _ :: _ => g.readFrom rest .before a
    | .among, _, _ => g.readFrom rest .among a
    | _, _, _ => g.readFrom rest .after { a with extra := a.extra ++ [text] }
  | (text, .unknown) :: rest, phase, a =>
    g.readFrom rest (if phase = .before then .before else .after)
      { a with extra := a.extra ++ [text] }
  | (_, .switch s short attached?) :: rest, phase, a =>
    let next := if phase = .before then Phase.before else .after
    match g.expand s short attached? with
    | .error e => .error (.usage e)
    | .ok e =>
      match e.open? with
      | none => (record a e).bind (g.readFrom rest next)
      | some s => match rest with
        | (value, .operand) :: rest =>
          (record a { e with settings := e.settings ++ [(s.long, [value])] }).bind
            (g.readFrom rest next)
        | _ => .error (.usage (.expectedValue s))

theorem readFrom_nil (g : Grammar) (phase : Phase) (a : Arguments) :
    g.readFrom [] phase a = .ok a := by
  rw [readFrom]

def readKnown (g : Grammar) (arguments : List String) : Except Stop Arguments := do
  let roles ← (g.roles arguments).mapError .usage
  let a ← g.readFrom roles .before {}
  match g.operand?, a.operands? with
  | some operand, none =>
    if operand.arity = .command then return a else throw (.usage (.missing operand.name))
  | _, _ => return a

def read (g : Grammar) (arguments : List String) : Except Stop Arguments := do
  let a ← g.readKnown arguments
  if a.extra.isEmpty then return a
  else throw (.usage (.unrecognized a.extra))

end Grammar

end Disasm32.CommandLine
