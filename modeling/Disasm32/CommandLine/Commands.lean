import Disasm32.CommandLine.Grammar

/-! The commands of the program and their grammars, and that of the tracing tool by itself. -/
namespace Disasm32.CommandLine

inductive Command where
  | decode
  | disasm
  | csr
  | trace
  | test
  | version
  deriving DecidableEq, Repr

def program : String := "rvdecode"

def programVersion : String := "0.1.0"

namespace Command

def all : List Command := [decode, disasm, csr, trace, test, version]

def name : Command → String
  | decode => "decode"
  | disasm => "disasm"
  | csr => "csr"
  | trace => "trace"
  | test => "test"
  | version => "version"

def help : Command → String
  | decode => "Decode instruction words given on the command line"
  | disasm => "Disassemble a file of hex words"
  | csr => "Show the names of CSR addresses"
  | trace => "Decode the instruction signal of a VCD file"
  | test => "Run built-in tests"
  | version => "Show version information"

def ofName? (name : String) : Option Command :=
  all.find? (·.name == name)

end Command

def settingsSwitches : List Switch :=
  [⟨some 'c', "config", some "CONFIG", "YAML decoder configuration"⟩,
   ⟨some 't', "target", some "TARGET", "Builtin configuration name (default, abi)"⟩]

def verboseSwitch (help : String) : Switch := ⟨some 'v', "verbose", none, help⟩

def signalSwitch : Switch :=
  ⟨none, "signal", some "SIGNAL", "Instruction word signal (default: from config)"⟩

def scopeSwitch (help : String) : Switch := ⟨none, "strip-prefix", some "STRIP_PREFIX", help⟩

def dumpOperand : Operand := ⟨"vcd_file", .one, "Input VCD file"⟩

def Command.switches : Command → List Switch
  | decode => verboseSwitch "Show matched encoding and field values" :: settingsSwitches
  | disasm =>
    ⟨some 'b', "base", some "BASE", "Address of the first word (default: 0)"⟩ :: settingsSwitches
  | trace =>
    [signalSwitch, scopeSwitch "Strip prefix from signal names (default: from config)",
     verboseSwitch ""] ++ settingsSwitches
  | csr | test | version => []

def Command.operand? : Command → Option Operand
  | decode => some ⟨"words", .many, "Instruction words (hex, 0x/0b prefixes accepted)"⟩
  | disasm => some ⟨"input_file", .one, "Hex listing ('-' for stdin)"⟩
  | csr => some ⟨"addresses", .many, "12-bit CSR addresses (hex)"⟩
  | trace => some dumpOperand
  | test | version => none

def Command.grammar (c : Command) : Grammar :=
  { name := program ++ " " ++ c.name, switches := c.switches, operand? := c.operand? }

def examples : List String :=
  ["Examples:",
   "  # Decode instruction words",
   "  python -m rvdecode decode 0x00000013 00008067",
   "",
   "  # Disassemble a hex listing starting at 0x80000000",
   "  python -m rvdecode disasm --base 0x80000000 firmware.hex",
   "",
   "  # Look up CSR names",
   "  python -m rvdecode csr 0x344 0xc00",
   "",
   "  # Decode the instruction signal of a simulation dump",
   "  python -m rvdecode trace --signal instr_rdata_i sim.vcd",
   "        "]

def mainGrammar : Grammar :=
  { name := program
    description := "rvdecode - RV32I/M instruction word decoder"
    operand? := some ⟨"command", .command, "Command to execute"⟩
    commands := Command.all.map fun c => (c.name, c.help)
    epilog := some (.verbatim examples) }

def traceGrammar : Grammar :=
  { name := program
    description := "Decode the instruction word signal of a VCD file"
    switches :=
      [signalSwitch, scopeSwitch "Strip this prefix from signal paths (default: from config)"] ++
        settingsSwitches ++ [verboseSwitch "Verbose output"]
    operand? := some dumpOperand
    epilog := some (.filled ("Example: python -m rvdecode.vcd_trace sim.vcd " ++
      "--signal instr_rdata_i --strip-prefix tb.dut")) }

end Disasm32.CommandLine
