import Disasm32.CommandLine.Report
import Disasm32.Waveform.Trace

/-! The command that decodes the values of the instruction signal in a waveform dump. -/
namespace Disasm32.CommandLine

/-- What to trace and how; what is not given comes from the settings. -/
structure TraceRequest where
  dump : String
  signal? : Option String := none
  scope? : Option String := none
  settings? : Option String := none
  target? : Option String := none
  verbose : Bool := false
  deriving DecidableEq, Repr

/-- Lines that are printed only on request. -/
def remark (verbose : Bool) (text : String) : Report :=
  if verbose then .line text else {}

def signalWarning (s : Waveform.Signal) : Report :=
  if s.width = 32 then {}
  else .warning ("signal '" ++ s.name ++ "' is " ++ String.ofList (Digits.decimal s.width) ++
    " bits wide, expected 32")

def entryLines (m : Template.Members) (entries : List Waveform.Entry) : Report :=
  .concat (entries.map fun e => match e.show? m with
    | .ok line => .line line
    | .error cause => .fail (.template cause))

def skippedWarning (skipped : Nat) : Report :=
  if skipped = 0 then {}
  else .warning ("skipped " ++ count skipped ++ " value changes with x/z bits")

def changesReport (m : Template.Members) (display : Display) (verbose : Bool)
    (signal : Waveform.Signal) (lines : List String) : Report :=
  match (Waveform.traceLines lines signal.identifier { display }).1 with
  | .error cause => .fail (.text cause)
  | .ok (entries, skipped) =>
    let unknown := entries.filter (!·.result.valid)
    entryLines m entries ++ skippedWarning skipped ++
      remark verbose ("  Decoded " ++ count entries.length ++ " words (" ++ count unknown.length ++
        " unrecognized)")

def signalReport (m : Template.Members) (display : Display) (verbose : Bool)
    (signal : Waveform.Signal) (lines : List String) : Report :=
  signalWarning signal ++
    remark verbose ("  Using " ++ signal.name ++ " (id " ++ signal.identifier ++ ")") ++
    remark verbose "[3/3] Decoding value changes..." ++
    changesReport m display verbose signal lines

def TraceRequest.signalName (r : TraceRequest) (settings : Settings) : String :=
  (r.signal?.filter (· != "")).getD settings.trace.instructionData

def dumpReport (m : Template.Members) (r : TraceRequest) (settings : Settings)
    (lines : List String) : Report :=
  let name := r.signalName settings
  let scope := r.scope?.getD settings.trace.testbenchPrefix
  remark r.verbose "[1/3] Parsing VCD header..." ++
    match Waveform.readHeader lines with
    | .error cause => .fail (.header cause)
    | .ok (declared, start) =>
      let signals := Waveform.relativeTo scope declared
      remark r.verbose ("  Found " ++ count signals.length ++ " signals") ++
        remark r.verbose ("[2/3] Locating instruction signal '" ++ name ++ "'...") ++
        match Waveform.find? signals name with
        | none => .error ("signal '" ++ name ++ "' not found in " ++ r.dump)
        | some signal => signalReport m settings.display r.verbose signal (lines.drop start)

def unreadReport (dump : String) : FileError → Report
  | .notFound _ => .error ("VCD file not found: " ++ dump)
  | cause => .fail (.file cause)

def traceDump (env : Environment) (r : TraceRequest) : Report :=
  withSettings env r.settings? r.target? fun settings =>
    match env.read.lines r.dump with
    | .ok lines => dumpReport env.host.members r settings lines
    | .error cause => unreadReport r.dump cause

end Disasm32.CommandLine
