import Disasm32.CommandLine.Report
import Disasm32.Decoded
import Disasm32.Encoding.Table
import Disasm32.Listing

/-! The commands that decode words from the command line and from a listing. Words from the command
line do not depend on each other; a listing ends at the first token that is no word. -/
namespace Disasm32.CommandLine

def widthWarning (word : Int) (text : String) : Report :=
  if 0xffffffff < word then
    .warning ("'" ++ text ++ "' is wider than 32 bits, using 0x" ++
      String.ofList (Digits.hex 8 (Word.low word)))
  else {}

def shownText (m : Template.Members) (d : Display) (word : Int) : Except Failure String := do
  let decoded ← (d.decodeWord word).mapError .text
  (decoded.show? m).mapError .template

def wordLine (word : Int) (text : String) : String :=
  String.ofList (Digits.hex 8 (Word.low word)) ++ "  " ++ text

def encodingLines (word : Int) : List String :=
  match Encoding.ofWord? (Word.low word) with
  | none => ["  encoding: none"]
  | some e =>
    let fields := (e.describe (Word.low word)).map fun (name, value) =>
      name ++ "=0x" ++ String.ofList (Digits.ofNat 16 value)
    ["  encoding: " ++ e.name ++ " (" ++ e.format.letter ++ "-type)",
     "  fields: " ++ " ".intercalate fields]

def wordReport (m : Template.Members) (d : Display) (verbose : Bool) (text : String) : Report :=
  match Word.read text 16 with
  | .error e => .error e.message
  | .ok word =>
    widthWarning word text ++
      match shownText m d word with
      | .error cause => .fail cause
      | .ok shown =>
        .line (wordLine word shown) ++ .lines (if verbose then encodingLines word else [])

def decodeWords (m : Template.Members) (d : Display) (verbose : Bool) (texts : List String) :
    Report :=
  .concat (texts.map (wordReport m d verbose))

/-- Whether a listing reports that a word cannot be shown; if the message for unknown words can
never be shown for it, the command fails. -/
def isListed : Failure → Bool
  | .template cause => cause.category = .value
  | _ => false

def listingReport (m : Template.Members) (d : Display) :
    List Listing.Entry → Option Word.LiteralError → Report
  | [], none => {}
  | [], some e => .error e.message
  | entry :: rest, fault =>
    widthWarning entry.word entry.token ++
      match shownText m d entry.word with
      | .ok shown =>
        .line (String.ofList (Digits.hex 8 (Word.low entry.address)) ++ ": " ++
          wordLine entry.word shown) ++ listingReport m d rest fault
      | .error cause => if isListed cause then .error cause.message else .fail cause

def decodeListing (m : Template.Members) (d : Display) (base : Int) (lines : List String) :
    Report :=
  let (entries, fault) := Listing.read lines base
  listingReport m d entries fault

/-- The lines of the listing at a path; a dash means standard input. -/
def listingLines (env : Environment) (path : String) : Except FileError (List String) :=
  if path = "-" then .ok ((Text.lines (Text.unifyLineEnds env.input)).map String.ofList)
  else env.read.lines path

/-- Decodes the listing at a path; `bases` are the values given for the address of the first
word. -/
def decodeFile (env : Environment) (d : Display) (bases : List String) (path : String) : Report :=
  match bases.head?.map (Word.read · 16) with
  | none => .fail .noBase
  | some (.error e) => .error e.message
  | some (.ok base) => match listingLines env path with
    | .ok lines => decodeListing env.host.members d base lines
    | .error (.notFound _) => .error ("input file '" ++ path ++ "' not found")
    | .error cause => .fail (.file cause)

end Disasm32.CommandLine
