import Disasm32.CommandLine.Run
import Disasm32.Host.Usual

/-! Reads the files that the arguments name, and prints the report of the run. -/
namespace Disasm32

def readFile (path : String) : IO (Except FileError (List Nat)) := do
  try
    let bytes ← IO.FS.readBinFile path
    return .ok (bytes.toList.map UInt8.toNat)
  catch e =>
    match e with
    | .inappropriateType .. => return .error (.isDirectory path)
    | _ => return .error (.notFound path)

partial def readInput (input : IO.FS.Stream) (done : List Char) : IO (List Char) := do
  let line ← input.getLine
  if line.isEmpty then return done else readInput input (done ++ line.toList)

end Disasm32

open Disasm32 in
def main (arguments : List String) : IO UInt32 := do
  let files ← (CommandLine.pathsRead arguments).mapM fun path => return (path, ← readFile path)
  let input ← if arguments.contains "-" then readInput (← IO.getStdin) [] else pure []
  let read (path : String) : Except FileError (List Nat) :=
    ((files.find? (·.1 == path)).map (·.2)).getD (.error (.notFound path))
  let report := CommandLine.run { host := .usual, read, input } arguments
  IO.print report.output
  IO.eprint report.complaints
  match report.ending with
  | .ok code => return code.toUInt32
  | .error failure =>
    IO.eprintln failure.message
    return 1
