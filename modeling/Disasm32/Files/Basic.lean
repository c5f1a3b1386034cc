import Disasm32.Text.Blank
import Disasm32.Text.Lines
import Disasm32.Text.Quoted
import Disasm32.Text.Utf8

/-! Paths, the ways in which reading a file fails, and the text of a file. -/
namespace Disasm32

inductive FileError where
  | notFound (path : String)
  | isDirectory (path : String)
  | notDirectory (path : String)
  | nameTooLong (path : String)
  | nullCharacter
  | notText (cause : Utf8.Error)
  deriving DecidableEq, Repr

def FileError.message : FileError → String
  | .notFound path => "[Errno 2] No such file or directory: " ++ Text.Quoted.text path
  | .isDirectory path => "[Errno 21] Is a directory: " ++ Text.Quoted.text path
  | .notDirectory path => "[Errno 20] Not a directory: " ++ Text.Quoted.text path
  | .nameTooLong path => "[Errno 36] File name too long: " ++ Text.Quoted.text path
  | .nullCharacter => "embedded null byte"
  | .notText cause => cause.message

namespace Path

def components (path : String) : List String :=
  (Text.splitWhere (· == '/') path.toList).map String.ofList

/-- The slashes that begin an absolute path: one, or two if there are exactly two. -/
def root (path : String) : String :=
  match path.toList.takeWhile (· == '/') with
  | [] => ""
  | [_, _] => "//"
  | _ => "/"

/-- The path without empty components and dots; the empty path is a dot. -/
def normal (path : String) : String :=
  let text := root path ++
    "/".intercalate ((components path).filter fun c => c != "" && c != ".")
  if text.isEmpty then "." else text

end Path

abbrev FileReader := String → Except FileError (List Nat)

/-- The text of the file at a path, with line feeds as line ends. -/
def FileReader.text (read : FileReader) (path : String) : Except FileError (List Char) :=
  match read path with
  | .error e => .error e
  | .ok bytes => match Utf8.decode bytes with
    | .ok cs => .ok (Text.unifyLineEnds cs)
    | .error e => .error (.notText e)

def FileReader.lines (read : FileReader) (path : String) : Except FileError (List String) :=
  (read.text path).map fun cs => (Text.lines cs).map String.ofList

end Disasm32
