import Disasm32.Text.Digits
import Disasm32.Word.Literal

/-! A listing is lines of words in hexadecimal, separated by blanks. `#` and `//` begin comments,
and `@` before a number moves to that word index. The word at index `i` has address `base + 4 * i`.
-/
namespace Disasm32.Listing

/-- A word of a listing with its address, not reduced to 32 bits, and as it is written. -/
structure Entry where
  address : Int
  word : Int
  token : String
  deriving DecidableEq, Repr

def uncommented (line : List Char) : List Char :=
  Text.before ['/', '/'] (Text.before ['#'] line)

def tokens (lines : List String) : List (List Char) :=
  lines.flatMap fun line => Text.words (uncommented line.toList)

/-- The entries of a token sequence from a word index on, up to the first token that is no
number. -/
def readTokens (base : Int) : Int → List (List Char) → List Entry × Option Word.LiteralError
  | _, [] => ([], none)
  | _, ('@' :: number) :: rest =>
    match Word.read (String.ofList number) 16 with
    | .ok index => readTokens base index rest
    | .error e => ([], some e)
  | index, token :: rest =>
    match Word.read (String.ofList token) 16 with
    | .ok word =>
      let (entries, fault) := readTokens base (index + 1) rest
      (⟨base + 4 * index, word, String.ofList token⟩ :: entries, fault)
    | .error e => ([], some e)

def read (lines : List String) (base : Int) : List Entry × Option Word.LiteralError :=
  readTokens base 0 (tokens lines)

end Disasm32.Listing
