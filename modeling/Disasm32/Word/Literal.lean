import Disasm32.Number.Literal

/-! An instruction word as it is written on a command line or in a listing: digits in a default
base, or after `0x` or `0b`, with underscores anywhere and blanks around. A sign directly before the
digits is refused. -/
namespace Disasm32.Word

structure LiteralError where
  text : String
  deriving DecidableEq, Repr

def LiteralError.message (e : LiteralError) : String :=
  "Invalid instruction word: '" ++ e.text ++ "'"

/-- The lower case of the letters that can be digits: those of ASCII and the sign of the unit of
temperature, whose lower case is a plain `k`. -/
def lower (c : Char) : Char :=
  if c.toNat = 0x212a then 'k' else c.toLower

def splitMarker (defaultBase : Int) : List Char → Int × List Char
  | '0' :: 'x' :: cs => (16, cs)
  | '0' :: 'b' :: cs => (2, cs)
  | cs => (defaultBase, cs)

def plain (cs : List Char) : List Char :=
  ((Text.strip cs).map lower).filter (· != '_')

def startsWithSign : List Char → Bool
  | c :: _ => c == '-' || c == '+'
  | [] => false

def read (text : String) (defaultBase : Int) : Except LiteralError Int :=
  let (base, digits) := splitMarker defaultBase (plain text.toList)
  if startsWithSign digits then .error ⟨text⟩
  else match Literal.read base digits with
    | .ok n => .ok n
    | .error _ => .error ⟨text⟩

end Disasm32.Word
