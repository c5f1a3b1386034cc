import Disasm32.Markup.Source

/-! A place in a text from which reading goes on. Past the end every character reads as the null
character, which no accepted text holds. Where a fault lies beyond the end, whoever looks further
than the text goes has to ask with `need` first; a cursor that is moved to the end has looked there.
-/
namespace Disasm32.Markup

def isBreak (c : Char) : Bool :=
  c == '\n' || c == '\r' || c == '\x85' || c == '\u2028' || c == '\u2029'

def endsLine (c : Char) : Bool := c == '\x00' || isBreak c

def endsField (c : Char) : Bool := c == ' ' || endsLine c

def endsWord (c : Char) : Bool := c == '\t' || endsField c

def isNameChar (c : Char) : Bool := c.isAlphanum || c == '-' || c == '_'

def isHexDigit (c : Char) : Bool :=
  c.isDigit || ('a' ≤ c && c ≤ 'f') || ('A' ≤ c && c ≤ 'F')

structure Cursor where
  rest : List Char
  /-- The fault after the text. -/
  beyond : Option Error := none
  /-- The length of the whole text, which bounds every loop over what is left. -/
  size : Nat := rest.length
  index : Nat := 0
  line : Nat := 0
  column : Nat := 0

namespace Cursor

def peek (c : Cursor) (k : Nat) : Char := c.rest.getD k '\x00'

def head (c : Cursor) : Char := c.peek 0

def mark (c : Cursor) : Mark := ⟨c.line, c.column⟩

/-- Refuses to look at the next `n` characters if they reach a fault. -/
def need (c : Cursor) (n : Nat) : Except Error Unit :=
  match c.beyond with
  | some e => if (c.rest.drop (n - 1)).isEmpty then .error e else .ok ()
  | none => .ok ()

/-- Whether a line feed belongs to the carriage return before it. -/
def isCarriageReturnAlone : List Char → Bool
  | '\n' :: _ => false
  | _ => true

def step (c : Cursor) : Cursor :=
  match c.rest with
  | [] => c
  | ch :: rest =>
    if ch != '\r' && isBreak ch || ch == '\r' && isCarriageReturnAlone rest then
      { c with rest, index := c.index + 1, line := c.line + 1, column := 0 }
    else if ch == '\uFEFF' then { c with rest, index := c.index + 1 }
    else { c with rest, index := c.index + 1, column := c.column + 1 }

def advance (c : Cursor) : Nat → Cursor
  | 0 => c
  | n + 1 => c.step.advance n

def span (p : Char → Bool) (c : Cursor) : List Char × Cursor :=
  let run := c.rest.takeWhile p
  (run, c.advance run.length)

def skip (p : Char → Bool) (c : Cursor) : Cursor := (c.span p).2

def skipSpaces (c : Cursor) : Cursor := c.skip (· == ' ')

def skipComment (c : Cursor) : Cursor :=
  if c.head == '#' then c.skip (!endsLine ·) else c

/-- The line break at the cursor as it counts in a scalar, nothing if there is none, and the
cursor after it. -/
def lineBreak (c : Cursor) : List Char × Cursor :=
  if c.head == '\r' && c.peek 1 == '\n' then (['\n'], c.advance 2)
  else if c.head == '\r' || c.head == '\n' || c.head == '\x85' then (['\n'], c.step)
  else if c.head == '\u2028' || c.head == '\u2029' then ([c.head], c.step)
  else ([], c)

def atSeparator (c : Cursor) : Except Error Bool := do
  c.need 3
  if c.rest.take 3 == ['-', '-', '-'] || c.rest.take 3 == ['.', '.', '.'] then
    c.need 4
    return endsWord (c.peek 3)
  return false

end Cursor

end Disasm32.Markup
