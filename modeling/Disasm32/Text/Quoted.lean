import Disasm32.Text.Digits
import Disasm32.Text.Printable

/-! A text between quotes, with a backslash before the quote and before a backslash, and with an
escape for every character that is not printable. The quote is `'` unless the text holds `'` and
no `"`. -/
namespace Disasm32.Text.Quoted

def mark (cs : List Char) : Char :=
  if cs.contains '\'' && !cs.contains '"' then '"' else '\''

def numericEscape (c : Char) : List Char :=
  let n := c.toNat
  if n < 0x100 then '\\' :: 'x' :: Digits.hex 2 n
  else if n < 0x10000 then '\\' :: 'u' :: Digits.hex 4 n
  else '\\' :: 'U' :: Digits.hex 8 n

def letters : List (Char × Char) := [('\t', 't'), ('\n', 'n'), ('\r', 'r')]

/-- One character of a text inside the quotes `mark`; `plain` tells which characters stand for
themselves. -/
def escape (plain : Char → Bool) (mark c : Char) : List Char :=
  if c = mark ∨ c = '\\' then ['\\', c]
  else match letters.lookup c with
    | some letter => ['\\', letter]
    | none => if plain c then [c] else numericEscape c

def encode (cs : List Char) : List Char :=
  let m := mark cs
  m :: cs.flatMap (escape isPrintable m) ++ [m]

def encodeAscii (cs : List Char) : List Char :=
  (encode cs).flatMap fun c => if c.toNat < 0x80 then [c] else numericEscape c

def text (s : String) : String :=
  String.ofList (encode s.toList)

end Disasm32.Text.Quoted
