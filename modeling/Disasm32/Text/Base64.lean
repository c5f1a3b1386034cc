import Disasm32.Text.Digits

/-! Bytes written as digits of six bits each. Characters that are no digits are skipped, and the
padding that completes a group of four ends the text. -/
namespace Disasm32.Base64

inductive Error where
  /-- The last of so many digits begins a group and stands alone. -/
  | loneDigit (digits : Nat)
  | missingPadding
  deriving DecidableEq, Repr

def Error.message : Error → String
  | loneDigit digits =>
    "Invalid base64-encoded string: number of data characters (" ++
      String.ofList (Digits.ofNat 10 digits) ++ ") cannot be 1 more than a multiple of 4"
  | missingPadding => "Incorrect padding"

def digit? (c : Char) : Option Nat :=
  let n := c.toNat
  if 'A' ≤ c ∧ c ≤ 'Z' then some (n - 65)
  else if 'a' ≤ c ∧ c ≤ 'z' then some (n - 71)
  else if '0' ≤ c ∧ c ≤ '9' then some (n + 4)
  else if c = '+' then some 62
  else if c = '/' then some 63
  else none

/-- The digits up to the padding that ends them; the second component says whether there is such
padding. `filled` digits of the current group and `pads` signs after them were read before. -/
def digits (filled pads : Nat) : List Char → List Nat × Bool
  | [] => ([], false)
  | c :: cs =>
    if c = '=' then
      if 2 ≤ filled ∧ 4 ≤ filled + pads + 1 then ([], true)
      else digits filled (if 2 ≤ filled then pads + 1 else pads) cs
    else match digit? c with
      | none => digits filled pads cs
      | some d =>
        let (ds, ended) := digits ((filled + 1) % 4) 0 cs
        (d :: ds, ended)

/-- The bytes of groups of four digits; digits left over give what bytes they can. -/
def bytes : List Nat → List Nat
  | a :: b :: c :: d :: rest =>
    (a * 4 + b / 16) :: (b % 16 * 16 + c / 4) :: (c % 4 * 64 + d) :: bytes rest
  | [a, b, c] => [a * 4 + b / 16, b % 16 * 16 + c / 4]
  | [a, b] => [a * 4 + b / 16]
  | _ => []

def decode (cs : List Char) : Except Error (List Nat) :=
  let (ds, ended) := digits 0 0 cs
  if ended ∨ ds.length % 4 = 0 then .ok (bytes ds)
  else if ds.length % 4 = 1 then .error (.loneDigit ds.length)
  else .error .missingPadding

end Disasm32.Base64
