import Disasm32.Text.Digits

/-! Bytes as text. A file is decoded in blocks, and a character that a block cuts is finished with
the next block; the position of a fault counts from the first byte that is not yet decoded when its
block arrives. -/
namespace Disasm32.Utf8

inductive Fault where
  | start
  | continuation
  | unfinished
  deriving DecidableEq, Repr

structure Error where
  fault : Fault
  byte : Nat
  position : Nat
  length : Nat
  deriving DecidableEq, Repr

def Fault.message : Fault → String
  | .start => "invalid start byte"
  | .continuation => "invalid continuation byte"
  | .unfinished => "unexpected end of data"

def Error.message (e : Error) : String :=
  let place := if e.length = 1 then
      "byte 0x" ++ String.ofList (Digits.hex 2 e.byte) ++ " in position " ++
        String.ofList (Digits.ofNat 10 e.position)
    else
      "bytes in position " ++ String.ofList (Digits.ofNat 10 e.position) ++ "-" ++
        String.ofList (Digits.ofNat 10 (e.position + e.length - 1))
  "'utf-8' codec can't decode " ++ place ++ ": " ++ e.fault.message

inductive Step where
  /-- A character and the number of its bytes after the first. -/
  | char (c : Char) (more : Nat)
  /-- The bytes end inside a character. -/
  | unfinished
  | invalid (fault : Fault) (length : Nat)
  deriving DecidableEq, Repr

def isContinuation (b : Nat) : Bool := 0x80 ≤ b && b < 0xc0

/-- Whether `b` may follow the first byte `a` of a character; it may not where the character
would have a shorter form, be a surrogate or lie beyond the last one. -/
def mayFollow (a b : Nat) : Bool :=
  isContinuation b && !(a == 0xe0 && b < 0xa0) && !(a == 0xed && 0xa0 ≤ b) &&
    !(a == 0xf0 && b < 0x90) && !(a == 0xf4 && 0x90 ≤ b)

def following? (a : Nat) : Option Nat :=
  if a < 0x80 then some 0
  else if a < 0xc2 then none
  else if a < 0xe0 then some 1
  else if a < 0xf0 then some 2
  else if a < 0xf5 then some 3
  else none

def payload (a more : Nat) : Nat :=
  if more = 0 then a else a % Nat.pow 2 (6 - more)

/-- The further bytes of a character, of which `more` are due; `seen` bytes are good so far. -/
def further (code seen : Nat) : Nat → List Nat → Step
  | 0, _ => .char (Char.ofNat code) (seen - 1)
  | _ + 1, [] => .unfinished
  | more + 1, b :: bs =>
    if isContinuation b then further (code * 64 + b % 64) (seen + 1) more bs
    else .invalid .continuation seen

def step (a : Nat) (bs : List Nat) : Step :=
  match following? a with
  | none => .invalid .start 1
  | some 0 => .char (Char.ofNat a) 0
  | some more => match bs with
    | [] => .unfinished
    | b :: _ =>
      if mayFollow a b then further (payload a more) 1 more bs else .invalid .continuation 1

/-- Half of a surrogate at the end of the bytes. -/
def isCutSurrogate (a : Nat) : List Nat → Bool
  | [b] => a == 0xed && 0xa0 ≤ b && isContinuation b
  | _ => false

/-- The text of a block that begins at `position`, and the bytes left for the next block. The
last block leaves none. -/
def decodeBlock (last : Bool) (position : Nat) : List Nat → Except Error (List Char × List Nat)
  | [] => .ok ([], [])
  | a :: bs =>
    if !last && isCutSurrogate a bs then .ok ([], a :: bs)
    else match step a bs with
      | .char c more =>
        (decodeBlock last (position + more + 1) (bs.drop more)).map fun (cs, rest) =>
          (c :: cs, rest)
      | .unfinished =>
        if last then .error ⟨.unfinished, a, position, bs.length + 1⟩ else .ok ([], a :: bs)
      | .invalid fault length => .error ⟨fault, a, position, length⟩
termination_by bs => bs.length
decreasing_by
  simp only [List.length_drop, List.length_cons]
  omega

def blockSize : Nat := 8192

/-- The text of bytes that come after the undecoded bytes `held`, block by block. -/
def decodeFrom (held bytes : List Nat) : Except Error (List Char) :=
  match bytes with
  | [] => (decodeBlock true 0 held).map (·.1)
  | b :: bs => do
    let (cs, held) ← decodeBlock false 0 (held ++ (b :: bs).take blockSize)
    let more ← decodeFrom held ((b :: bs).drop blockSize)
    return cs ++ more
termination_by bytes.length
decreasing_by
  simp only [List.length_drop, List.length_cons, blockSize]
  omega

def decode (bytes : List Nat) : Except Error (List Char) :=
  decodeFrom [] bytes

end Disasm32.Utf8
