import Disasm32.Number.Binary64
import Disasm32.Text.Lines
import Disasm32.Text.Utf8

/-! A file from which text is taken piece by piece. The bytes are read in blocks; a block is longer
than usual if, as far as the block before tells, the characters that are still wanted need more
bytes. A character that a block cuts is finished with the next block, and a carriage return at the
end of a block waits for what follows. -/
namespace Disasm32.Text

structure Stream where
  /-- What is not yet read. -/
  bytes : List Nat
  /-- The bytes of a character that the last block cuts. -/
  held : List Nat := []
  /-- Whether the last block ends with a carriage return. -/
  atReturn : Bool := false
  /-- What is read but not yet taken. -/
  ready : List Char := []
  /-- The bytes for one character in the last block. -/
  density : Binary64 := .zero

namespace Stream

/-- The number of bytes of the next block while `wanted` characters are missing. -/
def blockSize (s : Stream) (wanted : Nat) : Nat :=
  let needed := if s.density.gtInt 1 then (s.density.mul (.ofNat wanted)).floor else wanted
  max Utf8.blockSize needed

/-- The characters of a block with line feeds as line ends, and whether a carriage return at its
end is left out. -/
def lineEnds (atReturn last : Bool) (cs : List Char) : List Char × Bool :=
  let cs := if atReturn && (last || !cs.isEmpty) then '\r' :: cs else cs
  if !last && cs.getLast? == some '\r' then (unifyLineEnds cs.dropLast, true)
  else (unifyLineEnds cs, atReturn && !last && cs.isEmpty)

/-- Reads one block; false if the file had ended before. -/
def readBlock (s : Stream) (wanted : Nat) : Except Utf8.Error (Bool × Stream) := do
  let size := s.blockSize wanted
  let block := s.bytes.take size
  let (cs, held) ← Utf8.decodeBlock block.isEmpty 0 (s.held ++ block)
  let (ready, atReturn) := lineEnds s.atReturn block.isEmpty cs
  let density := if ready.isEmpty then .zero else .ofRatio false block.length ready.length
  return (!(block.isEmpty && ready.isEmpty),
    { bytes := s.bytes.drop size, held, atReturn, ready, density })

def takeFrom : Nat → Nat → Stream → Except Utf8.Error (List Char × Stream)
  | 0, _, s => .ok ([], s)
  | blocks + 1, wanted, s => do
    let taken := s.ready.take wanted
    if taken.length = wanted then return (taken, { s with ready := s.ready.drop wanted })
    let (more, s) ← s.readBlock (wanted - taken.length)
    if !more then return (taken, s)
    let (rest, s) ← takeFrom blocks (wanted - taken.length) s
    return (taken ++ rest, s)

/-- The next `wanted` characters. Every block but the last two takes bytes. -/
def take (s : Stream) (wanted : Nat) : Except Utf8.Error (List Char × Stream) :=
  takeFrom (s.bytes.length + 3) wanted s

/-- At most `count` pieces of `size` characters, the last of which may be shorter, and the fault
that ends them. -/
def pieces (size : Nat) : Nat → Stream → List (List Char) × Option Utf8.Error
  | 0, _ => ([], none)
  | count + 1, s =>
    match s.take size with
    | .error e => ([], some e)
    | .ok ([], _) => ([], none)
    | .ok (piece, s) =>
      let (more, fault) := pieces size count s
      (piece :: more, fault)

def piecesOf (size : Nat) (bytes : List Nat) : List (List Char) × Option Utf8.Error :=
  pieces size (bytes.length + 1) { bytes }

end Stream

end Disasm32.Text
