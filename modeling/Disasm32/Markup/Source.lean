import Disasm32.Markup.Error
import Disasm32.Text.Stream

/-! The text of a document as far as it can be read. A file is read in pieces and only as far as it
is needed, so a fault in a later piece is noticed only when something wants to know what stands
there. -/
namespace Disasm32.Markup

def isAllowed (c : Char) : Bool :=
  let n := c.toNat
  n == 9 || n == 10 || n == 13 || (0x20 ≤ n && n ≤ 0x7e) || n == 0x85 ||
    (0xa0 ≤ n && n ≤ 0xfffd) || 0x10000 ≤ n

def unprintable? (position : Nat) (cs : List Char) : Option Error :=
  let allowed := cs.takeWhile isAllowed
  ((cs.drop allowed.length).head?).map fun c => .unprintable c (position + allowed.length)

structure Source where
  text : List Char
  beyond : Option Error := none

namespace Source

def pieceSize : Nat := 4096

/-- Pieces that begin at `position`; `fault` comes after the last of them. -/
def ofPieces (fault : Option Error) : Nat → List (List Char) → Source
  | _, [] => ⟨[], fault⟩
  | position, piece :: pieces =>
    match unprintable? position piece with
    | some e => ⟨[], some e⟩
    | none =>
      let rest := ofPieces fault (position + piece.length) pieces
      ⟨piece ++ rest.text, rest.beyond⟩

/-- The text of a file. The first two pieces are read at once. -/
def ofBytes (bytes : List Nat) : Source :=
  let (pieces, fault) := Text.Stream.piecesOf pieceSize bytes
  let fault := fault.map Error.notText
  match pieces with
  | first :: second :: more => ofPieces fault 0 ((first ++ second) :: more)
  | _ => if fault.isSome then ⟨[], fault⟩ else ofPieces none 0 pieces

end Source

end Disasm32.Markup
