import Disasm32.Text.Blank

/-! Distributing the pieces of a text over lines of limited width: every line takes as many pieces
as it can. A word may be divided after a hyphen inside it. -/
namespace Disasm32.Text

structure Piece where
  spaced : Bool
  text : List Char
  deriving DecidableEq, Repr

def fillFrom (width : Nat) : List Char → List Piece → List (List Char)
  | line, [] => [line]
  | line, piece :: pieces =>
    let longer := line ++ (if piece.spaced then ' ' :: piece.text else piece.text)
    if width < longer.length then line :: fillFrom width piece.text pieces
    else fillFrom width longer pieces

/-- The lines of pieces; a piece wider than a line has one of its own. -/
def fillPieces (width : Nat) : List Piece → List (List Char)
  | [] => []
  | piece :: pieces => fillFrom width piece.text pieces

def isLetter (c : Char) : Bool := c.isAlphanum || c == '_'

/-- The parts of a word: it may be divided after a hyphen with two letters on either side. -/
def syllables : List Char → List Char → List (List Char)
  | done, [] => [done]
  | done, c :: cs =>
    let divides := c == '-' && 2 ≤ (done.reverse.takeWhile isLetter).length &&
      2 ≤ (cs.takeWhile isLetter).length
    if divides then (done ++ [c]) :: syllables [] cs else syllables (done ++ [c]) cs

def wordPieces (word : List Char) : List Piece :=
  match syllables [] word with
  | [] => []
  | first :: more => ⟨true, first⟩ :: more.map (⟨false, ·⟩)

def fill (width : Nat) (cs : List Char) : List (List Char) :=
  fillPieces width ((words cs).flatMap wordPieces)

end Disasm32.Text
