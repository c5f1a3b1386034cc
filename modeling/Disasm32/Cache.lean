import Disasm32.Decoded

/-! The last word and its outcome. A word that equals the last one is answered without decoding. -/
namespace Disasm32

/-- The last word seen and the last outcome. They belong together unless a word could not be
written as text. -/
structure Cache where
  display : Display
  word : Option Nat := none
  result : Option Decoded := none
  deriving DecidableEq, Repr

namespace Cache

structure Reply where
  result : Decoded
  /-- The outcome was stored and nothing was decoded. -/
  reused : Bool
  deriving DecidableEq, Repr

def isNew (c : Cache) (w : Int) : Bool :=
  c.result.isNone || c.word != some (Word.low w)

def update (c : Cache) (w : Int) : Except TextError Reply × Cache :=
  match c.result with
  | some result =>
    if c.word = some (Word.low w) then (.ok ⟨result, true⟩, c) else decodeInto c
  | none => decodeInto c
where
  decodeInto (c : Cache) : Except TextError Reply × Cache :=
    match c.display.decodeWord (Word.low w) with
    | .ok result => (.ok ⟨result, false⟩, { c with word := some (Word.low w), result })
    | .error e => (.error e, { c with word := some (Word.low w) })

def clear (c : Cache) : Cache :=
  { c with word := none, result := none }

end Cache

end Disasm32
