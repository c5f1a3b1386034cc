import Disasm32.Word.Basic

/-! An encoding says which bits of a word are fixed and how the word divides into named fields. -/
namespace Disasm32

inductive Format where
  | r | i | s | b | u | j
  deriving DecidableEq, Repr

def Format.letter : Format → String
  | .r => "R" | .i => "I" | .s => "S" | .b => "B" | .u => "U" | .j => "J"

structure Field where
  name : String
  lsb : Nat
  width : Nat
  deriving DecidableEq, Repr

def Field.read (f : Field) (w : Int) : Nat :=
  Word.bits w f.lsb f.width

/-- One instruction: the bits in `mask` are fixed and have the values in `pattern`. -/
structure Encoding where
  name : String
  pattern : Nat
  mask : Nat
  format : Format
  fields : List Field
  deriving DecidableEq, Repr

namespace Encoding

/-- Whether the fixed bits of a word are those of the encoding. -/
def covers (e : Encoding) (w : Int) : Bool :=
  Word.low w &&& e.mask == e.pattern

/-- The fields of a word with their values, from the lowest bit up. -/
def describe (e : Encoding) (w : Int) : List (String × Nat) :=
  (e.fields.mergeSort fun f g => f.lsb ≤ g.lsb).map fun f => (f.name, f.read w)

end Encoding

end Disasm32
