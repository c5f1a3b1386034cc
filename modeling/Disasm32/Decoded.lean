import Disasm32.Instruction.Text
import Disasm32.Template.Render

/-! A word together with the outcome of decoding it, and the text shown for it. -/
namespace Disasm32

/-- A word with its text; there is none if the word is no instruction. -/
structure Decoded where
  word : Nat
  text : Option String
  display : Display
  deriving DecidableEq, Repr

def Display.invalidText (d : Display) (m : Template.Members) (w : Int) :
    Except TemplateError String :=
  Template.render m d.invalidFormat w

/-- Decodes the low 32 bits of a word. -/
def Display.decodeWord (d : Display) (w : Int) : Except TextError Decoded :=
  (d.decode w).map fun text => ⟨Word.low w, text, d⟩

namespace Decoded

def valid (r : Decoded) : Bool := r.text.isSome

/-- Two outcomes agree if word and text do, whatever the display. -/
def agrees (r s : Decoded) : Bool :=
  r.word == s.word && r.text == s.text

/-- The instruction, or the message that there is none. -/
def show? (r : Decoded) (m : Template.Members) : Except TemplateError String :=
  match r.text with
  | some text => .ok text
  | none => r.display.invalidText m r.word

end Decoded

end Disasm32
