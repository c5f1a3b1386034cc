import Disasm32.Template.Number

/-! What the name of a placeholder leads to: an integer, a text, or any other object. Of other
objects a template asks for a text and for the way they take a format, and nothing else of them
is known. -/
namespace Disasm32.Template

inductive Conversion where
  | str
  | repr
  | ascii
  deriving DecidableEq, Repr

structure Object where
  text : Conversion → Except TemplateError (List Char)
  format : List Char → Except TemplateError (List Char)

inductive Entity where
  | number (n : Int)
  | text (cs : List Char)
  | object (x : Object)

namespace Entity

def converted (c : Conversion) : Entity → Except TemplateError (List Char)
  | .number n => decimalText n
  | .text cs => .ok <| match c with
    | .str => cs
    | .repr => Text.Quoted.encode cs
    | .ascii => Text.Quoted.encodeAscii cs
  | .object x => x.text c

def format (spec : List Char) : Entity → Except TemplateError (List Char)
  | .number n => formatInteger spec n
  | .text cs => formatText spec cs
  | .object x => x.format spec

end Entity

end Disasm32.Template
