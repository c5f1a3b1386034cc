import Disasm32.Markup.Meaning

/-! A settings document as a text. -/
namespace Disasm32.Markup

/-- The document that a text describes; a text without one describes nothing. -/
def read (source : Source) : Except Error Document := do
  match ← Graph.ofTokens? (Token.scan source) with
  | none => return .ofValue .null
  | some graph => graph.document

end Disasm32.Markup
