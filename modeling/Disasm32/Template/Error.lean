import Disasm32.Number.Index
import Disasm32.Number.Literal
import Disasm32.Text.Quoted

/-! What can be wrong with a template, or with a template and the word put into it, and the text
that says so. -/
namespace Disasm32

inductive Template.Kind where
  | int
  | str
  deriving DecidableEq, Repr

def Template.Kind.name : Kind → String
  | int => "int"
  | str => "str"

inductive TemplateError.Category where
  | value
  | type
  | key
  | index
  | attribute
  | overflow
  | other (name : String)
  deriving DecidableEq, Repr

inductive TemplateError where
  -- the division into text and placeholders
  | loneOpen
  | loneClose
  | openInName
  | unclosedName
  | unclosedSpec
  | noConversion
  | textAfterConversion
  | unknownConversion (c : Char)
  | nestedTooDeep
  -- the name of a placeholder
  | unknownName (name : String)
  | noPosition (index : Nat)
  | emptyPart
  | unclosedIndex
  | textAfterIndex
  | tooManyDigits
  -- the format of a placeholder
  | invalidSpec (spec : String) (kind : Template.Kind)
  | unknownCode (c : Char) (kind : Template.Kind)
  | noPrecision
  | bothSeparators
  | separatorWith (separator : Char) (code : Char)
  | precisionOnInteger
  | zeroSignOn (kind : Template.Kind)
  | signOnCharacter
  | alternateOnCharacter
  | signOnText
  | spaceOnText
  | alternateOnText
  | innerAlignmentOnText
  | precisionTooBig
  -- the number
  | decimalTooLong
  | notACharacter
  | characterTooLarge
  | realTooLarge
  /-- An error of what the name of a placeholder leads to. -/
  | foreign (category : TemplateError.Category) (message : String)
  deriving DecidableEq, Repr

namespace TemplateError

def codeText (c : Char) (upper : Nat) : String :=
  if 32 < c.toNat ∧ c.toNat < upper then c.toString
  else "\\x" ++ String.ofList (Digits.ofNat 16 c.toNat)

def message : TemplateError → String
  | loneOpen => "Single '\x7b' encountered in format string"
  | loneClose => "Single '\x7d' encountered in format string"
  | openInName => "unexpected '\x7b' in field name"
  | unclosedName => "expected '\x7d' before end of string"
  | unclosedSpec => "unmatched '\x7b' in format spec"
  | noConversion => "end of string while looking for conversion specifier"
  | textAfterConversion => "expected ':' after conversion specifier"
  | unknownConversion c => "Unknown conversion specifier " ++ codeText c 127
  | nestedTooDeep => "Max string recursion exceeded"
  | unknownName name => Text.Quoted.text name
  | noPosition index =>
    "Replacement index " ++ String.ofList (Digits.ofNat 10 index) ++
      " out of range for positional args tuple"
  | emptyPart => "Empty attribute in format string"
  | unclosedIndex => "Missing ']' in format string"
  | textAfterIndex => "Only '.' or '[' may follow ']' in format field specifier"
  | tooManyDigits => "Too many decimal digits in format string"
  | invalidSpec spec kind =>
    "Invalid format specifier '" ++ spec ++ "' for object of type '" ++ kind.name ++ "'"
  | unknownCode c kind =>
    "Unknown format code '" ++ codeText c 128 ++ "' for object of type '" ++ kind.name ++ "'"
  | noPrecision => "Format specifier missing precision"
  | bothSeparators => "Cannot specify both ',' and '_'."
  | separatorWith separator code =>
    "Cannot specify '" ++ separator.toString ++ "' with '" ++ codeText code 128 ++ "'."
  | precisionOnInteger => "Precision not allowed in integer format specifier"
  | zeroSignOn .int => "Negative zero coercion (z) not allowed in integer format specifier"
  | zeroSignOn .str => "Negative zero coercion (z) not allowed in string format specifier"
  | signOnCharacter => "Sign not allowed with integer format specifier 'c'"
  | alternateOnCharacter => "Alternate form (#) not allowed with integer format specifier 'c'"
  | signOnText => "Sign not allowed in string format specifier"
  | spaceOnText => "Space not allowed in string format specifier"
  | alternateOnText => "Alternate form (#) not allowed in string format specifier"
  | innerAlignmentOnText => "'=' alignment not allowed in string format specifier"
  | precisionTooBig => "precision too big"
  | decimalTooLong => Literal.limitMessage ""
  | notACharacter => "%c arg not in range(0x110000)"
  | characterTooLarge => "Python int too large to convert to C long"
  | realTooLarge => "int too large to convert to float"
  | foreign _ message => message

def category : TemplateError → Category
  | unknownName _ => .key
  | noPosition _ => .index
  | notACharacter | characterTooLarge | realTooLarge => .overflow
  | foreign category _ => category
  | _ => .value

/-- Whether the error is none of those that make a template a bad one. -/
def escapes (e : TemplateError) : Bool :=
  !([.key, .index, .value, .type, .attribute] : List Category).contains e.category

end TemplateError

end Disasm32
