import Disasm32.Document.Calendar
import Disasm32.Number.Literal
import Disasm32.Text.Base64
import Disasm32.Text.Utf8

/-! What can be wrong with a settings document as a text: where it was noticed, what was being read,
and what was found instead. -/
namespace Disasm32.Markup

structure Mark where
  line : Nat
  column : Nat
  deriving DecidableEq, Repr

inductive Context where
  | nextToken
  | simpleKey
  | directive
  | anchor
  | reference
  | tag
  /-- A tag between angle brackets, or the text after its handle. -/
  | tagText
  /-- The text of a directive for tags. -/
  | directiveText
  | blockScalar
  | quotedScalar
  | doubleQuoted
  | node
  | blockNode
  | flowNode
  | blockSequence
  | blockMapping
  | flowSequence
  | flowMapping
  | firstAnchor (name : String)
  | document
  | mapping
  | orderedMap
  | pairs
  deriving DecidableEq, Repr

def Context.text : Context → String
  | nextToken => "while scanning for the next token"
  | simpleKey => "while scanning a simple key"
  | directive => "while scanning a directive"
  | anchor => "while scanning an anchor"
  | reference => "while scanning an alias"
  | tag => "while scanning a tag"
  | tagText => "while parsing a tag"
  | directiveText => "while parsing a directive"
  | blockScalar => "while scanning a block scalar"
  | quotedScalar => "while scanning a quoted scalar"
  | doubleQuoted => "while scanning a double-quoted scalar"
  | node => "while parsing a node"
  | blockNode => "while parsing a block node"
  | flowNode => "while parsing a flow node"
  | blockSequence => "while parsing a block collection"
  | blockMapping => "while parsing a block mapping"
  | flowSequence => "while parsing a flow sequence"
  | flowMapping => "while parsing a flow mapping"
  | firstAnchor name => "found duplicate anchor " ++ Text.Quoted.text name ++ "; first occurrence"
  | document => "expected a single document in the stream"
  | mapping => "while constructing a mapping"
  | orderedMap => "while constructing an ordered map"
  | pairs => "while constructing pairs"

inductive Expected where
  | nameCharacter
  | digit
  | digitOrPoint
  | digitOrSpace
  | mark
  | space
  | closingAngle
  | locator
  | lineEnd
  | blockIndicator
  | uriEscape
  | escape (length : Nat)
  deriving DecidableEq, Repr

def Expected.text : Expected → String
  | nameCharacter => "alphabetic or numeric character"
  | digit => "a digit"
  | digitOrPoint => "a digit or '.'"
  | digitOrSpace => "a digit or ' '"
  | mark => "'!'"
  | space => "' '"
  | closingAngle => "'>'"
  | locator => "URI"
  | lineEnd => "a comment or a line break"
  | blockIndicator => "chomping or indentation indicators"
  | uriEscape => "URI escape sequence of 2 hexadecimal numbers"
  | escape length =>
    "escape sequence of " ++ String.ofList (Digits.ofNat 10 length) ++ " hexadecimal numbers"

inductive Problem where
  | expectedCharacter (what : Expected) (found : Char)
  | cannotStart (found : Char)
  | noColon
  | zeroIndentation
  | badUriBytes (cause : Utf8.Error)
  | unknownEscape (found : Char)
  | endInQuotes
  | separatorInQuotes
  | noSequenceEntry
  | noMappingKey
  | noMappingValue
  | expectedToken (what found : String)
  /-- As before, in other words. -/
  | gotToken (what found : String)
  | repeatedVersion
  | wrongVersion
  | repeatedHandle (handle : String)
  | unknownHandle (handle : String)
  | unknownAlias (name : String)
  | secondAnchor
  | secondDocument
  | unknownTag (tag : String)
  | expectedNode (what found : String)
  | unhashableKey
  | notMergeable (alsoList : Bool) (found : String)
  | notSingle (items : Nat)
  /-- So many characters outside ASCII, the first of them given. -/
  | notAscii (position count : Nat) (found : Char)
  | badBase64 (cause : Base64.Error)
  deriving DecidableEq, Repr

def quotedChar (c : Char) : String := Text.Quoted.text c.toString

def Problem.text : Problem → String
  | expectedCharacter what found => "expected " ++ what.text ++ ", but found " ++ quotedChar found
  | cannotStart found => "found character " ++ quotedChar found ++ " that cannot start any token"
  | noColon => "could not find expected ':'"
  | zeroIndentation => "expected indentation indicator in the range 1-9, but found 0"
  | badUriBytes cause => cause.message
  | unknownEscape found => "found unknown escape character " ++ quotedChar found
  | endInQuotes => "found unexpected end of stream"
  | separatorInQuotes => "found unexpected document separator"
  | noSequenceEntry => "sequence entries are not allowed here"
  | noMappingKey => "mapping keys are not allowed here"
  | noMappingValue => "mapping values are not allowed here"
  | expectedToken what found => "expected " ++ what ++ ", but found " ++ Text.Quoted.text found
  | gotToken what found => "expected " ++ what ++ ", but got " ++ Text.Quoted.text found
  | repeatedVersion => "found duplicate YAML directive"
  | wrongVersion => "found incompatible YAML document (version 1.* is required)"
  | repeatedHandle handle => "duplicate tag handle " ++ Text.Quoted.text handle
  | unknownHandle handle => "found undefined tag handle " ++ Text.Quoted.text handle
  | unknownAlias name => "found undefined alias " ++ Text.Quoted.text name
  | secondAnchor => "second occurrence"
  | secondDocument => "but found another document"
  | unknownTag tag => "could not determine a constructor for the tag " ++ Text.Quoted.text tag
  | expectedNode what found => "expected " ++ what ++ ", but found " ++ found
  | unhashableKey => "found unhashable key"
  | notMergeable alsoList found =>
    "expected a mapping " ++ (if alsoList then "or list of mappings " else "") ++
      "for merging, but found " ++ found
  | notSingle items => "expected a single mapping item, but found " ++
      String.ofList (Digits.ofNat 10 items) ++ " items"
  | notAscii position count found =>
    "failed to convert base64 data into ascii: 'ascii' codec can't encode character" ++
      (if count = 1 then " '" ++ String.ofList (Text.Quoted.numericEscape found) ++ "'" else "s") ++
      " in position " ++ String.ofList (Digits.ofNat 10 position) ++
      (if count = 1 then ""
        else "-" ++ String.ofList (Digits.ofNat 10 (position + count - 1))) ++
      ": ordinal not in range(128)"
  | badBase64 cause => "failed to decode base64 data: " ++ cause.message

inductive Error where
  /-- A fault at a place, and the place where the reading of its context began. -/
  | fault (context : Option (Context × Option Mark)) (problem : Problem) (mark : Mark)
  | unprintable (c : Char) (position : Nat)
  | notText (cause : Utf8.Error)
  /-- A scalar with the tag of integers is none. -/
  | notInteger (base : Nat) (text : String) (cause : Literal.Error)
  | notReal (text : String)
  | notBool (text : String)
  | emptyNumber
  | notMoment
  /-- A mapping has the tag of dates. -/
  | momentInMapping
  | badDate (cause : CalendarError)
  /-- The number of a character in an escape is above the greatest. -/
  | noCharacter
  /-- The number of a character in an escape has more than 31 bits. -/
  | noCharacterNumber
  /-- A number of so many digits in a directive. -/
  | longVersion (digits : Nat)
  /-- The text of a mapping is looked for in the mapping itself. -/
  | endless
  /-- A real number between colons whose first power of 60 is beyond every real number. -/
  | tooManyParts
  deriving DecidableEq, Repr

namespace Error

def place (source : String) (m : Mark) : String :=
  "  in \"" ++ source ++ "\", line " ++ String.ofList (Digits.ofNat 10 (m.line + 1)) ++
    ", column " ++ String.ofList (Digits.ofNat 10 (m.column + 1))

/-- The text of an error in the document of that name. The place of the context is left out if it
is that of the fault. -/
def message (source : String) : Error → String
  | .fault context problem mark =>
    let before := match context with
      | none => []
      | some (c, none) => [c.text]
      | some (c, some m) => if m = mark then [c.text] else [c.text, place source m]
    "\n".intercalate (before ++ [problem.text, place source mark])
  | .unprintable c position =>
    "unacceptable character #x" ++ String.ofList (Digits.hex 4 c.toNat) ++
      ": special characters are not allowed\n  in \"" ++ source ++ "\", position " ++
      String.ofList (Digits.ofNat 10 position)
  | .notText cause => cause.message
  | .notInteger base text cause => cause.message base text.toList
  | .notReal text => "could not convert string to float: " ++ Text.Quoted.text text
  | .notBool text => Text.Quoted.text text
  | .emptyNumber => "string index out of range"
  | .notMoment => "'NoneType' object has no attribute 'groupdict'"
  | .momentInMapping => "expected string or bytes-like object, got 'list'"
  | .badDate cause => cause.message
  | .noCharacter => "chr() arg not in range(0x110000)"
  | .noCharacterNumber => "Python int too large to convert to C int"
  | .longVersion digits => (Literal.Error.tooLong digits).message 10 []
  | .endless => "maximum recursion depth exceeded"
  | .tooManyParts => "int too large to convert to float"

end Error

end Disasm32.Markup
