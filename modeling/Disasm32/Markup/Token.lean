import Disasm32.Markup.Lexeme

/-! A document as a sequence of tokens. Indentation becomes tokens that open and close block
collections, and a value indicator makes a key of the node before it, so a token is given out only
when it is certain that no key begins with it. `Token.scan` gives the tokens up to the first fault.
-/
namespace Disasm32.Markup

inductive TokenKind where
  | directive (d : Directive)
  | documentStart
  | documentEnd
  | streamEnd
  | blockSequenceStart
  | blockMappingStart
  | blockEnd
  | flowSequenceStart
  | flowMappingStart
  | flowSequenceEnd
  | flowMappingEnd
  | key
  | value
  | blockEntry
  | flowEntry
  | reference (name : String)
  | anchor (name : String)
  | tag (t : WrittenTag)
  | scalar (text : String) (plain : Bool)
  deriving DecidableEq, Repr

def TokenKind.name : TokenKind → String
  | directive _ => "<directive>"
  | documentStart => "<document start>"
  | documentEnd => "<document end>"
  | streamEnd => "<stream end>"
  | blockSequenceStart => "<block sequence start>"
  | blockMappingStart => "<block mapping start>"
  | blockEnd => "<block end>"
  | flowSequenceStart => "["
  | flowMappingStart => "\x7b"
  | flowSequenceEnd => "]"
  | flowMappingEnd => "\x7d"
  | key => "?"
  | value => ":"
  | blockEntry => "-"
  | flowEntry => ","
  | reference _ => "<alias>"
  | anchor _ => "<anchor>"
  | tag _ => "<tag>"
  | scalar .. => "<scalar>"

structure Token where
  kind : TokenKind
  start : Mark
  stop : Mark
  deriving DecidableEq, Repr

structure KeyPlace where
  /-- The number of the token that the key begins with. -/
  number : Nat
  /-- Nothing but a key can stand there. -/
  required : Bool
  index : Nat
  mark : Mark
  deriving DecidableEq, Repr

/-- The state of scanning: the tokens that are read but not given out, the indentations of the
block collections that are open, and for each flow level the place where a key may have begun. -/
structure TokenReader where
  cursor : Cursor
  flowLevel : Nat := 0
  queue : List Token := []
  taken : Nat := 0
  indent : Int := -1
  indents : List Int := []
  keyAllowed : Bool := true
  keys : List (Nat × KeyPlace) := []
  done : Bool := false

namespace TokenReader

def push (s : TokenReader) (kind : TokenKind) (start stop : Mark) : TokenReader :=
  { s with queue := s.queue ++ [⟨kind, start, stop⟩] }

def pushHere (s : TokenReader) (kind : TokenKind) : TokenReader :=
  s.push kind s.cursor.mark s.cursor.mark

def pushNext (s : TokenReader) (kind : TokenKind) (n : Nat) : TokenReader :=
  let c := s.cursor.advance n
  { s.push kind s.cursor.mark c.mark with cursor := c }

def insertAt (s : TokenReader) (number : Nat) (kind : TokenKind) (mark : Mark) : TokenReader :=
  { s with queue := s.queue.insertIdx (number - s.taken) ⟨kind, mark, mark⟩ }

def key? (s : TokenReader) : Option KeyPlace :=
  (s.keys.find? (·.1 == s.flowLevel)).map (·.2)

def noColon (s : TokenReader) (k : KeyPlace) : Except Error α :=
  failAt .simpleKey k.mark .noColon s.cursor

def dropKey (s : TokenReader) : Except Error TokenReader :=
  match s.key? with
  | none => .ok s
  | some k =>
    if k.required then s.noColon k
    else .ok { s with keys := s.keys.filter (·.1 != s.flowLevel) }

/-- Gives up the places for keys on other lines or more than 1024 characters back. -/
def dropDistantKeys (s : TokenReader) : Except Error TokenReader :=
  let distant (k : KeyPlace) : Bool :=
    k.mark.line != s.cursor.line || 1024 < s.cursor.index - k.index
  match s.keys.find? fun entry => distant entry.2 && entry.2.required with
  | some entry => s.noColon entry.2
  | none => .ok { s with keys := s.keys.filter fun entry => !distant entry.2 }

def markKey (s : TokenReader) : Except Error TokenReader :=
  if !s.keyAllowed then .ok s
  else do
    let s ← s.dropKey
    let place : KeyPlace :=
      { number := s.taken + s.queue.length
        required := s.flowLevel == 0 && s.indent == s.cursor.column
        index := s.cursor.index
        mark := s.cursor.mark }
    return { s with keys := s.keys ++ [(s.flowLevel, place)] }

def closeBlocksFrom (column : Int) : List Int → TokenReader → TokenReader
  | [], s => s
  | outer :: indents, s =>
    if column < s.indent then
      closeBlocksFrom column indents { s.pushHere .blockEnd with indent := outer, indents }
    else s

/-- Block collections end where the indentation does, but not inside flow collections. -/
def closeBlocks (s : TokenReader) (column : Int) : TokenReader :=
  if s.flowLevel != 0 then s else closeBlocksFrom column s.indents s

def openBlock (s : TokenReader) (column : Nat) : Option TokenReader :=
  if s.indent < column then some { s with indents := s.indent :: s.indents, indent := column }
  else none

def skipToToken : Nat → TokenReader → TokenReader
  | 0, s => s
  | fuel + 1, s =>
    let c := s.cursor.skipSpaces.skipComment
    if isBreak c.head then
      skipToToken fuel
        { s with cursor := c.lineBreak.2, keyAllowed := s.keyAllowed || s.flowLevel == 0 }
    else { s with cursor := c }

def endStream (s : TokenReader) : Except Error TokenReader := do
  let s ← (s.closeBlocks (-1)).dropKey
  return { s.pushHere .streamEnd with keyAllowed := false, keys := [], done := true }

def takeDirective (s : TokenReader) : Except Error TokenReader := do
  let s ← (s.closeBlocks (-1)).dropKey
  let (d, c) ← readDirective s.cursor
  return { s.push (.directive d) s.cursor.mark c.mark with cursor := c, keyAllowed := false }

def takeSeparator (s : TokenReader) (kind : TokenKind) : Except Error TokenReader := do
  let s ← (s.closeBlocks (-1)).dropKey
  return { s.pushNext kind 3 with keyAllowed := false }

def openFlow (s : TokenReader) (kind : TokenKind) : Except Error TokenReader := do
  let s ← s.markKey
  return { s.pushNext kind 1 with flowLevel := s.flowLevel + 1, keyAllowed := true }

def closeFlow (s : TokenReader) (kind : TokenKind) : Except Error TokenReader := do
  let s ← s.dropKey
  return { s.pushNext kind 1 with flowLevel := s.flowLevel - 1, keyAllowed := false }

def takeComma (s : TokenReader) : Except Error TokenReader := do
  let s ← s.dropKey
  return { s.pushNext .flowEntry 1 with keyAllowed := true }

def beginBlock (s : TokenReader) (kind : TokenKind) (problem : Problem) :
    Except Error TokenReader :=
  if s.flowLevel != 0 then .ok s
  else if !s.keyAllowed then .error (.fault none problem s.cursor.mark)
  else match s.openBlock s.cursor.column with
    | some t => .ok (t.pushHere kind)
    | none => .ok s

def takeDash (s : TokenReader) : Except Error TokenReader := do
  let s ← s.beginBlock .blockSequenceStart .noSequenceEntry
  let s ← s.dropKey
  return { s.pushNext .blockEntry 1 with keyAllowed := true }

def takeQuestionMark (s : TokenReader) : Except Error TokenReader := do
  let s ← s.beginBlock .blockMappingStart .noMappingKey
  let s ← s.dropKey
  return { s.pushNext .key 1 with keyAllowed := s.flowLevel == 0 }

/-- A value indicator makes a key of the node before it, if that may be one. -/
def takeColon (s : TokenReader) : Except Error TokenReader := do
  match s.key? with
  | some k =>
    let s := { s with keys := s.keys.filter (·.1 != s.flowLevel) }
    let s := s.insertAt k.number .key k.mark
    let s := if s.flowLevel != 0 then s else match s.openBlock k.mark.column with
      | some t => t.insertAt k.number .blockMappingStart k.mark
      | none => s
    return { s.pushNext .value 1 with keyAllowed := false }
  | none =>
    let s ← s.beginBlock .blockMappingStart .noMappingValue
    let s ← s.dropKey
    return { s.pushNext .value 1 with keyAllowed := s.flowLevel == 0 }

def takeKeyable (s : TokenReader) (read : Cursor → Except Error (TokenKind × Cursor)) :
    Except Error TokenReader := do
  let s ← s.markKey
  let (kind, c) ← read s.cursor
  return { s.push kind s.cursor.mark c.mark with cursor := c, keyAllowed := false }

def takeBlockScalar (s : TokenReader) (folded : Bool) : Except Error TokenReader := do
  let s ← s.dropKey
  let (text, c) ← readBlockScalar folded s.indent s.cursor
  return { s.push (.scalar text false) s.cursor.mark c.mark with cursor := c, keyAllowed := true }

def takePlain (s : TokenReader) : Except Error TokenReader := do
  let s ← s.markKey
  let (text, lineBreak, c) ← readPlain (s.flowLevel != 0) s.indent s.cursor
  return { s.push (.scalar text true) s.cursor.mark c.mark with
    cursor := c, keyAllowed := lineBreak }

/-- The characters that begin a plain scalar only in front of certain others, or never. -/
def indicators : List Char := "-?:,[]\x7b\x7d#&*!|>'\"%@\x60".toList

def beginsPlain (s : TokenReader) : Bool :=
  let c := s.cursor.head
  !(endsWord c || indicators.contains c) ||
    !endsWord (s.cursor.peek 1) && (c == '-' || s.flowLevel == 0 && (c == '?' || c == ':'))

/-- Whether an indicator at the cursor stands alone; inside flow collections it always does. -/
def standsAlone (s : TokenReader) : Bool :=
  s.flowLevel != 0 || endsWord (s.cursor.peek 1)

def looksAhead (s : TokenReader) : Bool :=
  let c := s.cursor.head
  c == '-' || c == '@' || c == '\x60' || c == '\t' || c == '%' && s.cursor.column != 0 ||
    if s.flowLevel == 0 then c == '?' || c == ':' else c == '|' || c == '>'

def atSeparator (s : TokenReader) : Except Error Bool :=
  let c := s.cursor
  if c.column == 0 && (c.head == '-' || c.head == '.') then c.atSeparator else .ok false

def takeNext (s : TokenReader) : Except Error TokenReader := do
  let c := s.cursor
  if c.rest.isEmpty then s.endStream
  else if c.head == '%' && c.column == 0 then s.takeDirective
  else if ← s.atSeparator then
    s.takeSeparator (if c.head == '-' then .documentStart else .documentEnd)
  else
    if s.looksAhead then c.need 2
    if c.head == '[' then s.openFlow .flowSequenceStart
    else if c.head == '{' then s.openFlow .flowMappingStart
    else if c.head == ']' then s.closeFlow .flowSequenceEnd
    else if c.head == '}' then s.closeFlow .flowMappingEnd
    else if c.head == ',' then s.takeComma
    else if c.head == '-' && endsWord (c.peek 1) then s.takeDash
    else if c.head == '?' && s.standsAlone then s.takeQuestionMark
    else if c.head == ':' && s.standsAlone then s.takeColon
    else if c.head == '*' then
      s.takeKeyable fun c => (readAnchor .reference c).map fun (name, c) => (.reference name, c)
    else if c.head == '&' then
      s.takeKeyable fun c => (readAnchor .anchor c).map fun (name, c) => (.anchor name, c)
    else if c.head == '!' then
      s.takeKeyable fun c => (readTag c).map fun (t, c) => (.tag t, c)
    else if c.head == '|' && s.flowLevel == 0 then s.takeBlockScalar false
    else if c.head == '>' && s.flowLevel == 0 then s.takeBlockScalar true
    else if c.head == '\'' || c.head == '"' then
      s.takeKeyable fun c =>
        (readQuoted (c.head == '"') c).map fun (text, c) => (.scalar text false, c)
    else if s.beginsPlain then s.takePlain
    else throw (.fault (some (.nextToken, none)) (.cannotStart c.head) c.mark)

def advance (s : TokenReader) : Except Error TokenReader := do
  let s := skipToToken (s.cursor.size + 1) s
  s.cursor.need 1
  let s ← s.dropDistantKeys
  let s ← (s.closeBlocks s.cursor.column).takeNext
  s.cursor.need 1
  return s

/-- Whether the first token in the queue may still turn out to begin a key. -/
def isOpen (s : TokenReader) : Bool :=
  s.keys.any (·.2.number == s.taken) && s.keys.all (s.taken ≤ ·.2.number)

def ready : Nat → TokenReader → Except Error TokenReader
  | 0, s => .ok s
  | fuel + 1, s =>
    if s.done then .ok s
    else if s.queue.isEmpty then do ready fuel (← s.advance)
    else do
      let s ← s.dropDistantKeys
      if s.isOpen then ready fuel (← s.advance) else .ok s

def giveOut : Nat → TokenReader → List Token × Option Error
  | 0, _ => ([], none)
  | fuel + 1, s =>
    match ready (s.cursor.size + 2) s with
    | .error e => ([], some e)
    | .ok s => match s.queue with
      | [] => ([], none)
      | token :: queue =>
        let (tokens, fault) := giveOut fuel { s with queue, taken := s.taken + 1 }
        (token :: tokens, fault)

end TokenReader

/-- The cursor at the beginning of a text, after a byte order mark if there is one. -/
def Cursor.ofSource (source : Source) : Cursor :=
  let c : Cursor := { rest := source.text, beyond := source.beyond }
  if c.head == '\uFEFF' then c.step else c

/-- The tokens of a text up to the first fault. Every character makes at most four tokens. -/
def Token.scan (source : Source) : List Token × Option Error :=
  TokenReader.giveOut (4 * source.text.length + 8) { cursor := Cursor.ofSource source }

end Disasm32.Markup
