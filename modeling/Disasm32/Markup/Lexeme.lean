import Disasm32.Markup.Cursor

/-! The parts of a document that are read character by character: directives, the names of anchors,
tags, and scalars in their five styles. Each reader starts at the first character of its part and
gives the part and the cursor after it. A loop takes at most as many turns as the text is long. -/
namespace Disasm32.Markup

def failAt (context : Context) (start : Mark) (problem : Problem) (c : Cursor) :
    Except Error α := do
  c.need 1
  throw (.fault (some (context, some start)) problem c.mark)

def failExpected (context : Context) (start : Mark) (what : Expected) (c : Cursor) :
    Except Error α :=
  failAt context start (.expectedCharacter what c.head) c

/-- A fault `k` characters beyond the cursor that is reported at the cursor. -/
def failExpectedAhead (context : Context) (start : Mark) (what : Expected) (c : Cursor)
    (k : Nat) : Except Error α := do
  c.need (k + 1)
  failAt context start (.expectedCharacter what (c.peek k)) c

inductive Directive where
  | version (major minor : Nat)
  | tag (handle stem : String)
  | other
  deriving DecidableEq, Repr

def endLine (context : Context) (start : Mark) (c : Cursor) : Except Error Cursor :=
  let c := c.skipSpaces.skipComment
  if endsLine c.head then .ok c.lineBreak.2 else failExpected context start .lineEnd c

def readNumber (start : Mark) (c : Cursor) : Except Error (Nat × Cursor) :=
  match c.span Char.isDigit with
  | ([], _) => failExpected .directive start .digit c
  | (ds, c) => do
    c.need 1
    if Literal.maxDigits < ds.length then throw (.longVersion ds.length)
    return (Digits.value 10 (ds.map fun d => d.toNat - 48), c)

def readVersion (start : Mark) (c : Cursor) : Except Error (Directive × Cursor) := do
  let (major, c) ← readNumber start c.skipSpaces
  if c.head != '.' then failExpected .directive start .digitOrPoint c
  let (minor, c) ← readNumber start c.step
  if !endsField c.head then failExpected .directive start .digitOrSpace c
  return (.version major minor, c)

def readHandle (context : Context) (start : Mark) (c : Cursor) :
    Except Error (List Char × Cursor) :=
  if c.head != '!' then failExpected context start .mark c
  else if c.peek 1 == ' ' then .ok (['!'], c.step)
  else
    let (name, next) := c.step.span isNameChar
    if next.head != '!' then failExpected context start .mark next
    else .ok ('!' :: name ++ ['!'], next.step)

def readEscapedBytes (context : Context) (start : Mark) : Nat → Cursor →
    Except Error (List Nat × Cursor)
  | 0, c => .ok ([], c)
  | fuel + 1, c =>
    if c.head != '%' then .ok ([], c)
    else
      let c := c.step
      if !isHexDigit (c.peek 0) then failExpectedAhead context start .uriEscape c 0
      else if !isHexDigit (c.peek 1) then failExpectedAhead context start .uriEscape c 1
      else do
        let byte := Digits.value 16 ((c.rest.take 2).filterMap Literal.digit?)
        let (bytes, c) ← readEscapedBytes context start fuel (c.advance 2)
        return (byte :: bytes, c)

def isUriChar (c : Char) : Bool :=
  isNameChar c || "-;/?:@&=+$,_.!~*'()[]".toList.contains c

def readUriPieces (context : Context) (start : Mark) : Nat → Cursor →
    Except Error (List Char × Cursor)
  | 0, c => .ok ([], c)
  | fuel + 1, c =>
    let (run, c) := c.span isUriChar
    if c.head != '%' then .ok (run, c)
    else do
      let mark := c.mark
      let (bytes, c) ← readEscapedBytes context start c.size c
      c.need 1
      match Utf8.decodeBlock true 0 bytes with
      | .error cause => throw (.fault (some (context, some start)) (.badUriBytes cause) mark)
      | .ok (text, _) =>
        let (more, c) ← readUriPieces context start fuel c
        return (run ++ text ++ more, c)

def readUri (scanning parsing : Context) (start : Mark) (c : Cursor) :
    Except Error (List Char × Cursor) := do
  if !isUriChar c.head && c.head != '%' then failExpected parsing start .locator c
  readUriPieces scanning start (c.size + 1) c

def readTagDirective (start : Mark) (c : Cursor) : Except Error (Directive × Cursor) := do
  let (handle, c) ← readHandle .directive start c.skipSpaces
  if c.head != ' ' then failExpected .directive start .space c
  let (stem, c) ← readUri .directive .directiveText start c.skipSpaces
  if !endsField c.head then failExpected .directive start .space c
  return (.tag (String.ofList handle) (String.ofList stem), c)

def readDirective (c : Cursor) : Except Error (Directive × Cursor) := do
  let start := c.mark
  let (name, c) := c.step.span isNameChar
  if name.isEmpty then failExpected .directive start .nameCharacter c
  if !endsField c.head then failExpected .directive start .nameCharacter c
  let (directive, c) ←
    if name = "YAML".toList then readVersion start c
    else if name = "TAG".toList then readTagDirective start c
    else pure (.other, c.skip (!endsLine ·))
  return (directive, ← endLine .directive start c)

def endsAnchor (c : Char) : Bool := endsWord c || "?:,]\x7d%@\x60".toList.contains c

def readAnchor (context : Context) (c : Cursor) : Except Error (String × Cursor) := do
  let start := c.mark
  let (name, c) := c.step.span isNameChar
  if name.isEmpty then failExpected context start .nameCharacter c
  if !endsAnchor c.head then failExpected context start .nameCharacter c
  return (String.ofList name, c)

structure WrittenTag where
  handle : Option String
  text : String
  deriving DecidableEq, Repr

/-- Whether another `!` follows before the end of the field. -/
def hasHandle (c : Cursor) : Except Error Bool := do
  let name := (c.rest.drop 1).takeWhile fun ch => !endsField ch && ch != '!'
  c.need (name.length + 2)
  return c.peek (name.length + 1) == '!'

def readTag (c : Cursor) : Except Error (WrittenTag × Cursor) := do
  let start := c.mark
  let (tag, c) ←
    if c.peek 1 == '<' then do
      let (text, c) ← readUri .tag .tagText start (c.advance 2)
      if c.head != '>' then failExpected .tagText start .closingAngle c
      pure (WrittenTag.mk none (String.ofList text), c.step)
    else if endsWord (c.peek 1) then pure (WrittenTag.mk none "!", c.step)
    else do
      let (handle, c) ← if ← hasHandle c then readHandle .tag start c else pure (['!'], c.step)
      let (text, c) ← readUri .tag .tagText start c
      pure (WrittenTag.mk (some (String.ofList handle)) (String.ofList text), c)
  if !endsField c.head then failExpected .tag start .space c
  return (tag, c)

inductive Chomping where
  | clip
  | strip
  | keep
  deriving DecidableEq, Repr

def readChomping (c : Cursor) : Option Chomping × Cursor :=
  if c.head == '+' then (some .keep, c.step)
  else if c.head == '-' then (some .strip, c.step)
  else (none, c)

def readIndentation (start : Mark) (c : Cursor) : Except Error (Option Nat × Cursor) :=
  if !c.head.isDigit then .ok (none, c)
  else if c.head == '0' then failAt .blockScalar start .zeroIndentation c
  else .ok (some (c.head.toNat - 48), c.step)

def readBlockHeader (start : Mark) (c : Cursor) :
    Except Error (Chomping × Option Nat × Cursor) := do
  let (chomping, c) := readChomping c
  let (indentation, c) ← readIndentation start c
  let (chomping, c) := match chomping, indentation with
    | none, some _ => readChomping c
    | chomping, _ => (chomping, c)
  if !endsField c.head then failExpected .blockScalar start .blockIndicator c
  return (chomping.getD .clip, indentation, ← endLine .blockScalar start c)

def readLeadingBreaks : Nat → Nat → Cursor → List Char × Nat × Cursor
  | 0, widest, c => ([], widest, c)
  | fuel + 1, widest, c =>
    if c.head == ' ' then readLeadingBreaks fuel (max widest c.step.column) c.step
    else if isBreak c.head then
      let (break_, c) := c.lineBreak
      let (breaks, widest, c) := readLeadingBreaks fuel widest c
      (break_ ++ breaks, widest, c)
    else ([], widest, c)

def skipIndentation (indent : Nat) (c : Cursor) : Cursor :=
  c.advance (min (indent - c.column) (c.span (· == ' ')).1.length)

def readBreaks (indent : Nat) : Nat → Cursor → List Char × Cursor
  | 0, c => ([], c)
  | fuel + 1, c =>
    let c := skipIndentation indent c
    if isBreak c.head then
      let (break_, c) := c.lineBreak
      let (breaks, c) := readBreaks indent fuel c
      (break_ ++ breaks, c)
    else ([], c)

def blockJoint (folded leading : Bool) (break_ breaks : List Char) (next : Char) : List Char :=
  if folded && break_ == ['\n'] && leading && next != ' ' && next != '\t' then
    if breaks.isEmpty then [' '] else []
  else break_

/-- The lines of a block scalar from the cursor on; the last component holds the last line break
and the empty lines after it. -/
def readBlockLines (folded : Bool) (indent : Nat) : Nat → List Char → Cursor →
    List Char × Cursor × List Char × List Char
  | 0, breaks, c => ([], c, [], breaks)
  | fuel + 1, breaks, c =>
    if c.column != indent || c.rest.isEmpty then ([], c, [], breaks)
    else
      let leading := c.head != ' ' && c.head != '\t'
      let (line, c) := c.span (!endsLine ·)
      let (break_, c) := c.lineBreak
      let (next, c) := readBreaks indent (c.size + 1) c
      let text := breaks ++ line
      if c.column == indent && !c.rest.isEmpty then
        let (more, rest) := readBlockLines folded indent fuel next c
        (text ++ blockJoint folded leading break_ next c.head ++ more, rest)
      else (text, c, break_, next)

def readBlockScalar (folded : Bool) (outer : Int) (c : Cursor) :
    Except Error (String × Cursor) := do
  let start := c.mark
  let (chomping, indentation, c) ← readBlockHeader start c.step
  let least := max 1 (outer + 1).toNat
  let fuel := c.size + 1
  let (breaks, indent, c) := match indentation with
    | some increment =>
      let indent := least + increment - 1
      let (breaks, c) := readBreaks indent fuel c
      (breaks, indent, c)
    | none =>
      let (breaks, widest, c) := readLeadingBreaks fuel 0 c
      (breaks, max least widest, c)
  let (text, c, last, trailing) := readBlockLines folded indent fuel breaks c
  let tail := match chomping with
    | .strip => []
    | .clip => last
    | .keep => last ++ trailing
  return (String.ofList (text ++ tail), c)

def escaped? (c : Char) : Option Char :=
  match c with
  | '0' => some '\x00'
  | 'a' => some '\x07'
  | 'b' => some '\x08'
  | 't' | '\t' => some '\t'
  | 'n' => some '\n'
  | 'v' => some '\x0b'
  | 'f' => some '\x0c'
  | 'r' => some '\r'
  | 'e' => some '\x1b'
  | ' ' => some ' '
  | '"' => some '"'
  | '\\' => some '\\'
  | '/' => some '/'
  | 'N' => some '\x85'
  | '_' => some '\u00a0'
  | 'L' => some '\u2028'
  | 'P' => some '\u2029'
  | _ => none

def escapeLength? (c : Char) : Option Nat :=
  match c with
  | 'x' => some 2
  | 'u' => some 4
  | 'U' => some 8
  | _ => none

def readQuotedBreaks (start : Mark) : Nat → Cursor → Except Error (List Char × Cursor)
  | 0, c => .ok ([], c)
  | fuel + 1, c => do
    if ← c.atSeparator then failAt .quotedScalar start .separatorInQuotes c
    let c := c.skip fun ch => ch == ' ' || ch == '\t'
    if isBreak c.head then
      let (break_, c) := c.lineBreak
      let (breaks, c) ← readQuotedBreaks start fuel c
      return (break_ ++ breaks, c)
    else return ([], c)

def readNumericEscape (start : Mark) (length : Nat) (c : Cursor) :
    Except Error (List Char × Cursor) :=
  let digits := (c.rest.take length).takeWhile isHexDigit
  if digits.length < length then
    failExpectedAhead .doubleQuoted start (.escape length) c digits.length
  else
    let code := Digits.value 16 (digits.filterMap Literal.digit?)
    if 0x7fffffff < code then .error .noCharacterNumber
    else if 0x10ffff < code then .error .noCharacter
    else .ok ([Char.ofNat code], c.advance length)

def readEscape (start : Mark) (c : Cursor) : Except Error (List Char × Cursor) :=
  if c.rest.isEmpty then failAt .doubleQuoted start (.unknownEscape c.head) c
  else match escaped? c.head, escapeLength? c.head with
    | some ch, _ => .ok ([ch], c.step)
    | none, some length => readNumericEscape start length c.step
    | none, none =>
      if isBreak c.head then readQuotedBreaks start (c.size + 1) c.lineBreak.2
      else failAt .doubleQuoted start (.unknownEscape c.head) c

def isQuotedPlain (c : Char) : Bool :=
  !(c == '\'' || c == '"' || c == '\\' || endsWord c)

def readQuotedWord (double : Bool) (start : Mark) : Nat → Cursor →
    Except Error (List Char × Cursor)
  | 0, c => .ok ([], c)
  | fuel + 1, c => do
    let (run, c) := c.span isQuotedPlain
    let go (piece : List Char) (c : Cursor) : Except Error (List Char × Cursor) := do
      let (more, c) ← readQuotedWord double start fuel c
      return (run ++ piece ++ more, c)
    if !double && c.head == '\'' && c.peek 1 == '\'' then go ['\''] (c.advance 2)
    else if double && c.head == '\'' || !double && (c.head == '"' || c.head == '\\') then
      go [c.head] c.step
    else if double && c.head == '\\' then
      let (piece, c) ← readEscape start c.step
      go piece c
    else return (run, c)

/-- The blanks of a quoted scalar between two words; a line break is folded. -/
def readQuotedBlanks (start : Mark) (c : Cursor) : Except Error (List Char × Cursor) := do
  let (blanks, c) := c.span fun ch => ch == ' ' || ch == '\t'
  if c.rest.isEmpty then failAt .quotedScalar start .endInQuotes c
  else if isBreak c.head then
    let (break_, c) := c.lineBreak
    let (breaks, c) ← readQuotedBreaks start (c.size + 1) c
    let joint := if break_ != ['\n'] then break_ else if breaks.isEmpty then [' '] else []
    return (joint ++ breaks, c)
  else return (blanks, c)

def readQuotedRest (double : Bool) (start : Mark) : Nat → Cursor →
    Except Error (List Char × Cursor)
  | 0, c => .ok ([], c)
  | fuel + 1, c => do
    let (word, c) ← readQuotedWord double start (c.size + 1) c
    if c.head == (if double then '"' else '\'') then return (word, c.step)
    let (blanks, c) ← readQuotedBlanks start c
    let (more, c) ← readQuotedRest double start fuel c
    return (word ++ blanks ++ more, c)

def readQuoted (double : Bool) (c : Cursor) : Except Error (String × Cursor) := do
  let (text, next) ← readQuotedRest double c.mark (c.size + 1) c.step
  return (String.ofList text, next)

def isFlowIndicator (c : Char) : Bool :=
  c == ',' || c == '[' || c == ']' || c == '{' || c == '}'

def endsPlain (flow : Bool) (c next : Char) : Bool :=
  endsWord c || c == ':' && (endsWord next || flow && isFlowIndicator next) ||
    flow && (c == '?' || isFlowIndicator c)

def plainRun (flow : Bool) : List Char → List Char
  | [] => []
  | c :: cs => if endsPlain flow c (cs.headD '\x00') then [] else c :: plainRun flow cs

structure PlainBlanks where
  text : List Char
  /-- A line break is among them. -/
  lineBreak : Bool
  next : Cursor

/-- The empty lines after a line break inside a plain scalar, unless documents are separated. -/
def readPlainBreaks : Nat → Cursor → Except Error (Option (List Char) × Cursor)
  | 0, c => .ok (some [], c)
  | fuel + 1, c => do
    if ← c.atSeparator then return (none, c)
    let c := c.skipSpaces
    if isBreak c.head then
      let (break_, c) := c.lineBreak
      let (breaks, c) ← readPlainBreaks fuel c
      return (breaks.map (break_ ++ ·), c)
    else return (some [], c)

def readPlainBlanks (c : Cursor) : Except Error PlainBlanks := do
  let (spaces, c) := c.span (· == ' ')
  if isBreak c.head then
    let (break_, c) := c.lineBreak
    match ← readPlainBreaks (c.size + 1) c with
    | (none, c) => return ⟨[], true, c⟩
    | (some breaks, c) =>
      let joint := if break_ != ['\n'] then break_ else if breaks.isEmpty then [' '] else []
      return ⟨joint ++ breaks, true, c⟩
  else return ⟨spaces, false, c⟩

/-- A plain scalar inside a collection of the given indentation, and whether it ends at a line
break. -/
def readPlainFrom (flow : Bool) (indent : Int) : Nat → Cursor →
    Except Error (List Char × Bool × Cursor)
  | 0, c => .ok ([], false, c)
  | fuel + 1, c => do
    let run := plainRun flow c.rest
    let c := c.advance run.length
    if c.head == ':' then c.need 2
    if run.isEmpty then return ([], false, c)
    let blanks ← readPlainBlanks c
    let c := blanks.next
    if blanks.text.isEmpty || c.head == '#' || !flow && c.column < indent then
      return (run, blanks.lineBreak, c)
    match ← readPlainFrom flow indent fuel c with
    | ([], _, c) => return (run, blanks.lineBreak, c)
    | (more, lineBreak, c) => return (run ++ blanks.text ++ more, lineBreak, c)

def readPlain (flow : Bool) (outer : Int) (c : Cursor) : Except Error (String × Bool × Cursor) := do
  let (text, lineBreak, next) ← readPlainFrom flow (outer + 1) (c.size + 1) c
  return (String.ofList text, lineBreak, next)

end Disasm32.Markup
