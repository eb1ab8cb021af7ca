import CommandWrap.Decimal.Reader
import CommandWrap.Text.Utf8
import CommandWrap.Yaml.ScalarText

/-!
# From text to tokens

Whether a scalar or collection is a key shows only at the colon behind it, so its place among the
tokens is remembered and the key token is put there when the colon comes.  Such a key lies on one line
and within 1024 characters.  The indentation of a line opens and closes block collections.
-/
namespace CommandWrap.Yaml

/-- The place of something that may turn out to be a key. -/
structure PossibleKey where
  /-- The flow collections around it. -/
  level : Nat
  /-- How many tokens come before it. -/
  place : Nat
  /-- Must it be a key? -/
  required : Bool
  /-- Where it begins. -/
  index : Nat
  /-- The line on which it begins. -/
  line : Nat
  /-- The column at which it begins. -/
  column : Nat

/-- What is known between two tokens. -/
structure Lexer where
  /-- The position in the text. -/
  cursor : Cursor
  /-- How many flow collections are open. -/
  level : Nat := 0
  /-- The indentation of the innermost block collection; `-1` outside of all. -/
  indent : Int := -1
  /-- The indentations of the block collections around it. -/
  outer : List Int := []
  /-- May a key without a question mark begin here? -/
  allowsKey : Bool := true
  /-- What may turn out to be a key, at most one for each level. -/
  keys : List PossibleKey := []
  /-- The tokens so far, the latest first. -/
  tokens : List Token := []
  /-- How many tokens there are so far. -/
  count : Nat := 0

namespace Lexer

/-- Add a token. -/
def emit (s : Lexer) (t : Token) : Lexer :=
  { s with tokens := t :: s.tokens, count := s.count + 1 }

/-- Put a token in front of the last tokens, so that `place` tokens come before it. -/
def insertAt (s : Lexer) (place : Nat) (t : Token) : Lexer :=
  let behind := s.count - place
  { s with
    tokens := s.tokens.take behind ++ t :: s.tokens.drop behind
    count := s.count + 1 }

/-- Forget what can no longer be a key; it is a fault if it had to be one. -/
def dropStaleKeys (s : Lexer) : Except Fault Lexer :=
  let stale (k : PossibleKey) : Bool :=
    k.line != s.cursor.line || s.cursor.index - k.index > 1024
  if s.keys.any fun k => stale k && k.required then .error .malformed
  else .ok { s with keys := s.keys.filter (!stale ·) }

/-- Forget the possible key of the present level; it is a fault if it had to be one. -/
def dropKey (s : Lexer) : Except Fault Lexer :=
  if s.keys.any fun k => k.level == s.level && k.required then .error .malformed
  else .ok { s with keys := s.keys.filter (·.level != s.level) }

/-- Remember that a key may begin here. -/
def markKey (s : Lexer) : Except Fault Lexer := do
  if s.allowsKey then
    let required := s.level == 0 && s.indent == (s.cursor.column : Int)
    let s ← s.dropKey
    let key : PossibleKey :=
      { level := s.level, place := s.count, required, index := s.cursor.index
        line := s.cursor.line, column := s.cursor.column }
    return { s with keys := key :: s.keys }
  else return s

/-- Close the block collections that are indented deeper than a column. -/
def closeBlocks (column : Int) : List Int → Lexer → Lexer
  | [], s => s
  | next :: outer, s =>
    if s.level == 0 && s.indent > column then
      closeBlocks column outer ({ s with indent := next, outer }.emit .blockEnd)
    else s

/-- Close the block collections that are indented deeper than a column. -/
def unwind (s : Lexer) (column : Int) : Lexer :=
  closeBlocks column s.outer s

/-- Open a block collection at a column, unless one is open there. -/
def openBlock (s : Lexer) (column : Nat) (insert : Lexer → Lexer) : Lexer :=
  if s.indent < column then
    insert { s with outer := s.indent :: s.outer, indent := column }
  else s

/-- Move on without a token. -/
def at_ (s : Lexer) (c : Cursor) : Lexer :=
  { s with cursor := c }

/-- Skip spaces, comments and line breaks; a line break allows a key outside of flow collections. -/
def skipToToken : List Char → Lexer → Lexer
  | [], s => s
  | _ :: fuel, s =>
    let c := s.cursor.skipSpaces.skipComment
    if isBreak c.peek then
      let s := s.at_ c.lineBreak.2
      skipToToken fuel (if s.level == 0 then { s with allowsKey := true } else s)
    else s.at_ c

/-! ## Directives, anchors and tags -/

/-- A run of name characters, which must not be empty. -/
def scanName (c : Cursor) : Except Fault (String × Cursor) :=
  let (name, c) := c.takeWhile isNameChar
  if name.isEmpty then .error .malformed else .ok (String.ofList name, c)

/-- A decimal number. -/
def scanNumber (c : Cursor) : Except Fault (Nat × Cursor) :=
  let (digits, c) := c.takeWhile Char.isDigit
  if digits.isEmpty then .error .malformed
  else
    match Decimal.integer 10 (String.ofList digits) with
    | .ok n => .ok (n.toNat, c)
    | .error fault => .error (.badValue fault.message)

/-- A handle: an exclamation mark alone, or two with a name between them. -/
def scanHandle (c : Cursor) : Except Fault (String × Cursor) :=
  if c.peek != '!' then .error .malformed
  else
    let start := c.advance
    if start.peek == ' ' then .ok ("!", start)
    else
      let (name, d) := start.takeWhile isNameChar
      if d.peek == '!' then .ok ("!" ++ String.ofList name ++ "!", d.advance)
      else .error .malformed

/-- May the character stand in a tag? -/
def isUriChar (c : Char) : Bool :=
  isNameChar c || ";/?:@&=+$,_.!~*'()[]".toList.contains c

/-- Bytes given by percent signs with two hexadecimal digits. -/
def scanUriBytes : List Char → Cursor → Except Fault (List UInt8 × Cursor)
  | [], c => .ok ([], c)
  | _ :: fuel, c =>
    if c.peek == '%' then
      match Text.hexValue? (c.peekAt 1), Text.hexValue? (c.peekAt 2) with
      | some high, some low => do
        let (bytes, c) ← scanUriBytes fuel (c.advanceBy 3)
        return (UInt8.ofNat (16 * high + low) :: bytes, c)
      | _, _ => .error .malformed
    else .ok ([], c)

/-- The characters of a tag; bytes given by percent signs are decoded. -/
def scanUriFrom : List Char → Cursor → Scanned
  | [], c => .ok ([], c)
  | _ :: fuel, c =>
    if c.peek == '%' then do
      let (bytes, c) ← scanUriBytes fuel c
      match Text.Utf8.decode bytes with
      | .ok cs => prepend cs (scanUriFrom fuel c)
      | .error _ => .error .malformed
    else if isUriChar c.peek then prepend [c.peek] (scanUriFrom fuel c.advance)
    else .ok ([], c)

/-- A tag or its beginning, which must not be empty. -/
def scanUri (c : Cursor) : Except Fault (String × Cursor) := do
  if !(c.peek == '%' || isUriChar c.peek) then .error .malformed
  let (text, c) ← scanUriFrom ('\x00' :: c.rest) c
  return (String.ofList text, c)

/-- The line of a directive behind the percent sign. -/
def scanDirective (c : Cursor) : Except Fault (Directive × Cursor) := do
  let (name, c) ← scanName c
  if !isSpaceOrEnd c.peek then .error .malformed
  let (d, c) ←
    if name == "YAML" then do
      let (major, c) ← scanNumber c.skipSpaces
      if c.peek != '.' then .error .malformed
      let (minor, c) ← scanNumber c.advance
      if !isSpaceOrEnd c.peek then .error .malformed
      pure (Directive.version major minor, c)
    else if name == "TAG" then do
      let (handle, c) ← scanHandle c.skipSpaces
      if c.peek != ' ' then .error .malformed
      let (start, c) ← scanUri c.skipSpaces
      if !isSpaceOrEnd c.peek then .error .malformed
      pure (Directive.tag handle start, c)
    else pure (Directive.unknown, c.skipLine)
  let c ← c.endLine
  return (d, c)

/-- The name behind the sign of an anchor or alias. -/
def scanAnchor (c : Cursor) : Except Fault (String × Cursor) := do
  let (name, c) ← scanName c.advance
  if isGap c.peek || "?:,]\x7d%@`".toList.contains c.peek then return (name, c)
  else .error .malformed

/-- Does an exclamation mark come before the next space, line break or end? -/
def hasHandle : List Char → Bool
  | [] => false
  | ch :: rest => if isSpaceOrEnd ch then false else ch == '!' || hasHandle rest

/-- A tag. -/
def scanTag (c : Cursor) : Except Fault (Token × Cursor) := do
  let next := c.peekAt 1
  let (t, c) ←
    if next == '<' then do
      let (suffix, c) ← scanUri (c.advanceBy 2)
      if c.peek != '>' then .error .malformed
      pure (Token.tag none suffix, c.advance)
    else if isGap next then pure (Token.tag none "!", c.advance)
    else if hasHandle (c.rest.drop 1) then do
      let (handle, c) ← scanHandle c
      let (suffix, c) ← scanUri c
      pure (Token.tag (some handle) suffix, c)
    else do
      let (suffix, c) ← scanUri c.advance
      pure (Token.tag (some "!") suffix, c)
  if isSpaceOrEnd c.peek then return (t, c) else .error .malformed

/-! ## One token -/

/-- A directive or document marker closes all block collections. -/
def beginLine (s : Lexer) : Except Fault Lexer := do
  let s ← (s.unwind (-1)).dropKey
  return { s with allowsKey := false }

/-- A token that may be a key or the beginning of one. -/
def possibleKey (s : Lexer) (scan : Cursor → Except Fault (Token × Cursor)) :
    Except Fault Lexer := do
  let s ← s.markKey
  let (t, c) ← scan s.cursor
  return ({ s with allowsKey := false }.at_ c).emit t

/-- The hyphen of a block sequence. -/
def fetchBlockEntry (s : Lexer) : Except Fault Lexer := do
  let s ←
    if s.level == 0 then
      if s.allowsKey then pure (s.openBlock s.cursor.column (·.emit .blockSequenceStart))
      else .error .malformed
    else pure s
  let s ← { s with allowsKey := true }.dropKey
  return (s.at_ s.cursor.advance).emit .blockEntry

/-- A question mark in front of a key. -/
def fetchKey (s : Lexer) : Except Fault Lexer := do
  let s ←
    if s.level == 0 then
      if s.allowsKey then pure (s.openBlock s.cursor.column (·.emit .blockMappingStart))
      else .error .malformed
    else pure s
  let s ← { s with allowsKey := s.level == 0 }.dropKey
  return (s.at_ s.cursor.advance).emit .key

/-- The colon behind a key. -/
def fetchValue (s : Lexer) : Except Fault Lexer := do
  let s ←
    match s.keys.find? (·.level == s.level) with
    | some k =>
      let s := { s with keys := s.keys.filter (·.level != s.level) }.insertAt k.place .key
      let s :=
        if s.level == 0 then s.openBlock k.column (·.insertAt k.place .blockMappingStart) else s
      pure { s with allowsKey := false }
    | none =>
      let s ←
        if s.level == 0 then
          if s.allowsKey then pure (s.openBlock s.cursor.column (·.emit .blockMappingStart))
          else .error .malformed
        else pure s
      { s with allowsKey := s.level == 0 }.dropKey
  return (s.at_ s.cursor.advance).emit .value

/-- A block scalar. -/
def fetchBlockScalar (s : Lexer) (folded : Bool) : Except Fault Lexer := do
  let s ← { s with allowsKey := true }.dropKey
  let (text, c) ← scanBlock folded s.indent s.cursor
  return (s.at_ c).emit (.scalar (String.ofList text) false)

/-- A quoted scalar. -/
def quotedToken (c : Cursor) : Except Fault (Token × Cursor) := do
  let (text, c) ← scanQuoted c
  return (.scalar (String.ofList text) false, c)

/-- A plain scalar. -/
def fetchPlain (s : Lexer) : Except Fault Lexer := do
  let s ← s.markKey
  let (text, c, broken) := scanPlain (s.level != 0) s.indent s.cursor
  return ({ s with allowsKey := broken }.at_ c).emit (.scalar (String.ofList text) true)

/-- May a plain scalar begin here? -/
def startsPlain (s : Lexer) : Bool :=
  let ch := s.cursor.peek
  !(isGap ch || "-?:,[]\x7b\x7d#&*!|>'\"%@`".toList.contains ch) ||
    (!isGap (s.cursor.peekAt 1) && (ch == '-' || (s.level == 0 && (ch == '?' || ch == ':'))))

/-- An opening bracket or brace. -/
def openFlow (s : Lexer) (t : Token) : Except Fault Lexer := do
  let s ← s.markKey
  return ({ s with level := s.level + 1, allowsKey := true }.at_ s.cursor.advance).emit t

/-- A closing bracket or brace. -/
def closeFlow (s : Lexer) (t : Token) : Except Fault Lexer := do
  let s ← s.dropKey
  return ({ s with level := s.level - 1, allowsKey := false }.at_ s.cursor.advance).emit t

/-- Move to the next token: close the block collections that end before it. -/
def approach (s : Lexer) : Except Fault Lexer := do
  let s ← (s.skipToToken ('\x00' :: s.cursor.rest)).dropStaleKeys
  return s.unwind s.cursor.column

/-- Read the token ahead; at the end of the text, whether the end was reached. -/
def fetch (s : Lexer) : Except Fault (Lexer × Bool) := do
  let c := s.cursor
  let ch := c.peek
  let gapNext := isGap (c.peekAt 1)
  let inFlow := s.level != 0
  if ch == '\x00' then
    let s ← s.beginLine
    return (s.emit .streamEnd, true)
  let s ←
    if ch == '%' && c.column == 0 then do
      let s ← s.beginLine
      let (d, c) ← scanDirective c.advance
      pure ((s.at_ c).emit (.directive d))
    else if c.column == 0 && c.atMarker '-' then do
      let s ← s.beginLine
      pure ((s.at_ (c.advanceBy 3)).emit .documentStart)
    else if c.column == 0 && c.atMarker '.' then do
      let s ← s.beginLine
      pure ((s.at_ (c.advanceBy 3)).emit .documentEnd)
    else if ch == '[' then s.openFlow .flowSequenceStart
    else if ch == '{' then s.openFlow .flowMappingStart
    else if ch == ']' then s.closeFlow .flowSequenceEnd
    else if ch == '}' then s.closeFlow .flowMappingEnd
    else if ch == ',' then do
      let s ← { s with allowsKey := true }.dropKey
      pure ((s.at_ c.advance).emit .flowEntry)
    else if ch == '-' && gapNext then s.fetchBlockEntry
    else if ch == '?' && (inFlow || gapNext) then s.fetchKey
    else if ch == ':' && (inFlow || gapNext) then s.fetchValue
    else if ch == '*' then
      s.possibleKey fun c => (scanAnchor c).map fun (name, c) => (.alias name, c)
    else if ch == '&' then
      s.possibleKey fun c => (scanAnchor c).map fun (name, c) => (.anchor name, c)
    else if ch == '!' then s.possibleKey scanTag
    else if ch == '|' && !inFlow then s.fetchBlockScalar false
    else if ch == '>' && !inFlow then s.fetchBlockScalar true
    else if ch == '\'' || ch == '"' then s.possibleKey quotedToken
    else if s.startsPlain then s.fetchPlain
    else .error .malformed
  return (s, false)

/-- Read one token, or several if block collections end before it; at the end of the text, whether the
end was reached. -/
def step (s : Lexer) : Except Fault (Lexer × Bool) := do
  (← s.approach).fetch

/-- What comes of a step: the tokens at the end of the text or at a fault, and otherwise what follows. -/
def after (s : Lexer) (next : Lexer → List Token × Option Fault) :
    Except Fault (Lexer × Bool) → List Token × Option Fault
  | .error f => (s.tokens.reverse, some f)
  | .ok (s, true) => (s.tokens.reverse, none)
  | .ok (s, false) => next s

/-- Read tokens until the end of the text or a fault. -/
def run : Nat → Lexer → List Token × Option Fault
  | 0, s => (s.tokens.reverse, some .malformed)
  | fuel + 1, s => s.after (run fuel) s.step

end Lexer

/-- May a text hold the character? -/
def isAllowed (c : Char) : Bool :=
  let n := c.toNat
  n == 9 || n == 10 || n == 13 || (0x20 ≤ n && n ≤ 0x7E) || n == 0x85 ||
    (0xA0 ≤ n && n ≤ 0xD7FF) || (0xE000 ≤ n && n ≤ 0xFFFD) || 0x10000 ≤ n

/-- The tokens of a text, up to the fault that ends them if there is one.  A byte order mark at the
beginning is left out. -/
def tokenize (text : List Char) : List Token × Option Fault :=
  if text.all isAllowed then
    let start : Cursor := { rest := text }
    let start := if start.peek == '\ufeff' then start.advance else start
    Lexer.run (2 * text.length + 2) { cursor := start }
  else ([], some .malformed)

end CommandWrap.Yaml
