import CommandWrap.Text.Hex
import CommandWrap.Yaml.Cursor

/-!
# The texts of scalars

A scalar is written plain, between single or double quotes, or as a block of lines.  Each reader takes
the position at which the scalar begins and gives its text and the position behind it.  Line breaks
inside a scalar are folded, except in a literal block.
-/
namespace CommandWrap.Yaml

/-- What a reader of scalars gives. -/
abbrev Scanned := Except Fault (List Char × Cursor)

/-- The same result with characters in front. -/
def prepend (cs : List Char) (r : Scanned) : Scanned :=
  r.map fun (text, c) => (cs ++ text, c)

/-! ## Quoted scalars -/

/-- The characters that one letter behind a backslash stands for. -/
def escapeLetter? (ch : Char) : Option Char :=
  match ch with
  | '0' => some '\x00'
  | 'a' => some '\x07'
  | 'b' => some '\x08'
  | 't' => some '\t'
  | '\t' => some '\t'
  | 'n' => some '\n'
  | 'v' => some '\x0b'
  | 'f' => some '\x0c'
  | 'r' => some '\r'
  | 'e' => some '\x1b'
  | ' ' => some ' '
  | '"' => some '"'
  | '\\' => some '\\'
  | '/' => some '/'
  | 'N' => some '\u0085'
  | '_' => some '\u00a0'
  | 'L' => some '\u2028'
  | 'P' => some '\u2029'
  | _ => none

/-- How many hexadecimal digits follow a letter behind a backslash. -/
def escapeWidth? (ch : Char) : Option Nat :=
  match ch with
  | 'x' => some 2
  | 'u' => some 4
  | 'U' => some 8
  | _ => none

/-- The character of a code point given by `width` hexadecimal digits ahead. -/
def scanCode (width : Nat) (c : Cursor) : Except Fault (Char × Cursor) :=
  let digits := c.rest.take width
  match if digits.length = width then Text.hexNumber? digits else none with
  | none => .error .malformed
  | some code =>
    if code < 0x110000 then .ok (Char.ofNat code, c.advanceBy width) else .error (.noSuchCode code)

/-- What stands behind a backslash between double quotes: a character, or a line break that is left
out. -/
def scanEscape (fuel : List Char) (c : Cursor) : Scanned :=
  let ch := c.peek
  match escapeLetter? ch, escapeWidth? ch with
  | some plain, _ => .ok ([plain], c.advance)
  | none, some width => do
    let (code, c) ← scanCode width c.advance
    return ([code], c)
  | none, none =>
    if isBreak ch then c.lineBreak.2.flowBreaks fuel else .error .malformed

/-- The characters of a quoted scalar up to a space, tab, line break, or the closing quote. -/
def scanSolid (double : Bool) : List Char → Cursor → Scanned
  | [], c => .ok ([], c)
  | _ :: fuel, c =>
    let (run, c) := c.takeWhile fun ch => ch != '\'' && ch != '"' && ch != '\\' && !isGap ch
    let ch := c.peek
    if !double && ch == '\'' && c.peekAt 1 == '\'' then
      prepend (run ++ ['\'']) (scanSolid double fuel (c.advanceBy 2))
    else if (double && ch == '\'') || (!double && (ch == '"' || ch == '\\')) then
      prepend (run ++ [ch]) (scanSolid double fuel c.advance)
    else if double && ch == '\\' then do
      let (cs, c) ← scanEscape fuel c.advance
      prepend (run ++ cs) (scanSolid double fuel c)
    else .ok (run, c)

/-- The spaces or line breaks inside a quoted scalar. -/
def scanInnerSpace (fuel : List Char) (c : Cursor) : Scanned :=
  let (spaces, c) := c.takeWhile isSpace
  if c.peek == '\x00' then .error .malformed
  else if isBreak c.peek then do
    let (first, c) := c.lineBreak
    let (others, c) ← c.flowBreaks fuel
    return (Cursor.foldBreaks first others, c)
  else .ok (spaces, c)

/-- The rest of a quoted scalar, closing quote included. -/
def scanQuotedRest (quote : Char) : List Char → Cursor → Scanned
  | [], c => .ok ([], c)
  | _ :: fuel, c =>
    if c.peek == quote then .ok ([], c.advance)
    else do
      let (space, c) ← scanInnerSpace fuel c
      let (solid, c) ← scanSolid (quote == '"') fuel c
      prepend (space ++ solid) (scanQuotedRest quote fuel c)

/-- A quoted scalar. -/
def scanQuoted (c : Cursor) : Scanned := do
  let quote := c.peek
  let fuel := '\x00' :: c.rest
  let (solid, c) ← scanSolid (quote == '"') fuel c.advance
  prepend solid (scanQuotedRest quote fuel c)

/-! ## Plain scalars -/

/-- Is the character one of the marks of a flow collection? -/
def isFlowMark (ch : Char) : Bool :=
  ch == ',' || ch == '[' || ch == ']' || ch == '{' || ch == '}'

/-- How many characters ahead belong to a plain scalar without a space among them. -/
def plainLength (inFlow : Bool) : List Char → Nat
  | [] => 0
  | ch :: rest =>
    let next := rest.headD '\x00'
    if isGap ch || (ch == ':' && (isGap next || (inFlow && isFlowMark next))) ||
        (inFlow && (ch == '?' || isFlowMark ch)) then 0
    else 1 + plainLength inFlow rest

/-- Line breaks ahead with the spaces before and between them; nothing when a document separator is at
the start of one of the lines. -/
def plainBreaks : List Char → Cursor → Option (List Char) × Cursor
  | [], c => (some [], c)
  | _ :: fuel, c =>
    let c := c.skipSpaces
    if isBreak c.peek then
      let (b, c) := c.lineBreak
      if c.atSeparator then (none, c)
      else
        let (bs, c) := plainBreaks fuel c
        (bs.map (b ++ ·), c)
    else (some [], c)

/-- The space behind a part of a plain scalar: what it stands for if the scalar may go on, the position
behind it, and whether it breaks the line. -/
def plainSpace (fuel : List Char) (c : Cursor) : List Char × Cursor × Bool :=
  let (spaces, c) := c.takeWhile (· == ' ')
  if isBreak c.peek then
    let (first, c) := c.lineBreak
    if c.atSeparator then ([], c, true)
    else
      let (others, c) := plainBreaks fuel c
      ((others.map (Cursor.foldBreaks first)).getD [], c, true)
  else (spaces, c, false)

/-- What a plain scalar gives: its text, the position behind it, and whether a line break was passed
at its end. -/
abbrev PlainScanned := List Char × Cursor × Bool

/-- A plain scalar from a part on, with the space before that part. -/
def scanPlainFrom (inFlow : Bool) (indent : Int) :
    List Char → List Char → Cursor → Bool → PlainScanned
  | [], _, c, broken => ([], c, broken)
  | _ :: fuel, space, c, broken =>
    if c.peek == '#' then ([], c, broken)
    else
      let length := plainLength inFlow c.rest
      if length = 0 then ([], c, broken)
      else
        let part := c.rest.take length
        let (next, d, broken) := plainSpace fuel (c.advanceBy length)
        if next.isEmpty || d.peek == '#' || (!inFlow && (d.column : Int) < indent) then
          (space ++ part, d, broken)
        else
          let (text, e, broken) := scanPlainFrom inFlow indent fuel next d broken
          (space ++ part ++ text, e, broken)

/-- A plain scalar in a collection with the given indentation. -/
def scanPlain (inFlow : Bool) (indent : Int) (c : Cursor) : PlainScanned :=
  scanPlainFrom inFlow (indent + 1) ('\x00' :: c.rest) [] c false

/-! ## Block scalars -/

/-- What happens to the line breaks at the end of a block. -/
inductive Chomp
  /-- All are left out. -/
  | strip
  /-- One is kept. -/
  | clip
  /-- All are kept. -/
  | keep
deriving DecidableEq, Repr

/-- The chomping sign ahead, if there is one. -/
def scanChomp? (c : Cursor) : Option (Chomp × Cursor) :=
  if c.peek == '+' then some (.keep, c.advance)
  else if c.peek == '-' then some (.strip, c.advance)
  else none

/-- The indentation digit ahead, if there is one; it must not be zero. -/
def scanIncrement? (c : Cursor) : Except Fault (Option (Nat × Cursor)) :=
  let ch := c.peek
  if ch == '0' then .error .malformed
  else if '1' ≤ ch && ch ≤ '9' then .ok (some (ch.toNat - 48, c.advance))
  else .ok none

/-- The signs behind the indicator of a block, in either order. -/
def scanBlockHeader (c : Cursor) : Except Fault (Chomp × Option Nat × Cursor) := do
  let (chomp, increment, c) ← match scanChomp? c with
    | some (chomp, c) => do
      match ← scanIncrement? c with
      | some (n, c) => pure (chomp, some n, c)
      | none => pure (chomp, none, c)
    | none => do
      match ← scanIncrement? c with
      | some (n, c) =>
        match scanChomp? c with
        | some (chomp, c) => pure (chomp, some n, c)
        | none => pure (.clip, some n, c)
      | none => pure (.clip, none, c)
  if isSpaceOrEnd c.peek then return (chomp, increment, c) else .error .malformed

/-- The line breaks before a block's first line, the widest indentation among them, and the position
behind. -/
def scanIndentation : List Char → Cursor → List Char × Nat × Cursor
  | [], c => ([], 0, c)
  | _ :: fuel, c =>
    if c.peek == ' ' then
      let c := c.advance
      let (bs, widest, d) := scanIndentation fuel c
      (bs, max c.column widest, d)
    else if isBreak c.peek then
      let (b, c) := c.lineBreak
      let (bs, widest, d) := scanIndentation fuel c
      (b ++ bs, widest, d)
    else ([], 0, c)

/-- Up to `indent` columns of spaces. -/
def skipIndent (indent : Nat) : List Char → Cursor → Cursor
  | [], c => c
  | _ :: fuel, c =>
    if c.column < indent && c.peek == ' ' then skipIndent indent fuel c.advance else c

/-- The line breaks between the lines of a block with the given indentation. -/
def scanBlockBreaks (indent : Nat) : List Char → Cursor → List Char × Cursor
  | [], c => ([], c)
  | f :: fuel, c =>
    let c := skipIndent indent (f :: fuel) c
    if isBreak c.peek then
      let (b, c) := c.lineBreak
      let (bs, c) := scanBlockBreaks indent fuel c
      (b ++ bs, c)
    else ([], c)

/-- What stands between two lines of a block: a folded block joins them by a space unless one of them
begins with a space or tab. -/
def blockJoin (folded solid : Bool) (lineBreak breaks : List Char) (next : Char) : List Char :=
  if folded && lineBreak == ['\n'] && solid && !isSpace next then
    if breaks.isEmpty then [' '] else []
  else lineBreak

/-- The lines of a block: their text, the last line break, the breaks behind it, and the position
behind. -/
def scanBlockLines (folded : Bool) (indent : Nat) :
    List Char → List Char → List Char → Cursor → List Char × List Char × List Char × Cursor
  | [], last, breaks, c => ([], last, breaks, c)
  | f :: fuel, last, breaks, c =>
    if c.column == indent && c.peek != '\x00' then
      let solid := !isSpace c.peek
      let (line, c) := c.takeWhile (!isBreakOrEnd ·)
      let (lineBreak, c) := c.lineBreak
      let (more, c) := scanBlockBreaks indent (f :: fuel) c
      if c.column == indent && c.peek != '\x00' then
        let join := blockJoin folded solid lineBreak more c.peek
        let (text, last, rest, c) := scanBlockLines folded indent fuel lineBreak more c
        (breaks ++ line ++ join ++ text, last, rest, c)
      else (breaks ++ line, lineBreak, more, c)
    else ([], last, breaks, c)

/-- A block scalar in a collection with the given indentation. -/
def scanBlock (folded : Bool) (indent : Int) (c : Cursor) : Scanned := do
  let (chomp, increment, c) ← scanBlockHeader c.advance
  let c ← c.endLine
  let fuel := '\x00' :: c.rest
  let least := (max (indent + 1) 1).toNat
  let (breaks, width, c) := match increment with
    | none =>
      let (bs, widest, d) := scanIndentation fuel c
      (bs, max least widest, d)
    | some n =>
      let width := least + n - 1
      let (bs, d) := scanBlockBreaks width fuel c
      (bs, width, d)
  let (text, last, rest, c) := scanBlockLines folded width fuel [] breaks c
  return (text ++ (if chomp == .strip then [] else last) ++ (if chomp == .keep then rest else []), c)

end CommandWrap.Yaml
