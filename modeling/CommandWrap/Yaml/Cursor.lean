import CommandWrap.Yaml.Token

/-!
# A position in a YAML text

A cursor knows the characters ahead and its index, line and column.  Behind the end of the text it
sees the null character, which no text holds.

Readers that repeat a step take a list as a bound on the number of steps.  It holds one element more
than there are characters ahead, and each step passes at least one character, so it never runs out.
-/
namespace CommandWrap.Yaml

/-- A position in a text. -/
structure Cursor where
  /-- The characters ahead. -/
  rest : List Char
  /-- How many characters are behind. -/
  index : Nat := 0
  /-- How many lines are behind. -/
  line : Nat := 0
  /-- How many characters of the line are behind; a byte order mark does not count. -/
  column : Nat := 0
deriving Inhabited

/-- Does the character break a line? -/
def isBreak (c : Char) : Bool :=
  c == '\n' || c == '\r' || c == '\u0085' || c == '\u2028' || c == '\u2029'

/-- Does the character break a line, or is it the end of the text? -/
def isBreakOrEnd (c : Char) : Bool :=
  isBreak c || c == '\x00'

/-- Is the character a space or tab? -/
def isSpace (c : Char) : Bool :=
  c == ' ' || c == '\t'

/-- Is the character a space, tab, line break, or the end of the text? -/
def isGap (c : Char) : Bool :=
  isSpace c || isBreakOrEnd c

/-- Is the character a space, line break, or the end of the text? -/
def isSpaceOrEnd (c : Char) : Bool :=
  c == ' ' || isBreakOrEnd c

/-- May the character stand in the name of an anchor, handle or directive? -/
def isNameChar (c : Char) : Bool :=
  c.isAlphanum || c == '-' || c == '_'

namespace Cursor

/-- The next character. -/
def peek (c : Cursor) : Char :=
  c.rest.headD '\x00'

/-- The character `k` places ahead. -/
def peekAt (c : Cursor) (k : Nat) : Char :=
  c.rest.getD k '\x00'

/-- One character further. -/
def advance (c : Cursor) : Cursor :=
  match c.rest with
  | [] => c
  | ch :: rest =>
    if ch == '\r' then
      if rest.head? == some '\n' then { c with rest, index := c.index + 1, column := c.column + 1 }
      else { rest, index := c.index + 1, line := c.line + 1, column := 0 }
    else if isBreak ch then { rest, index := c.index + 1, line := c.line + 1, column := 0 }
    else if ch == '\ufeff' then { c with rest, index := c.index + 1 }
    else { c with rest, index := c.index + 1, column := c.column + 1 }

/-- Several characters further. -/
def advanceBy : Nat → Cursor → Cursor
  | 0, c => c
  | n + 1, c => advanceBy n c.advance

/-- The longest run of characters ahead with a property, and the position behind it. -/
def takeWhile (p : Char → Bool) (c : Cursor) : List Char × Cursor :=
  let taken := c.rest.takeWhile p
  (taken, c.advanceBy taken.length)

/-- The position behind the longest run of characters with a property. -/
def skipWhile (p : Char → Bool) (c : Cursor) : Cursor :=
  (c.takeWhile p).2

/-- The position behind the spaces ahead. -/
def skipSpaces (c : Cursor) : Cursor :=
  c.skipWhile (· == ' ')

/-- The position at the end of the line. -/
def skipLine (c : Cursor) : Cursor :=
  c.skipWhile (!isBreakOrEnd ·)

/-- The position behind the comment ahead, if there is one. -/
def skipComment (c : Cursor) : Cursor :=
  if c.peek == '#' then c.skipLine else c

/-- The line break ahead in normal form, and the position behind it.  Only line and paragraph
separators are kept; any other break is a line feed. -/
def lineBreak (c : Cursor) : List Char × Cursor :=
  let ch := c.peek
  if ch == '\r' && c.peekAt 1 == '\n' then (['\n'], c.advanceBy 2)
  else if ch == '\r' || ch == '\n' || ch == '\u0085' then (['\n'], c.advance)
  else if ch == '\u2028' || ch == '\u2029' then ([ch], c.advance)
  else ([], c)

/-- Is a document marker made of three times the character ahead?  It ends at a gap. -/
def atMarker (mark : Char) (c : Cursor) : Bool :=
  c.peek == mark && c.peekAt 1 == mark && c.peekAt 2 == mark && isGap (c.peekAt 3)

/-- Is the start or end of a document ahead? -/
def atSeparator (c : Cursor) : Bool :=
  c.atMarker '-' || c.atMarker '.'

/-- The position behind the rest of a line that holds only spaces and a comment. -/
def endLine (c : Cursor) : Except Fault Cursor :=
  let c := c.skipSpaces.skipComment
  if isBreakOrEnd c.peek then .ok c.lineBreak.2 else .error .malformed

/-- Line breaks ahead with the spaces and tabs before and between them; a document separator there
is a fault. -/
def flowBreaks : List Char → Cursor → Except Fault (List Char × Cursor)
  | [], c => .ok ([], c)
  | _ :: fuel, c =>
    if c.atSeparator then .error .malformed
    else
      let c := c.skipWhile isSpace
      if isBreak c.peek then do
        let (b, c) := c.lineBreak
        let (bs, c) ← flowBreaks fuel c
        return (b ++ bs, c)
      else .ok ([], c)

/-- What a line break inside a folded scalar stands for, with the breaks behind it: a single line feed
is a space, and the first of several is dropped. -/
def foldBreaks (first others : List Char) : List Char :=
  if first != ['\n'] then first ++ others
  else if others.isEmpty then [' '] else others

end Cursor

end CommandWrap.Yaml
