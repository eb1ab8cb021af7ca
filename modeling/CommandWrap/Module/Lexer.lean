import CommandWrap.Text.Hex

/-!
# The tokens of a module

The text of a module is cut into logical lines, each with its indentation and its tokens: names, marks
and texts.  Blank lines and comments make no line, and inside brackets a line goes on behind its end.  A
text between double quotes, or between runs of three of them, is read with its backslash escapes, one
after the other, and stands for a row of code points.  A carriage return ends a line, together with a
line feed behind it.

The reader goes through the characters once and keeps what it is in the middle of (`Mode`).  What the
language allows and modules do not need, such as single quotes, makes it fail, and so does a null
character anywhere.
-/
namespace CommandWrap.Source

/-- A token. -/
inductive Token
  /-- A run of letters, digits and low lines, or of characters outside ASCII. -/
  | name (cs : List Char)
  /-- A bracket or an operator sign. -/
  | mark (c : Char)
  /-- A text, as the code points that it stands for. -/
  | text (codes : List Nat)
deriving DecidableEq, Repr

/-- A logical line. -/
structure Line where
  /-- The number of spaces in front of it. -/
  indent : Nat
  /-- The tokens in order. -/
  tokens : List Token
deriving DecidableEq, Repr

/-- What the reader is in the middle of.  Rows of characters and code points have the last one first;
`long` says that a text stands between runs of three quotes. -/
inductive Mode
  /-- The spaces in front of a line. -/
  | start (indent : Nat)
  /-- Tokens; `word` is the name that has begun, if any. -/
  | code (word : List Char)
  /-- A comment. -/
  | comment
  /-- A text of which one quote was read. -/
  | quote
  /-- A text of which two quotes and nothing else were read. -/
  | quotes
  /-- The characters of a text. -/
  | text (long : Bool) (codes : List Nat)
  /-- Quotes in a long text, less than three. -/
  | closing (quotes : Nat) (codes : List Nat)
  /-- A backslash in a text. -/
  | escape (long : Bool) (codes : List Nat)
  /-- A character by its number, of which some hexadecimal digits are missing. -/
  | hex (long : Bool) (codes : List Nat) (missing value : Nat)
  /-- A character by its number, in at most three octal digits. -/
  | octal (long : Bool) (codes : List Nat) (missing value : Nat)
  /-- The text is no module. -/
  | failed
deriving DecidableEq, Repr

/-- The state of the reader. -/
structure State where
  /-- What it is in the middle of. -/
  mode : Mode
  /-- The indentation of the line. -/
  indent : Nat
  /-- The tokens of the line, the last one first. -/
  tokens : List Token
  /-- How many brackets are open. -/
  depth : Nat
  /-- The lines before, the last one first. -/
  lines : List Line
  /-- Was the last character a carriage return? -/
  returned : Bool
deriving DecidableEq, Repr

/-- Is the character part of a name? -/
def isNameChar (c : Char) : Bool :=
  c.isAlphanum || c == '_' || 128 ≤ c.toNat

/-- Signs that are tokens by themselves. -/
def signs : List Char := [':', ',', '.', '=', '|', '@', '-', '>']

/-- The code points of escapes of one letter. -/
def letterEscapes : List (Char × Nat) :=
  [('\\', 92), ('\'', 39), ('"', 34), ('a', 7), ('b', 8), ('f', 12), ('n', 10), ('r', 13), ('t', 9),
    ('v', 11)]

/-- How many digits follow the letter of an escape by number. -/
def hexEscapes : List (Char × Nat) :=
  [('x', 2), ('u', 4), ('U', 8)]

/-- The largest code point. -/
def maxCode : Nat := 0x10FFFF

/-- The value of an octal digit. -/
def octalValue? (c : Char) : Option Nat :=
  if '0' ≤ c ∧ c ≤ '7' then some (c.toNat - 48) else none

namespace State

/-- The state at the start of a line, behind the lines `lines`. -/
def atStart (lines : List Line) : State :=
  { mode := .start 0, indent := 0, tokens := [], depth := 0, lines, returned := false }

/-- The state of a reader that has failed. -/
def fail (s : State) : State :=
  { s with mode := .failed }

/-- One more token. -/
def push (s : State) (t : Token) : State :=
  { s with mode := .code [], tokens := t :: s.tokens }

/-- The name that has begun is a token, if there is one. -/
def flush (s : State) (word : List Char) : State :=
  if word.isEmpty then s else s.push (.name word.reverse)

/-- The line ends, unless a bracket is open. -/
def endLine (s : State) : State :=
  if 0 < s.depth then { s with mode := .code [] }
  else if s.tokens.isEmpty then { s with mode := .start 0, indent := 0 }
  else
    { s with
      mode := .start 0, indent := 0, tokens := []
      lines := ⟨s.indent, s.tokens.reverse⟩ :: s.lines }

/-- A character between tokens. -/
def inCode (s : State) (c : Char) : State :=
  if isNameChar c then { s with mode := .code [c] }
  else if c = ' ' then { s with mode := .code [] }
  else if c = '\n' then s.endLine
  else if c = '#' then { s with mode := .comment }
  else if c = '"' then { s with mode := .quote }
  else if c = '(' ∨ c = '[' then { s.push (.mark c) with depth := s.depth + 1 }
  else if c = ')' ∨ c = ']' then
    if s.depth = 0 then s.fail else { s.push (.mark c) with depth := s.depth - 1 }
  else if signs.contains c then s.push (.mark c)
  else s.fail

/-- A character of a text. -/
def inText (s : State) (long : Bool) (codes : List Nat) (c : Char) : State :=
  if c = '\\' then { s with mode := .escape long codes }
  else if c = '"' then
    if long then { s with mode := .closing 1 codes } else s.push (.text codes.reverse)
  else if c = '\n' ∧ !long then s.fail
  else { s with mode := .text long (c.toNat :: codes) }

/-- The character behind a backslash. -/
def inEscape (s : State) (long : Bool) (codes : List Nat) (c : Char) : State :=
  if c = '\n' then { s with mode := .text long codes }
  else match letterEscapes.lookup c, hexEscapes.lookup c, octalValue? c with
    | some code, _, _ => { s with mode := .text long (code :: codes) }
    | none, some digits, _ => { s with mode := .hex long codes digits 0 }
    | none, none, some value => { s with mode := .octal long codes 2 value }
    | none, none, none =>
      if c = 'N' then s.fail else { s with mode := .text long (c.toNat :: 92 :: codes) }

/-- A hexadecimal digit of a character that is given by its number. -/
def inHex (s : State) (long : Bool) (codes : List Nat) (missing value : Nat) (c : Char) : State :=
  match Text.hexValue? c with
  | none => s.fail
  | some digit =>
    let value := value * 16 + digit
    if 1 < missing then { s with mode := .hex long codes (missing - 1) value }
    else if value ≤ maxCode then { s with mode := .text long (value :: codes) }
    else s.fail

/-- An octal digit, or the first character behind a character that is given by its number. -/
def inOctal (s : State) (long : Bool) (codes : List Nat) (missing value : Nat) (c : Char) : State :=
  match octalValue? c with
  | none => s.inText long (value :: codes) c
  | some digit =>
    if 1 < missing then { s with mode := .octal long codes (missing - 1) (value * 8 + digit) }
    else { s with mode := .text long ((value * 8 + digit) :: codes) }

/-- The next character, where a carriage return is a line feed. -/
def feed (s : State) (c : Char) : State :=
  if c.toNat = 0 then s.fail
  else match s.mode with
    | .start indent =>
      if c = ' ' then { s with mode := .start (indent + 1) } else { s with indent := indent }.inCode c
    | .code word =>
      if isNameChar c then { s with mode := .code (c :: word) }
      else if c = '"' ∧ !word.isEmpty then s.fail
      else (s.flush word).inCode c
    | .comment => if c = '\n' then s.endLine else s
    | .quote => if c = '"' then { s with mode := .quotes } else s.inText false [] c
    | .quotes => if c = '"' then { s with mode := .text true [] } else (s.push (.text [])).inCode c
    | .text long codes => s.inText long codes c
    | .closing quotes codes =>
      if c = '"' then
        if quotes = 2 then s.push (.text codes.reverse) else { s with mode := .closing 2 codes }
      else s.inText true (List.replicate quotes 34 ++ codes) c
    | .escape long codes => s.inEscape long codes c
    | .hex long codes missing value => s.inHex long codes missing value c
    | .octal long codes missing value => s.inOctal long codes missing value c
    | .failed => s

/-- The next character. -/
def step (s : State) (c : Char) : State :=
  if c = '\r' then { s.feed '\n' with returned := true }
  else if c = '\n' ∧ s.returned then { s with returned := false }
  else { s.feed c with returned := false }

/-- The state after characters. -/
def run (s : State) (cs : List Char) : State :=
  cs.foldl step s

end State

/-- The logical lines of a text, if it ends at the end of a line and outside of brackets. -/
def lines? (cs : List Char) : Option (List Line) :=
  let s := (State.atStart []).run cs
  match s.mode with
  | .start _ => if s.depth = 0 then some s.lines.reverse else none
  | _ => none

end CommandWrap.Source
