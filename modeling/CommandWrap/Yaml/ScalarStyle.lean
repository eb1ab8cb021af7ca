import CommandWrap.Text.Hex
import CommandWrap.Yaml.Cursor
import CommandWrap.Yaml.Schema

/-!
# How a text is written as a scalar

A text is written plain if it is read back as the same text, between single quotes if it has no
characters that need an escape, and between double quotes otherwise.  Long lines are folded at single
spaces; between double quotes a line may end anywhere behind a backslash.
-/
namespace CommandWrap.Yaml

/-- The three ways to write a text. -/
inductive ScalarStyle
  /-- Without quotes. -/
  | plain
  /-- Between single quotes. -/
  | single
  /-- Between double quotes, with escapes. -/
  | double
deriving DecidableEq, Repr

namespace ScalarStyle

/-- Does a line break in a written text: line feeds and the line separators, but no carriage return? -/
def isWrittenBreak (c : Char) : Bool :=
  c == '\n' || c == '\u0085' || c == '\u2028' || c == '\u2029'

/-- Must the character be escaped? -/
def isSpecial (c : Char) : Bool :=
  let n := c.toNat
  !(n == 10 || (0x20 ≤ n && n ≤ 0x7E) ||
    ((n == 0x85 || (0xA0 ≤ n && n ≤ 0xD7FF) || (0xE000 ≤ n && n ≤ 0xFFFD) ||
      (0x10000 ≤ n && n < 0x10FFFF)) && n != 0xFEFF))

/-- Is the character an indicator at the beginning of a plain scalar, whatever follows? -/
def isLeadingIndicator (c : Char) : Bool :=
  ("#,[]&*!|>'\"%@`".toList.contains c) || c == '{' || c == '}'

/-- Does a colon end the text or stand before a gap, or a number sign stand behind one? -/
def hasInnerIndicator : List Char → Bool
  | [] => false
  | c :: rest =>
    (c == ':' && isGap (rest.headD ' ')) || (isGap c && rest.head? == some '#') ||
      hasInnerIndicator rest

/-- Would the text be taken for something else in a block if it had no quotes? -/
def hasIndicator (cs : List Char) : Bool :=
  let leading := match cs with
    | [] => false
    | c :: rest =>
      isLeadingIndicator c || ((c == '?' || c == '-') && isGap (rest.headD ' '))
  leading || hasInnerIndicator cs || ['-', '-', '-'].isPrefixOf cs || ['.', '.', '.'].isPrefixOf cs

/-- Does a character with the first property stand before one with the second? -/
def hasPair (p q : Char → Bool) : List Char → Bool
  | c :: d :: rest => (p c && q d) || hasPair p q (d :: rest)
  | _ => false

/-- Is the character a space? -/
def isBlankSpace (c : Char) : Bool :=
  c == ' '

/-- May the text be written between single quotes? -/
def allowsSingle (cs : List Char) : Bool :=
  !cs.any isSpecial && !hasPair isWrittenBreak isBlankSpace cs &&
    !hasPair isBlankSpace isWrittenBreak cs

/-- May the text be written plain, as far as its characters go? -/
def allowsPlain (cs : List Char) : Bool :=
  allowsSingle cs && !cs.any isWrittenBreak && !hasIndicator cs && cs.head? != some ' ' &&
    cs.getLast? != some ' '

/-- The way to write a text. -/
def choose (schema : Schema) (text : String) : ScalarStyle :=
  let cs := text.toList
  if schema.kindOf text == .text && allowsPlain cs then .plain
  else if allowsSingle cs then .single
  else .double

/-! ## Plain and single-quoted texts -/

/-- A maximal part of a text: a run of spaces, of line breaks, or of other characters. -/
inductive Run
  /-- So many spaces. -/
  | spaces (count : Nat)
  /-- Line breaks. -/
  | breaks (cs : List Char)
  /-- Other characters. -/
  | solid (cs : List Char)
deriving DecidableEq, Repr

/-- Put a character in front of the runs of a text. -/
def extend (c : Char) (runs : List Run) : List Run :=
  if c == ' ' then
    match runs with
    | .spaces n :: rest => .spaces (n + 1) :: rest
    | _ => .spaces 1 :: runs
  else if isWrittenBreak c then
    match runs with
    | .breaks cs :: rest => .breaks (c :: cs) :: rest
    | _ => .breaks [c] :: runs
  else
    match runs with
    | .solid cs :: rest => .solid (c :: cs) :: rest
    | _ => .solid [c] :: runs

/-- The runs of a text. -/
def runs (cs : List Char) : List Run :=
  cs.foldr extend []

/-- A line feed and the indentation of the next line. -/
def newLine (indent : Nat) : List Char :=
  '\n' :: List.replicate indent ' '

/-- The characters of line breaks: a line feed is written twice at the beginning, because a single one
would be read as a space. -/
def breakText (indent : Nat) (cs : List Char) : List Char :=
  (if cs.head? == some '\n' then ['\n'] else []) ++ cs ++ List.replicate indent ' '

/-- The width beyond which a line is folded. -/
def maxWidth : Nat := 80

/-- The runs of a text from a column on.  A single space between two runs is replaced by a new line
where the line is too long. -/
def foldRuns (quoteWidth indent : Nat) (isFirst : Bool) (column : Nat) : List Run → List Char
  | [] => []
  | .solid cs :: rest =>
    let written := if quoteWidth = 0 then cs else
      cs.flatMap fun c => if c == '\'' then ['\'', '\''] else [c]
    written ++ foldRuns quoteWidth indent false (column + written.length) rest
  | .spaces n :: rest =>
    if n = 1 && maxWidth < column && !isFirst && !rest.isEmpty then
      newLine indent ++ foldRuns quoteWidth indent false indent rest
    else List.replicate n ' ' ++ foldRuns quoteWidth indent false (column + n) rest
  | .breaks cs :: rest =>
    breakText indent cs ++ foldRuns quoteWidth indent false indent rest

/-! ## Double-quoted texts -/

/-- Does the character stand for itself between double quotes? -/
def isDirect (c : Char) : Bool :=
  let n := c.toNat
  n != 0x22 && n != 0x5C && n != 0x2028 && n != 0x2029 && n != 0xFEFF &&
    ((0x20 ≤ n && n ≤ 0x7E) || (0xA0 ≤ n && n ≤ 0xD7FF) || (0xE000 ≤ n && n ≤ 0xFFFD))

/-- The letter that stands behind a backslash for a character, if it has one. -/
def escapeLetter? (c : Char) : Option Char :=
  match c.toNat with
  | 0 => some '0'
  | 7 => some 'a'
  | 8 => some 'b'
  | 9 => some 't'
  | 10 => some 'n'
  | 11 => some 'v'
  | 12 => some 'f'
  | 13 => some 'r'
  | 27 => some 'e'
  | 0x22 => some '"'
  | 0x5C => some '\\'
  | 0x85 => some 'N'
  | 0xA0 => some '_'
  | 0x2028 => some 'L'
  | 0x2029 => some 'P'
  | _ => none

/-- The escape of a character. -/
def escape (c : Char) : List Char :=
  let digits (width : Nat) := (Text.hexPadded width c.toNat).map Char.toUpper
  match escapeLetter? c with
  | some letter => ['\\', letter]
  | none =>
    if c.toNat ≤ 0xFF then '\\' :: 'x' :: digits 2
    else if c.toNat ≤ 0xFFFF then '\\' :: 'u' :: digits 4
    else '\\' :: 'U' :: digits 8

/-- The end of a line between double quotes; a space that begins the next line is escaped. -/
def foldBefore (indent : Nat) (next : Char) : List Char :=
  '\\' :: newLine indent ++ (if next == ' ' then ['\\'] else [])

/-- The column behind the end of a line and the beginning of the next. -/
def columnAfterFold (indent : Nat) (next : Char) : Nat :=
  if next == ' ' then indent + 1 else indent

/-- A text between double quotes from a column on.  A line that is too long ends before a space, and
before or behind an escape. -/
def escapeFrom (indent : Nat) (isFirst afterEscape : Bool) (column : Nat) : List Char → List Char
  | [] => []
  | c :: rest =>
    let mayFold := !isFirst && !rest.isEmpty
    if isDirect c then
      if mayFold && (c == ' ' || afterEscape) && maxWidth < column then
        foldBefore indent c ++
          c :: escapeFrom indent false false (columnAfterFold indent c + 1) rest
      else c :: escapeFrom indent false false (column + 1) rest
    else
      let written := escape c
      let column := column + written.length
      if mayFold && maxWidth + 1 < column then
        let next := rest.headD ' '
        written ++ foldBefore indent next ++
          escapeFrom indent false true (columnAfterFold indent next) rest
      else written ++ escapeFrom indent false true column rest

/-- A text from a column on, in the given style. -/
def write (style : ScalarStyle) (indent column : Nat) (cs : List Char) : List Char :=
  match style with
  | .plain => foldRuns 0 indent true column (runs cs)
  | .single => '\'' :: foldRuns 1 indent true (column + 1) (runs cs) ++ ['\'']
  | .double => '"' :: escapeFrom indent true false (column + 1) cs ++ ['"']

end ScalarStyle

end CommandWrap.Yaml
