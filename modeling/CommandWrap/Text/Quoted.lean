import CommandWrap.Text.Hex
import CommandWrap.Unicode.Printable

/-!
# Quoted text

A text shown between quotes on one line.  Single quotes are used unless the text holds a single quote
and no double quote.  Backslashes and the chosen quote are escaped by a backslash, line feeds,
carriage returns and tabs by their letters, and every other character that is not printable by its
code point in two, four or eight hexadecimal digits.
-/
namespace CommandWrap.Text

namespace Quoted

/-- The quote that encloses a text. -/
def mark (cs : List Char) : Char :=
  if cs.contains '\'' && !cs.contains '"' then '"' else '\''

/-- The code point after a backslash, with as many digits as its size needs. -/
def escapeCode (n : Nat) : List Char :=
  if n < 0x100 then '\\' :: 'x' :: hexPadded 2 n
  else if n < 0x10000 then '\\' :: 'u' :: hexPadded 4 n
  else '\\' :: 'U' :: hexPadded 8 n

/-- One character of a text that is quoted by `mark`. -/
def escape (mark c : Char) : List Char :=
  if c = mark ∨ c = '\\' then ['\\', c]
  else if c = '\n' then ['\\', 'n']
  else if c = '\r' then ['\\', 'r']
  else if c = '\t' then ['\\', 't']
  else if c.toNat < 32 ∨ c.toNat = 127 then escapeCode c.toNat
  else if c.toNat < 127 then [c]
  else if Unicode.isPrintable c then [c]
  else escapeCode c.toNat

/-- The text between quotes, as characters. -/
def encode (cs : List Char) : List Char :=
  let m := mark cs
  m :: cs.flatMap (escape m) ++ [m]

end Quoted

/-- The text between quotes. -/
def quoted (s : String) : String :=
  String.ofList (Quoted.encode s.toList)

/-- A list of quoted texts between square brackets. -/
def quotedList (xs : List String) : String :=
  "[" ++ String.intercalate ", " (xs.map quoted) ++ "]"

end CommandWrap.Text
