import CommandWrap.Text.Hex

/-!
# String literals in ASCII

A string between double quotes in which every character outside printable ASCII is escaped: six of
them by a letter, the others by their UTF-16 code units in four hexadecimal digits, so a character
beyond `U+FFFF` takes two escapes.
-/
namespace CommandWrap.Text

namespace AsciiLiteral

/-- The UTF-16 code units of a code point. -/
def utf16 (n : Nat) : List Nat :=
  if n < 0x10000 then [n]
  else [0xD800 + (n - 0x10000) / 0x400, 0xDC00 + (n - 0x10000) % 0x400]

/-- One character of a literal. -/
def escape (c : Char) : List Char :=
  if c = '"' then ['\\', '"']
  else if c = '\\' then ['\\', '\\']
  else if c = '\n' then ['\\', 'n']
  else if c = '\r' then ['\\', 'r']
  else if c = '\t' then ['\\', 't']
  else if c.toNat = 8 then ['\\', 'b']
  else if c.toNat = 12 then ['\\', 'f']
  else if 32 ≤ c.toNat ∧ c.toNat < 127 then [c]
  else (utf16 c.toNat).flatMap fun unit => '\\' :: 'u' :: hexPadded 4 unit

/-- The literal of a text, as characters. -/
def encode (cs : List Char) : List Char :=
  '"' :: cs.flatMap escape ++ ['"']

end AsciiLiteral

/-- The literal of a text. -/
def asciiLiteral (s : String) : String :=
  String.ofList (AsciiLiteral.encode s.toList)

end CommandWrap.Text
