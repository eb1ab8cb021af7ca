import CommandWrap.Text.Hex

/-!
# Bytes shown as text

Bytes between quotes behind the letter `b`.  Printable bytes of the ASCII range stand for themselves,
all others are written by an escape.
-/
namespace CommandWrap.Text.ByteText

/-- One byte between quotes of the given kind. -/
def escape (mark : Char) (b : UInt8) : List Char :=
  let n := b.toNat
  let c := Char.ofNat n
  if c = mark ∨ c = '\\' then ['\\', c]
  else if n = 10 then ['\\', 'n']
  else if n = 13 then ['\\', 'r']
  else if n = 9 then ['\\', 't']
  else if 32 ≤ n ∧ n < 127 then [c]
  else '\\' :: 'x' :: hexPadded 2 n

/-- Bytes as text: single quotes are used unless there is a single quote and no double quote among
them. -/
def quoted (bytes : List UInt8) : String :=
  let mark := if bytes.contains 39 && !bytes.contains 34 then '"' else '\''
  String.ofList ('b' :: mark :: bytes.flatMap (escape mark) ++ [mark])

end CommandWrap.Text.ByteText
