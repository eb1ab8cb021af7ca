/-!
# Decoding UTF-8

Bytes are decoded strictly: over-long forms, surrogates and code points beyond `U+10FFFF` are faults.
A fault names the bytes that it blames and why: a byte that starts no character, a byte that does not
continue the character begun before it, or the end of the bytes inside a character.
-/
namespace CommandWrap.Text.Utf8

/-- Why bytes are no character. -/
inductive Reason
  /-- The byte starts no character. -/
  | start
  /-- The next byte does not continue the character. -/
  | continuation
  /-- The bytes end inside the character. -/
  | ending
deriving DecidableEq, Repr

/-- Bytes that are no character: the position of the first, how many they are, and why. -/
structure Fault where
  /-- The first of the bytes. -/
  first : UInt8
  /-- Its position. -/
  position : Nat
  /-- The number of bytes. -/
  length : Nat
  /-- The reason. -/
  reason : Reason
deriving DecidableEq, Repr

/-- The words for a reason. -/
def Reason.words : Reason → String
  | .start => "invalid start byte"
  | .continuation => "invalid continuation byte"
  | .ending => "unexpected end of data"

/-- Two hexadecimal digits. -/
def hexByte (b : UInt8) : String :=
  let digits := Nat.toDigits 16 b.toNat
  String.ofList (if digits.length < 2 then '0' :: digits else digits)

/-- The text of a fault. -/
def Fault.message (f : Fault) : String :=
  "'utf-8' codec can't decode " ++
    (if f.length = 1 then "byte 0x" ++ hexByte f.first ++ " in position " ++ toString f.position
      else "bytes in position " ++ toString f.position ++ "-" ++
        toString (f.position + f.length - 1)) ++
    ": " ++ f.reason.words

/-- Does the byte continue a character? -/
def continues (b : UInt8) : Bool :=
  0x80 ≤ b.toNat && b.toNat < 0xC0

/-- How many bytes a character has that starts with the byte; zero if none does. -/
def expected (b : UInt8) : Nat :=
  let n := b.toNat
  if n < 0x80 then 1 else if n < 0xC2 then 0 else if n < 0xE0 then 2 else if n < 0xF0 then 3
  else if n < 0xF5 then 4 else 0

/-- May the second byte follow the first?  It must continue the character, and after some first
bytes only half of the range is allowed. -/
def follows (first second : UInt8) : Bool :=
  continues second &&
    (if first = 0xE0 then second.toNat ≥ 0xA0
      else if first = 0xED then second.toNat < 0xA0
      else if first = 0xF0 then second.toNat ≥ 0x90
      else if first = 0xF4 then second.toNat < 0x90
      else true)

/-- The payload of a continuing byte. -/
def payload (b : UInt8) : Nat :=
  b.toNat % 0x40

/-- How many of the bytes behind the first belong to its character: up to `wanted`, as far as they
may follow. -/
def followers (first : UInt8) (wanted : Nat) (rest : List UInt8) : Nat :=
  match wanted, rest with
  | 0, _ => 0
  | _ + 1, [] => 0
  | n + 1, second :: more =>
    if follows first second then 1 + ((more.take n).takeWhile continues).length else 0

/-- Decode bytes from a position on. -/
def decodeFrom (position : Nat) (bytes : List UInt8) : Except Fault (List Char) :=
  match bytes with
  | [] => .ok []
  | b :: rest =>
    let size := expected b
    if size = 0 then .error ⟨b, position, 1, .start⟩
    else
      let got := followers b (size - 1) rest
      if got + 1 < size then
        .error ⟨b, position, got + 1, if rest.length ≤ got then .ending else .continuation⟩
      else
        let tail := rest.drop got
        let lead := if size = 1 then b.toNat else b.toNat % Nat.pow 2 (7 - size)
        let code := (rest.take got).foldl (fun n c => 0x40 * n + payload c) lead
        match decodeFrom (position + size) tail with
        | .ok cs => .ok (Char.ofNat code :: cs)
        | .error f => .error f
termination_by bytes.length
decreasing_by
  simp only [List.length_cons, List.length_drop]
  omega

/-- Decode bytes. -/
def decode (bytes : List UInt8) : Except Fault (List Char) :=
  decodeFrom 0 bytes

/-- Decode bytes that are read piece by piece: the bytes at the end that might begin a character are
looked at on their own, so a fault in them counts from their own beginning. -/
def decodePiecewise (bytes : List UInt8) : Except Fault (List Char) :=
  match decode bytes with
  | .error f => .error (if f.reason = .ending then { f with position := 0 } else f)
  | ok => ok

/-- Carriage returns, with or without a line feed behind them, become line feeds. -/
def normalizeNewlines : List Char → List Char
  | [] => []
  | '\r' :: '\n' :: rest => '\n' :: normalizeNewlines rest
  | c :: rest => (if c = '\r' then '\n' else c) :: normalizeNewlines rest

end CommandWrap.Text.Utf8
