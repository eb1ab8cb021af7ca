/-!
# Bytes in base 64

Four characters give three bytes; equals signs fill up the last group.  Characters outside of the
alphabet are skipped, and what follows a complete padding is not read.
-/
namespace CommandWrap.Text.Base64

/-- The value of a character of the alphabet. -/
def value? (c : Char) : Option Nat :=
  if 'A' ≤ c ∧ c ≤ 'Z' then some (c.toNat - 65)
  else if 'a' ≤ c ∧ c ≤ 'z' then some (c.toNat - 71)
  else if '0' ≤ c ∧ c ≤ '9' then some (c.toNat + 4)
  else if c = '+' then some 62
  else if c = '/' then some 63
  else none

/-- The bytes of the characters ahead.  `filled` characters of the present group were read, `bits` is
the value of their bits that no byte has taken yet, and `pads` equals signs came right before. -/
def decodeFrom (filled bits pads : Nat) : List Char → Option (List UInt8)
  | [] => if filled = 0 then some [] else none
  | c :: rest =>
    if c = '=' then
      if 2 ≤ filled ∧ 4 ≤ filled + pads + 1 then some []
      else decodeFrom filled bits (if 2 ≤ filled then pads + 1 else pads) rest
    else
      match value? c with
      | none => decodeFrom filled bits pads rest
      | some v =>
        match filled with
        | 0 => decodeFrom 1 v 0 rest
        | 1 => (decodeFrom 2 (v % 16) 0 rest).map (UInt8.ofNat (bits * 4 + v / 16) :: ·)
        | 2 => (decodeFrom 3 (v % 4) 0 rest).map (UInt8.ofNat (bits * 16 + v / 4) :: ·)
        | _ => (decodeFrom 0 0 0 rest).map (UInt8.ofNat (bits * 64 + v) :: ·)

/-- The bytes that a text gives; nothing when its last group is incomplete. -/
def decode? (cs : List Char) : Option (List UInt8) :=
  decodeFrom 0 0 0 cs

end CommandWrap.Text.Base64
