import CommandWrap.Decimal.Arithmetic
import CommandWrap.Decimal.Reader
import CommandWrap.Document.Datum
import CommandWrap.Text.Base64
import CommandWrap.Text.ByteText
import CommandWrap.Yaml.Schema
import CommandWrap.Yaml.Token

/-!
# The values of scalars

What the text of a scalar stands for once its type is known.  Underscores between digits do not count,
and numbers may be written by groups that are worth sixty times the group behind them.
-/
namespace CommandWrap.Yaml.Scalar

open Decimal (Binary64)

/-- The text without underscores. -/
def withoutMarks (text : String) : List Char :=
  text.toList.filter (· != '_')

/-- The integer that a text writes in a base. -/
def integer (base : Nat) (cs : List Char) : Except Fault Int :=
  (Decimal.integer base (String.ofList cs)).mapError fun f => .badValue f.message

/-- The floating point number that a text writes. -/
def float (cs : List Char) : Except Fault Binary64 :=
  let text := String.ofList cs
  match Decimal.float? text with
  | some x => .ok x
  | none => .error (.badValue ("could not convert string to float: " ++ Text.quoted text))

/-- A part of the text between colons. -/
def colonParts (cs : List Char) : List (List Char) :=
  match cs with
  | [] => [[]]
  | c :: rest =>
    match colonParts rest with
    | [] => [[c]]
    | part :: parts => if c = ':' then [] :: part :: parts else (c :: part) :: parts

/-- The sign of a number and what follows it; an empty text is a fault. -/
def splitSign (cs : List Char) : Except Fault (Bool × List Char) :=
  match cs with
  | [] => .error .emptyNumber
  | _ => .ok (Decimal.splitSign cs)

/-- The value of an integer: binary behind `0b`, hexadecimal behind `0x`, octal behind `0`. -/
def intOf (text : String) : Except Fault Int := do
  let (negative, cs) ← splitSign (withoutMarks text)
  let n ← match cs with
    | [] => .error .emptyNumber
    | ['0'] => .ok 0
    | '0' :: 'b' :: rest => integer 2 rest
    | '0' :: 'x' :: rest => integer 16 rest
    | '0' :: _ => integer 8 cs
    | _ =>
      if cs.contains ':' then do
        let parts ← (colonParts cs).mapM (integer 10)
        pure (parts.foldl (60 * · + ·) 0)
      else integer 10 cs
  return if negative then -n else n

/-- The value of groups of floating point numbers, the last first; the group ahead is worth `unit`,
which must not be too large for a floating point number. -/
def sumGroups (unit : Nat) (sum : Binary64) : List Binary64 → Except Fault Binary64
  | [] => .ok sum
  | x :: rest =>
    match (Binary64.ofInt unit).unpack with
    | .finite _ m p => sumGroups (60 * unit) (sum.add (x.scale m p)) rest
    | _ => .error .overflow

/-- The value of a floating point number. -/
def floatOf (text : String) : Except Fault Binary64 := do
  let (negative, cs) ← splitSign ((withoutMarks text).map Char.toLower)
  let x ← match String.ofList cs with
    | ".inf" => .ok (Binary64.infinity false)
    | ".nan" => .ok Binary64.quietNaN
    | _ =>
      if cs.contains ':' then do
        let parts ← (colonParts cs).mapM float
        sumGroups 1 (Binary64.ofParts false 0 0) parts.reverse
      else float cs
  return if negative then x.negate else x

/-- The value of a word of truth in any case. -/
def boolOf (text : String) : Except Fault Bool :=
  let word := String.ofList (text.toList.map Char.toLower)
  if Schema.trueWords.contains word then .ok true
  else if Schema.falseWords.contains word then .ok false
  else .error (.noTruthValue word)

/-- The normal form of a date or time. -/
def timestampOf (text : String) : Except Fault Datum :=
  match Timestamp.parse? (Schema.withoutLastBreak text.toList) with
  | none => .error .noTimestamp
  | some (t, _) =>
    match t.fault? with
    | some message => .error (.badValue message)
    | none => .ok (.other t.text false)

/-- The bytes that a text in base 64 gives. -/
def bytesOf (text : String) : Except Fault Datum :=
  if text.toList.any fun c => 127 < c.toNat then .error .malformed
  else
    match Text.Base64.decode? text.toList with
    | none => .error .malformed
    | some bytes => .ok (.other (Text.ByteText.quoted bytes) bytes.isEmpty)

end CommandWrap.Yaml.Scalar
