import CommandWrap.Decimal.Binary64
import CommandWrap.Text.Blank
import CommandWrap.Text.Quoted
import CommandWrap.Unicode.Digit

/-!
# Numbers from texts

Integers in a given base and floating point numbers.  Digits of every script count, blanks may stand
around a number, and single underscores between its digits.
-/
namespace CommandWrap.Decimal

/-- The value of a decimal digit of any script. -/
def decimalDigit? (c : Char) : Option Nat :=
  (Unicode.decimalDigitTable.ranges.find? fun (first, last) =>
    decide (first ≤ c.toNat) && decide (c.toNat ≤ last)).map fun (first, _) =>
      (c.toNat - first) % 10

/-- The value of a digit or letter of a base. -/
def digit? (base : Nat) (c : Char) : Option Nat :=
  let value := match decimalDigit? c with
    | some n => some n
    | none =>
      if 'a' ≤ c ∧ c ≤ 'z' then some (c.toNat - 87)
      else if 'A' ≤ c ∧ c ≤ 'Z' then some (c.toNat - 55)
      else none
  value.filter (· < base)

/-- The digits of a number without the underscores between them; nothing when it has none, or when an
underscore does not stand between two digits. -/
def digits? (base : Nat) : List Char → Option (List Nat)
  | [] => none
  | [c] => (digit? base c).map ([·])
  | c :: d :: rest => do
    let n ← digit? base c
    let ns ← if d = '_' then digits? base rest else digits? base (d :: rest)
    return n :: ns

/-- The number that digits write. -/
def ofDigits (base : Nat) (ns : List Nat) : Nat :=
  ns.foldl (base * · + ·) 0

/-- A sign in front of a text. -/
def splitSign : List Char → Bool × List Char
  | '-' :: rest => (true, rest)
  | '+' :: rest => (false, rest)
  | cs => (false, cs)

/-- The mark that may stand in front of the digits of a base. -/
def isBaseMark (base : Nat) (c : Char) : Bool :=
  (base == 2 && (c == 'b' || c == 'B')) || (base == 8 && (c == 'o' || c == 'O')) ||
    (base == 16 && (c == 'x' || c == 'X'))

/-- The digits behind the mark of a base, if there is one; an underscore may follow the mark. -/
def dropBaseMark (base : Nat) : List Char → List Char
  | '0' :: m :: rest =>
    if isBaseMark base m then
      match rest with
      | '_' :: rest => rest
      | _ => rest
    else '0' :: m :: rest
  | cs => cs

/-- Why a text is no integer. -/
inductive IntegerFault
  /-- It is not written as one. -/
  | notInteger (base : Nat) (text : String)
  /-- It has too many digits. -/
  | tooLong (digits : Nat)
deriving DecidableEq, Repr

/-- The text of the fault; a long text is cut off. -/
def IntegerFault.message : IntegerFault → String
  | .notInteger base text =>
    "invalid literal for int() with base " ++ toString base ++ ": " ++
      String.ofList ((Text.quoted text).toList.take 200)
  | .tooLong digits =>
    "Exceeds the limit (4300 digits) for integer string conversion: value has " ++
      toString digits ++ " digits; use sys.set_int_max_str_digits() to increase the limit"

/-- The integer that a text writes in a base.  Only bases that are no power of two bound the number of
digits. -/
def integer (base : Nat) (text : String) : Except IntegerFault Int :=
  let (negative, cs) := splitSign (Text.strip text).toList
  match digits? base (dropBaseMark base cs) with
  | none => .error (.notInteger base text)
  | some ns =>
    if base == 10 && 4300 < ns.length then .error (.tooLong ns.length)
    else
      let n : Int := ofDigits base ns
      .ok (if negative then -n else n)

/-- The digits of a part of a decimal number; the part may be empty. -/
def partDigits? (cs : List Char) : Option (List Nat) :=
  if cs.isEmpty then some [] else digits? 10 cs

/-- A signed exponent. -/
def exponent? (cs : List Char) : Option Int :=
  let (negative, cs) := splitSign cs
  (digits? 10 cs).map fun ns =>
    let n : Int := ofDigits 10 ns
    if negative then -n else n

/-- The number that a text without sign and blanks writes with digits, at most one point and at most
one exponent. -/
def decimal? (negative : Bool) (cs : List Char) : Option Binary64 := do
  let (mantissa, tail) := cs.span fun c => c != 'e' && c != 'E'
  let exponent ← match tail with
    | [] => some 0
    | _ :: e => exponent? e
  let (whole, rest) := mantissa.span (· != '.')
  let whole ← partDigits? whole
  let fraction ← partDigits? (rest.drop 1)
  if whole.isEmpty && fraction.isEmpty then none
  else return Binary64.ofDecimal negative (ofDigits 10 (whole ++ fraction)) (exponent - fraction.length)

/-- The floating point number that a text writes; the words `inf`, `infinity` and `nan` count in any
case. -/
def float? (text : String) : Option Binary64 :=
  let (negative, cs) := splitSign (Text.strip text).toList
  let word := String.ofList (cs.map Char.toLower)
  if word == "inf" || word == "infinity" then some (Binary64.infinity negative)
  else if word == "nan" then some Binary64.quietNaN
  else decimal? negative cs

end CommandWrap.Decimal
