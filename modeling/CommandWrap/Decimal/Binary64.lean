/-!
# Binary floating point numbers of 64 bits

A number is kept as its bit pattern.  `unpack` says what the pattern stands for, and `ofDecimal`
rounds a decimal number to the nearest pattern, a tie going to the even significand.
-/
namespace CommandWrap.Decimal

/-- A floating point number of 64 bits, given by its bit pattern. -/
structure Binary64 where
  /-- Sign bit, eleven exponent bits, fifty-two fraction bits. -/
  bits : UInt64
deriving DecidableEq, Repr, Inhabited

/-- What a bit pattern stands for. -/
inductive Unpacked
  /-- Not a number. -/
  | nan
  /-- An infinity. -/
  | infinite (negative : Bool)
  /-- The number `significand * 2 ^ exponent`, or its negative. -/
  | finite (negative : Bool) (significand : Nat) (exponent : Int)
deriving DecidableEq, Repr

namespace Binary64

/-- The eleven exponent bits. -/
def biased (x : Binary64) : Nat :=
  x.bits.toNat / Nat.pow 2 52 % Nat.pow 2 11

/-- The fifty-two fraction bits. -/
def fraction (x : Binary64) : Nat :=
  x.bits.toNat % Nat.pow 2 52

/-- Is the sign bit set? -/
def isNegative (x : Binary64) : Bool :=
  x.bits.toNat / Nat.pow 2 63 == 1

/-- The meaning of the bit pattern. -/
def unpack (x : Binary64) : Unpacked :=
  if x.biased = 2047 then
    if x.fraction = 0 then .infinite x.isNegative else .nan
  else if x.biased = 0 then .finite x.isNegative x.fraction (-1074)
  else .finite x.isNegative (Nat.pow 2 52 + x.fraction) (x.biased - 1075)

/-- The pattern with the given sign, exponent bits and fraction bits. -/
def ofParts (negative : Bool) (biased fraction : Nat) : Binary64 :=
  ⟨UInt64.ofNat ((if negative then Nat.pow 2 63 else 0) + biased * Nat.pow 2 52 + fraction)⟩

/-- An infinity. -/
def infinity (negative : Bool) : Binary64 :=
  ofParts negative 2047 0

/-- The quiet pattern that is not a number. -/
def quietNaN : Binary64 :=
  ofParts false 2047 (Nat.pow 2 51)

/-- A quotient rounded to the nearest natural number, a tie going to the even one. -/
def roundQuotient (num den : Nat) : Nat :=
  let floor := num / den
  let rest := 2 * (num % den)
  if rest < den then floor
  else if rest = den then floor + floor % 2
  else floor + 1

/-- The number of binary digits of a natural number. -/
def bitLength (n : Nat) : Nat :=
  if n = 0 then 0 else n.log2 + 1

/-- The nearest pattern to `num / den`, where `den` is positive.  The exponent is chosen so that the
significand has fifty-three bits, or as small as the format allows. -/
def ofQuotient (negative : Bool) (num den : Nat) : Binary64 :=
  if num = 0 then ofParts negative 0 0
  else
    let guess : Int := (bitLength num : Int) - (bitLength den : Int) - 53
    let exact (q : Int) : Nat :=
      if q ≥ 0 then num / (den * Nat.pow 2 q.toNat) else num * Nat.pow 2 (-q).toNat / den
    let fitted : Int := if exact guess < Nat.pow 2 52 then guess - 1
      else if exact guess ≥ Nat.pow 2 53 then guess + 1 else guess
    let q : Int := if fitted < -1074 then -1074 else fitted
    let m :=
      if q ≥ 0 then roundQuotient num (den * Nat.pow 2 q.toNat)
      else roundQuotient (num * Nat.pow 2 (-q).toNat) den
    let (m, q) := if m ≥ Nat.pow 2 53 then (m / 2, q + 1) else (m, q)
    if q + 1075 ≥ 2047 then infinity negative
    else if m < Nat.pow 2 52 then ofParts negative 0 m
    else ofParts negative (q + 1075).toNat (m - Nat.pow 2 52)

/-- The nearest pattern to `digits * 10 ^ exponent`. -/
def ofDecimal (negative : Bool) (digits : Nat) (exponent : Int) : Binary64 :=
  let size : Int := (Nat.toDigits 10 digits).length + exponent
  if digits = 0 then ofParts negative 0 0
  else if size > 400 then infinity negative
  else if size < -400 then ofParts negative 0 0
  else if exponent ≥ 0 then ofQuotient negative (digits * Nat.pow 10 exponent.toNat) 1
  else ofQuotient negative digits (Nat.pow 10 (-exponent).toNat)

/-- The nearest pattern to an integer. -/
def ofInt (i : Int) : Binary64 :=
  ofQuotient (i < 0) i.natAbs 1

/-- Does the pattern stand for the integer `i`? -/
def isInt (x : Binary64) (i : Int) : Bool :=
  match x.unpack with
  | .finite negative m q =>
    let size := i.natAbs
    let sizes := if q ≥ 0 then m * Nat.pow 2 q.toNat == size else m == size * Nat.pow 2 (-q).toNat
    sizes && (i == 0 || (negative == decide (i < 0)))
  | _ => false

/-- Equality of numbers: the two zeros are equal, and what is not a number equals nothing. -/
def numEq (x y : Binary64) : Bool :=
  match x.unpack, y.unpack with
  | .nan, _ => false
  | _, .nan => false
  | .finite _ 0 _, .finite _ 0 _ => true
  | _, _ => x.bits == y.bits

end Binary64

end CommandWrap.Decimal
