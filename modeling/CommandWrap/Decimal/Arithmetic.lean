import CommandWrap.Decimal.Binary64

/-!
# Sums and multiples of floating point numbers

Each result is the exact one rounded to the nearest pattern.  A finite number is taken as an integer
times a power of two, so sums and products are integers again.
-/
namespace CommandWrap.Decimal.Binary64

/-- The pattern nearest to `n * 2 ^ exponent`; zero takes the sign that is given. -/
def ofScaled (zeroNegative : Bool) (n exponent : Int) : Binary64 :=
  if n = 0 then ofParts zeroNegative 0 0
  else if exponent ≥ 0 then ofQuotient (n < 0) (n.natAbs * Nat.pow 2 exponent.toNat) 1
  else ofQuotient (n < 0) n.natAbs (Nat.pow 2 (-exponent).toNat)

/-- An integer with a sign. -/
def signed (negative : Bool) (n : Nat) : Int :=
  if negative then -(n : Int) else n

/-- The sum of two numbers. -/
def add (x y : Binary64) : Binary64 :=
  match x.unpack, y.unpack with
  | .nan, _ => quietNaN
  | _, .nan => quietNaN
  | .infinite a, .infinite b => if a == b then x else quietNaN
  | .infinite _, _ => x
  | _, .infinite _ => y
  | .finite a m p, .finite b n q =>
    let low := min p q
    let sum := signed a (m * Nat.pow 2 (p - low).toNat) + signed b (n * Nat.pow 2 (q - low).toNat)
    ofScaled (a && b) sum low

/-- The product with `k * 2 ^ exponent`. -/
def scale (x : Binary64) (k : Nat) (exponent : Int) : Binary64 :=
  match x.unpack with
  | .nan => quietNaN
  | .infinite _ => if k = 0 then quietNaN else x
  | .finite a m p => ofScaled a (signed a m * k) (p + exponent)

/-- The number with the other sign. -/
def negate (x : Binary64) : Binary64 :=
  match x.unpack with
  | .nan => x
  | _ => ⟨x.bits ^^^ 0x8000000000000000⟩

end CommandWrap.Decimal.Binary64
