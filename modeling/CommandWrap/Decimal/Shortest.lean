import CommandWrap.Decimal.Binary64

/-!
# The shortest decimal that reads back

A number `m * 2 ^ q` is written with the fewest decimal digits that still round to it.  The reals
that round to it form an interval around it, which holds its ends exactly when `m` is even.  For one
digit, two digits and so on, the two neighbours of the number on that decimal grid are tested; the
first grid with a neighbour in the interval wins, of two neighbours the nearer, and of two equally
near the even one.
-/
namespace CommandWrap.Decimal

/-- The decimal number `digits * 10 ^ exponent`. -/
structure Scientific where
  /-- The significant digits. -/
  digits : Nat
  /-- The power of ten by which they count. -/
  exponent : Int
deriving DecidableEq, Repr, Inhabited

namespace Shortest

/-- A positive number with the interval of reals that round to it, all four counted in the unit
`num / den`. -/
structure Target where
  /-- The lower end of the interval. -/
  low : Nat
  /-- The number itself. -/
  value : Nat
  /-- The upper end of the interval. -/
  high : Nat
  /-- Numerator of the unit. -/
  num : Nat
  /-- Denominator of the unit. -/
  den : Nat
  /-- Do the ends belong to the interval? -/
  closed : Bool

/-- The number `m * 2 ^ q`.  Below a power of two the neighbouring numbers are only half as far
apart, unless the exponent is the least one. -/
def Target.ofBinary (m : Nat) (q : Int) : Target :=
  let narrow := m = Nat.pow 2 52 ∧ q > -1074
  { low := if narrow then 4 * m - 1 else 4 * m - 2
    value := 4 * m
    high := 4 * m + 2
    num := if q ≥ 2 then Nat.pow 2 (q - 2).toNat else 1
    den := if q ≥ 2 then 1 else Nat.pow 2 (2 - q).toNat
    closed := m % 2 = 0 }

/-- The same target counted in units of `10 ^ k`: the number is `value * num / den` of them. -/
def Target.scale (t : Target) (k : Int) : Target :=
  if k ≥ 0 then { t with den := t.den * Nat.pow 10 k.toNat }
  else { t with num := t.num * Nat.pow 10 (-k).toNat }

/-- Does the grid point `c` round to the number? -/
def Target.holds (t : Target) (c : Nat) : Bool :=
  let point := c * t.den
  if t.closed then t.low * t.num ≤ point && point ≤ t.high * t.num
  else t.low * t.num < point && point < t.high * t.num

/-- The neighbour of the number on the grid that rounds to it and lies nearest. -/
def Target.nearest? (t : Target) : Option Nat :=
  let below := t.value * t.num / t.den
  let above := below + 1
  match t.holds below, t.holds above with
  | true, true =>
    let down := t.value * t.num - below * t.den
    let up := above * t.den - t.value * t.num
    if down < up then some below
    else if up < down then some above
    else some (below + below % 2)
  | true, false => some below
  | false, true => some above
  | false, false => none

/-- The least `j ≤ fuel` with `10 ^ j * num ≥ den`. -/
def leadingZeros (num den : Nat) : Nat → Nat → Nat
  | 0, j => j
  | fuel + 1, j => if Nat.pow 10 j * num ≥ den then j else leadingZeros num den fuel (j + 1)

/-- The power of ten of the leading digit of `num / den`. -/
def leadingExponent (num den : Nat) : Int :=
  if num ≥ den then ((Nat.toDigits 10 (num / den)).length : Int) - 1
  else -(leadingZeros num den 400 1 : Int)

/-- Try grids with `n`, `n + 1`, … digits. -/
def search (t : Target) (leading : Int) : Nat → Nat → Scientific
  | 0, n => ⟨t.value * t.num / t.den, leading - n + 1⟩
  | fuel + 1, n =>
    let k := leading - n + 1
    match (t.scale k).nearest? with
    | some c => ⟨c, k⟩
    | none => search t leading fuel (n + 1)

/-- The same number without zeros at the end of its digits. -/
def dropZeros (digits : Nat) (exponent : Int) : Scientific :=
  if h : digits ≠ 0 ∧ digits % 10 = 0 then dropZeros (digits / 10) (exponent + 1)
  else ⟨digits, exponent⟩
termination_by digits
decreasing_by omega

end Shortest

/-- The shortest decimal that rounds to `m * 2 ^ q`. -/
def shortest (m : Nat) (q : Int) : Scientific :=
  if m = 0 then ⟨0, 0⟩
  else
    let t := Shortest.Target.ofBinary m q
    let leading := Shortest.leadingExponent (t.value * t.num) t.den
    let found := Shortest.search t leading 17 1
    Shortest.dropZeros found.digits found.exponent

end CommandWrap.Decimal
