import CommandWrap.Decimal.Shortest

/-!
# The text of a floating point number

A number is written by its shortest digits, positionally when the power of ten of its leading digit
is at least `-4` and below `16`, and otherwise with an exponent of at least two digits.
-/
namespace CommandWrap.Decimal

/-- The choices in writing a floating point number. -/
structure FloatStyle where
  /-- Write `.0` after a positional number without a fraction. -/
  keepsPoint : Bool
  /-- Write a plus sign before what is not negative. -/
  showsPlus : Bool
  /-- The word for an infinity. -/
  infinityWord : String
  /-- The word for what is not a number. -/
  nanWord : String

/-- The digits with a point inside, before or after them; `leading` is the power of ten of the first
digit. -/
def positional (keepsPoint : Bool) (digits : List Char) (leading : Int) : List Char :=
  if leading < 0 then
    '0' :: '.' :: (List.replicate (-leading - 1).toNat '0' ++ digits)
  else
    let whole := leading.toNat + 1
    if digits.length ≤ whole then
      digits ++ List.replicate (whole - digits.length) '0' ++ (if keepsPoint then ['.', '0'] else [])
    else digits.take whole ++ '.' :: digits.drop whole

/-- One digit before the point, the others behind it, and the exponent. -/
def exponential (digits : List Char) (leading : Int) : List Char :=
  let size := Nat.toDigits 10 leading.natAbs
  let padded := if size.length < 2 then '0' :: size else size
  let sign := if leading < 0 then '-' else '+'
  match digits with
  | [] => []
  | [d] => d :: 'e' :: sign :: padded
  | d :: rest => d :: '.' :: (rest ++ 'e' :: sign :: padded)

/-- The text of a decimal that is not negative. -/
def Scientific.text (keepsPoint : Bool) (x : Scientific) : List Char :=
  let digits := Nat.toDigits 10 x.digits
  let leading : Int := x.exponent + (digits.length : Int) - 1
  if -4 ≤ leading ∧ leading < 16 then positional keepsPoint digits leading
  else exponential digits leading

/-- The text of a floating point number. -/
def Binary64.text (style : FloatStyle) (x : Binary64) : String :=
  let sign (negative : Bool) : String := if negative then "-" else if style.showsPlus then "+" else ""
  match x.unpack with
  | .nan => (if style.showsPlus then "+" else "") ++ style.nanWord
  | .infinite negative => sign negative ++ style.infinityWord
  | .finite negative m q => sign negative ++ String.ofList ((shortest m q).text style.keepsPoint)

end CommandWrap.Decimal
