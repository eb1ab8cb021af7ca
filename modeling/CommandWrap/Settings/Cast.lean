import CommandWrap.Decimal.Reader
import CommandWrap.Document.DatumText

/-!
# Casts

A cast gives a value another type.  A cast of a list or map is that of its items or values; several
values are taken as a list.  `Cast.datum?` gives nothing for a value that has no such cast.
-/
namespace CommandWrap.Settings

/-- The type that a cast gives. -/
inductive Cast
  /-- A whole number. -/
  | whole
  /-- A number with a point. -/
  | number
  /-- A truth value. -/
  | truth
  /-- A text. -/
  | text
deriving DecidableEq, Repr

namespace Cast

/-- The cast with a name. -/
def ofName? : String → Option Cast
  | "int" => some .whole
  | "float" => some .number
  | "bool" => some .truth
  | "str" => some .text
  | _ => none

/-- The whole number that is left when the digits behind the point are left out. -/
def truncated? (x : Decimal.Binary64) : Option Int :=
  match x.unpack with
  | .finite negative m q =>
    let size := if 0 ≤ q then m * Nat.pow 2 q.toNat else m / Nat.pow 2 (-q).toNat
    some (if negative then -(size : Int) else size)
  | _ => none

/-- The number that a truth value counts as. -/
def count (b : Bool) : Int :=
  if b then 1 else 0

/-- A text as a whole number. -/
def wholeOfText? (s : String) : Option Datum :=
  (Decimal.integer 10 s).toOption.map Datum.int

/-- A text as a truth value, in any case. -/
def truthOfText? (s : String) : Option Datum :=
  match String.ofList (s.toList.map Char.toLower) with
  | "true" => some (.bool true)
  | "false" => some (.bool false)
  | _ => none

/-- The cast of a value that is neither a list nor a map. -/
def scalar? : Cast → Datum → Option Datum
  | .whole, .int i => some (.int i)
  | .whole, .bool b => some (.int (count b))
  | .whole, .float x => (truncated? x).map Datum.int
  | .whole, .text s => wholeOfText? s
  | .number, .int i => some (.float (.ofInt i))
  | .number, .bool b => some (.float (.ofInt (count b)))
  | .number, .float x => some (.float x)
  | .number, .text s => (Decimal.float? s).map Datum.float
  | .truth, .int i => some (.bool (i != 0))
  | .truth, .bool b => some (.bool b)
  | .truth, .float x => some (.bool !(x.isInt 0))
  | .truth, .text s => truthOfText? s
  | .text, .bool b => some (.text (if b then "true" else "false"))
  | .text, .null => none
  | .text, d => some (.text d.display)
  | _, _ => none

mutual

/-- The cast of a value. -/
def datum? (c : Cast) : Datum → Option Datum
  | .list ds => (items? c ds).map Datum.list
  | .map es => (entries? c es).map Datum.map
  | d => c.scalar? d

/-- The casts of the items of a list. -/
def items? (c : Cast) : List Datum → Option (List Datum)
  | [] => some []
  | d :: rest => do
    let d ← datum? c d
    let ds ← items? c rest
    return d :: ds

/-- The casts of the values of a map. -/
def entries? (c : Cast) : List (Datum × Datum) → Option (List (Datum × Datum))
  | [] => some []
  | (k, d) :: rest => do
    let d ← datum? c d
    let es ← entries? c rest
    return (k, d) :: es

end

/-- The cast with a name, of one value or of several as a list. -/
def ofCall? (name : String) (values : List Datum) : Option Datum := do
  let c ← ofName? name
  match values with
  | [] => none
  | [d] => c.datum? d
  | ds => c.datum? (.list ds)

end Cast

end CommandWrap.Settings
