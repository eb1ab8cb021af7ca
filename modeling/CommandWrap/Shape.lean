/-!
# Shapes of option values

The shape of a flag says how its value becomes command-line arguments: one argument for a single
value, a pair of arguments for each element of a list, or a pair for each entry of a map.
-/
namespace CommandWrap

/-- How the value of a flag becomes arguments. -/
inductive Shape
  /-- One argument `--name=value`. -/
  | single
  /-- Two arguments `--name item` for each element. -/
  | list
  /-- Two arguments `--name key=value` for each entry. -/
  | map
deriving DecidableEq, Repr, Inhabited

namespace Shape

/-- The word that names a shape. -/
def word : Shape → String
  | .single => "single"
  | .list => "list"
  | .map => "map"

/-- The word of a shape in capitals, its name among the members of the enumeration. -/
def memberName : Shape → String
  | .single => "SINGLE"
  | .list => "LIST"
  | .map => "MAP"

/-- The shape that a word names. -/
def ofWord? (w : String) : Option Shape :=
  if w = "single" then some .single
  else if w = "list" then some .list
  else if w = "map" then some .map
  else none

theorem ofWord?_word (s : Shape) : ofWord? s.word = some s := by
  cases s <;> decide

end Shape

end CommandWrap
