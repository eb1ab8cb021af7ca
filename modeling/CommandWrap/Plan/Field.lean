import CommandWrap.Command.Tree
import CommandWrap.Name
import CommandWrap.Shape

/-!
# Planned fields

The type tag of a flag decides what its field holds: a list, a map, or a single value of one of five
types.  A tag that is not known is taken for a text.
-/
namespace CommandWrap

/-- The types of single values. -/
inductive ScalarType
  /-- Truth values. -/
  | bool
  /-- Texts. -/
  | text
  /-- Integers. -/
  | int
  /-- Floating point numbers. -/
  | float
  /-- Complex numbers. -/
  | complex
deriving DecidableEq, Repr, Inhabited

/-- The name of a type in annotations. -/
def ScalarType.typeName : ScalarType → String
  | .bool => "bool"
  | .text => "str"
  | .int => "int"
  | .float => "float"
  | .complex => "complex"

/-- What the field of a flag holds. -/
inductive FieldType
  /-- One value. -/
  | scalar (type : ScalarType)
  /-- A list of texts. -/
  | list
  /-- A map from texts to texts. -/
  | map
deriving DecidableEq, Repr, Inhabited

namespace FieldType

/-- The tags of single values and their types. -/
def scalarTags : List (String × ScalarType) :=
  [("bool", .bool), ("string", .text), ("rune", .text), ("int", .int), ("int8", .int),
    ("int16", .int), ("int32", .int), ("int64", .int), ("uint", .int), ("uint8", .int),
    ("uint16", .int), ("uint32", .int), ("uint64", .int), ("uintptr", .int), ("byte", .int),
    ("float32", .float), ("float64", .float), ("complex64", .complex), ("complex128", .complex)]

/-- The type that a tag names, if the tag is known. -/
def ofTag? (tag : String) : Option FieldType :=
  if tag = "list" then some .list
  else if tag = "map" then some .map
  else (scalarTags.lookup tag).map .scalar

/-- The type that a tag names; a text when the tag is not known. -/
def ofTag (tag : String) : FieldType :=
  (ofTag? tag).getD (.scalar .text)

/-- The shape in which values of the type are rendered. -/
def shape : FieldType → Shape
  | .scalar _ => .single
  | .list => .list
  | .map => .map

/-- The name of the type of a value. -/
def valueTypeName : FieldType → String
  | .scalar t => t.typeName
  | .list => "list"
  | .map => "dict"

/-- The annotation of a field of the type, which may also be absent. -/
def annotation : FieldType → String
  | .scalar t => t.typeName ++ " | None"
  | .list => "list[str] | None"
  | .map => "dict[str, str] | None"

/-- The helper that declares a field of the type. -/
def helper (t : FieldType) : String :=
  match t.shape with
  | .single => "flag"
  | .list => "list_flag"
  | .map => "map_flag"

theorem helper_mem_helpers (t : FieldType) : t.helper ∈ Name.helpers := by
  cases t <;> simp [helper, shape, Name.helpers]

end FieldType

/-- How a flag appears in the option record of its command. -/
structure Field where
  /-- The flag. -/
  flag : Flag
  /-- The attribute that holds the flag's value. -/
  attr : String
  /-- What the attribute holds. -/
  type : FieldType
deriving DecidableEq, Repr, Inhabited

namespace Field

/-- The field of a flag; a flag without a name has none. -/
def ofFlag? (flag : Flag) : Option Field :=
  (Name.field? flag.name).map fun attr => { flag, attr, type := FieldType.ofTag flag.type }

/-- The shape in which the flag's value is rendered. -/
def shape (f : Field) : Shape :=
  f.type.shape

/-- The annotation of the attribute. -/
def annotation (f : Field) : String :=
  f.type.annotation

/-- The helper that declares the attribute. -/
def helper (f : Field) : String :=
  f.type.helper

end Field

end CommandWrap
