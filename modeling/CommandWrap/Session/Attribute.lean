import CommandWrap.Plan.Field
import CommandWrap.Unicode.NormalForm

/-!
# Attributes with a meaning of their own

A record is declared, made and read by way of attributes.  A field that takes the name of such an
attribute stands in its place, and the record then works differently or not at all.  The names are of
four kinds: a type **answers** for some of them itself, so that a field of the name loses its flag; some
**make** a record; by some the fields of a record are **read**; and some are **guarded**, so that a record
that does not declare them cannot give them any value.  With other names the type cannot even be
declared.
-/
namespace CommandWrap

namespace Attribute

/-- Attributes that a type answers for itself: a field of such a name does not keep its flag. -/
def answered : List String :=
  ["__base__", "__bases__", "__basicsize__", "__class__", "__dataclass_params__", "__dictoffset__",
    "__flags__", "__itemsize__", "__mro__", "__name__", "__text_signature__", "__weakrefoffset__"]

/-- Attributes that are called before the arguments of a new record are looked at. -/
def allocators : List String := ["__new__", "__init__"]

/-- The attribute that is called for every value that a record gets. -/
def setter : String := "__setattr__"

/-- The attribute that is called when a record has all its values. -/
def finisher : String := "__post_init__"

/-- Attributes that are called when a record is made. -/
def makers : List String := allocators ++ [setter, finisher]

/-- The attribute that is called for every value that is read. -/
def getter : String := "__getattribute__"

/-- The attribute that holds the fields of a record. -/
def fieldTable : String := "__dataclass_fields__"

/-- Attributes by which the fields of a record are read. -/
def readers : List String := [getter, fieldTable]

/-- Attributes of every record that take special values only. -/
def guarded : List String := ["__class__", "__dict__", "__weakref__"]

/-- **A field of this attribute is like any other**: it keeps its flag, and its record can be made and
read. -/
def isOrdinary (attr : String) : Bool :=
  !(answered ++ makers ++ readers).contains attr

end Attribute

/-- Why a type of records cannot be declared. -/
inductive DeclarationFault
  /-- An attribute is no identifier. -/
  | noIdentifier (attr : String)
  /-- A field stands where the names of the attributes are expected. -/
  | attributeNames
  /-- A field stands where the qualified name of the type is expected. -/
  | qualifiedName
  /-- A field stands where the cell of the type is expected. -/
  | typeCell
  /-- The attribute holds something of this kind that all records would share. -/
  | sharedDefault (attr kind : String)
  /-- Two parameters of the function that makes records have one name. -/
  | repeatedParameter (name : String) (line : Nat)
  /-- An attribute is a constant of the language. -/
  | constant
  /-- An attribute is read in another spelling than it is written. -/
  | spelling (attr : String)
  /-- A field stands where the annotations of the fields are collected. -/
  | annotations
  /-- A field stands where the name of the module is expected. -/
  | moduleName
  /-- A helper that a field calls is hidden by an earlier field. -/
  | hiddenHelper
  /-- The text of the module holds a null character. -/
  | nullCharacter
  /-- The text of the module is no module. -/
  | unreadable
  /-- The module exports a name that it does not define. -/
  | missingName (name : String)
deriving DecidableEq, Repr

/-- The text of the fault. -/
def DeclarationFault.message : DeclarationFault → String
  | .noIdentifier attr => "Field names must be valid identifiers: " ++ Text.quoted attr
  | .attributeNames => "'Field' object is not iterable"
  | .qualifiedName => "type __qualname__ must be a str, not Field"
  | .typeCell => "__classcell__ must be a nonlocal cell, not <class 'dataclasses.Field'>"
  | .sharedDefault attr kind =>
    "mutable default <class '" ++ kind ++ "'> for field " ++ attr ++
      " is not allowed: use default_factory"
  | .repeatedParameter name line =>
    "duplicate argument '" ++ name ++ "' in function definition (<string>, line " ++ toString line ++
      ")"
  | .constant => "cannot assign to __debug__ (<string>, line 2)"
  | .spelling attr => "__create_fn__() got an unexpected keyword argument '_type_" ++ attr ++ "'"
  | .annotations => "'Field' object does not support item assignment"
  | .moduleName => "'NoneType' object has no attribute '__dict__'"
  | .hiddenHelper => "'Field' object is not callable"
  | .nullCharacter => "source code string cannot contain null bytes"
  | .unreadable => "invalid syntax"
  | .missingName name => name

namespace Attribute

/-- The attribute in the spelling in which the language knows it. -/
def known (attr : String) : String :=
  String.ofList (Unicode.normalForm attr.toList)

/-- Attributes that hold something that all records of a type would share, with its kind. -/
def sharedKinds : List (String × String) :=
  [("__annotations__", "dict"), ("__dict__", "mappingproxy")]

/-- The first word that came before. -/
def firstRepeated? (earlier : List String) : List String → Option String
  | [] => none
  | w :: ws => if earlier.contains w then some w else firstRepeated? (w :: earlier) ws

/-- The parameter that stands for the record itself in the function that makes records. -/
def selfParameter (attrs : List String) : String :=
  if attrs.contains "self" then "__dataclass_self__" else "self"

/-! ## Checks of a declaration, on the attributes in order -/

/-- Every attribute is an identifier. -/
def checkIdentifiers (attrs : List String) : Option DeclarationFault :=
  (attrs.find? fun attr => !Unicode.isIdentifier attr.toList).map .noIdentifier

/-- No field has a name that the type itself needs. -/
def checkTypeNames (attrs : List String) : Option DeclarationFault :=
  if attrs.contains "__slots__" then some .attributeNames
  else if attrs.contains "__qualname__" then some .qualifiedName
  else if attrs.contains "__classcell__" then some .typeCell
  else none

/-- No field has the name by which the module of the type is looked up. -/
def checkModuleName (attrs : List String) : Option DeclarationFault :=
  if attrs.contains "__module__" then some .moduleName else none

/-- No field has something shared for its default. -/
def checkDefaults (attrs : List String) : Option DeclarationFault :=
  attrs.findSome? fun attr => (sharedKinds.lookup attr).map (.sharedDefault attr)

/-- No two fields are known under one name. -/
def checkRepeated (attrs : List String) : Option DeclarationFault :=
  (firstRepeated? [] (attrs.map known)).map fun name => .repeatedParameter ("_type_" ++ name) 1

/-- No field is known under the name of the record itself. -/
def checkSelf (attrs : List String) : Option DeclarationFault :=
  if (attrs.map known).contains (selfParameter attrs) then
    some (.repeatedParameter (selfParameter attrs) 2)
  else none

/-- No field is known under the name of a constant. -/
def checkConstant (attrs : List String) : Option DeclarationFault :=
  if (attrs.map known).contains "__debug__" then some .constant else none

/-- Every field is known under the name that it is declared with. -/
def checkSpelling (attrs : List String) : Option DeclarationFault :=
  (attrs.find? fun attr => known attr != attr).map .spelling

/-- The first fault of a type of records that is put together from these attributes. -/
def fault? (attrs : List String) : Option DeclarationFault :=
  [checkIdentifiers, checkTypeNames, checkDefaults, checkRepeated, checkSelf, checkConstant,
    checkSpelling].findSome? (· attrs)

/-- The first fault of a type of records whose body has given values to these attributes. -/
def bodyFault? (attrs : List String) : Option DeclarationFault :=
  [checkTypeNames, checkModuleName, checkDefaults, checkSelf].findSome? (· attrs)

end Attribute

end CommandWrap
