import CommandWrap.Module.Source
import CommandWrap.Module.Text
import CommandWrap.Session.Wrapper

/-!
# Wrappers of a module

A generated module is read, its definitions are carried out in order, and the names that it exports are
looked up among them.  The language knows names in one spelling only, and an attribute of a class body
that is private to the class under a name with the class in it.  In the body of a type of records every
field is a value given to an attribute: a later field of the same attribute replaces an earlier one, and
a field that takes the name of a helper hides it from the fields behind it.
-/
namespace CommandWrap

/-- The name under which a class knows an attribute of its body: one that starts with two low lines
and does not end with two is prefixed by a low line and the class name without its leading low
lines. -/
def privateName (className attr : String) : String :=
  let stem := className.toList.dropWhile (· == '_')
  if attr.startsWith "__" && !attr.endsWith "__" && !stem.isEmpty then
    "_" ++ String.ofList stem ++ attr
  else attr

namespace Source

/-- The characters of a row of code points; two halves of a character that stand together are one. -/
def charsOf : List Nat → List Char
  | [] => []
  | [n] => [Char.ofNat n]
  | high :: low :: rest =>
    if 0xD800 ≤ high ∧ high < 0xDC00 ∧ 0xDC00 ≤ low ∧ low < 0xE000 then
      Char.ofNat (0x10000 + (high - 0xD800) * 0x400 + (low - 0xDC00)) :: charsOf rest
    else Char.ofNat high :: charsOf (low :: rest)

/-- The text of a row of code points. -/
def textOf (codes : List Nat) : String :=
  String.ofList (charsOf codes)

/-- The code points of a text. -/
def codesOf (s : String) : List Nat :=
  s.toList.map Char.toNat

/-- The name of the helper of a shape. -/
def helperOf : Shape → String
  | .single => "flag"
  | .list => "list_flag"
  | .map => "map_flag"

/-- The attribute that a field in the body of a class gives a value to. -/
def SourceField.target (className : String) (f : SourceField) : String :=
  privateName className (Attribute.known f.attr)

/-- The field of a record type.  The flag is lost when the type answers for the attribute. -/
def SourceField.declaration (className : String) (f : SourceField) : RecordField :=
  let attr := f.target className
  { attr
    flag? := if Attribute.answered.contains attr then none else some ⟨textOf f.flag, f.shape.word⟩
    annotation := f.type.annotation }

/-- The fields with one more, which takes the place of an earlier one of its attribute. -/
def putField (f : RecordField) : List RecordField → List RecordField
  | [] => [f]
  | e :: rest => if e.attr == f.attr then f :: rest else e :: putField f rest

/-- The first fault of the body of a class, in which the names `bound` have values. -/
def runFault? (className : String) (bound : List String) : List SourceField → Option DeclarationFault
  | [] => none
  | f :: rest =>
    if bound.contains (helperOf f.shape) then some .hiddenHelper
    else if f.target className = "__annotations__" then some .annotations
    else runFault? className (f.target className :: bound) rest

/-- The wrapper that a definition makes. -/
def Definition.wrapper : Definition → Except DeclarationFault Wrapper
  | .record name doc fields =>
    let name := Attribute.known name
    let declared := (fields.map (SourceField.declaration name)).foldl (fun fs f => putField f fs) []
    match (runFault? name [] fields).or (Attribute.bodyFault? (declared.map RecordField.attr)) with
    | some fault => .error fault
    | none => .ok (.record { name, fields := declared, frozen := false, doc := textOf doc })
  | .builder name record? doc program route =>
    .ok (.builder
      { name := Attribute.known name, program := textOf program, route := route.map textOf
        takesRecord := record?.isSome, doc := textOf doc })

/-- The wrapper that is exported under a name: the last one of its name that is defined. -/
def exported (defined : List Wrapper) (name : List Nat) : Except DeclarationFault Wrapper :=
  match defined.reverse.find? fun w => codesOf w.name == name with
  | some w => .ok w
  | none => .error (.missingName (textOf name))

/-- The wrappers that a module exports. -/
def ModuleSource.wrappers (m : ModuleSource) : Except DeclarationFault (List Wrapper) := do
  let defined ← m.definitions.mapM Definition.wrapper
  m.exports.mapM (exported defined)

/-- The wrappers that a text exports when it is run as a module. -/
def wrappersOfText (text : String) : Except DeclarationFault (List Wrapper) :=
  if text.toList.any (·.toNat == 0) then .error .nullCharacter
  else match module? text with
    | some m => m.wrappers
    | none => .error .unreadable

end Source

/-- The wrappers that the generated module of a graph exports. -/
def CommandGraph.moduleWrappers (g : CommandGraph) (exclude : List String) :
    Except WrapperError (List Wrapper) :=
  match g.generate { exclude } with
  | .error e => .error (.plan e)
  | .ok text => (Source.wrappersOfText text).mapError .badAttribute

end CommandWrap
