import CommandWrap.Session.Module
import CommandWrap.Value.Compare

/-!
# Sessions

A session makes option records, changes them and builds invocations from them.  Values live in cells,
and the attributes of a record refer to cells: a record made by replacing attributes of another shares
the cells that were not replaced, so an element appended to a shared list shows in both.  An
invocation that was built is itself a record, of a type whose attributes are fixed.

Some attributes work by their own rules (`Attribute`): a field of such a name may keep records of its
type from being made or read, and without such a field a record takes special values for them or none.
-/
namespace CommandWrap

/-- A record: its type, and the cell of every attribute it has, declared or not. -/
structure Record where
  /-- The type. -/
  type : RecordType
  /-- The attributes with their cells. -/
  slots : List (String × Nat)
deriving Repr, Inhabited

/-- The cells of values and the named records of a session. -/
structure Store where
  /-- The values by cell. -/
  cells : Array Value := #[]
  /-- The named records, the latest first. -/
  named : List (String × Record) := []
deriving Inhabited

/-- One step of a session. -/
inductive Step
  /-- The names of the wrappers. -/
  | names
  /-- The attributes of a record type. -/
  | fields (type : String)
  /-- The description of a wrapper. -/
  | doc (name : String)
  /-- Make a record from attributes and positional arguments, and name it. -/
  | make (var type : String) (given : List (String × Value)) (positional : List Value)
  /-- Give an attribute a value. -/
  | assign (var attr : String) (value : Value)
  /-- Append to the list that an attribute holds. -/
  | append (var attr : String) (value : Value)
  /-- Make a record like another but for some attributes, and name it. -/
  | replace (var target : String) (given : List (String × Value))
  /-- Are two records equal? -/
  | equal (first second : String)
  /-- The text of a record. -/
  | describe (var : String)
  /-- The arguments for the options of a record. -/
  | render (var : String)
  /-- Build an invocation; a record may be given by name or as absent, and the result may be named. -/
  | build (builder : String) (record : Option (Option String)) (args : Option WordsGiven)
    (target : Option String)

/-- What a step answers. -/
inductive Answer
  /-- Words. -/
  | words (ws : List String)
  /-- Declared attributes. -/
  | fields (fs : List RecordField)
  /-- A wrapper's name and description. -/
  | doc (name doc : String)
  /-- A text. -/
  | text (s : String)
  /-- A truth value. -/
  | bool (b : Bool)
  /-- An invocation. -/
  | invocation (c : Invocation)
deriving DecidableEq, Repr

/-- Why a step fails. -/
inductive SessionError
  /-- Nothing has this name. -/
  | unknownName (name : String)
  /-- A function does not have this parameter. -/
  | unexpectedKeyword (function keyword : String)
  /-- A parameter is given by position and by name. -/
  | repeatedArgument (function parameter : String)
  /-- A function of one positional parameter is given more; some arguments are given by name. -/
  | tooManyPositional (function : String) (given named : Nat)
  /-- The attributes of a record are fixed. -/
  | fixedAttribute (attr : String)
  /-- A value of this type has no such attribute. -/
  | missingAttribute (kind attr : String)
  /-- A value of this type is called and cannot be. -/
  | notCallable (kind : String)
  /-- A record of this type has an attribute that takes no value. -/
  | notWritable (type attr : String)
  /-- A value of this type is to be the type of a record. -/
  | notAType (kind : String)
  /-- A value of this type is to hold the attributes of a record. -/
  | notATable (kind : String)
  /-- Something is used as a record type and is none. -/
  | noRecordType
  /-- The options of a record cannot be rendered. -/
  | render (e : RenderError)
deriving DecidableEq, Repr

/-- The text of the error. -/
def SessionError.message : SessionError → String
  | .unknownName name => name
  | .unexpectedKeyword function keyword =>
    function ++ "() got an unexpected keyword argument '" ++ keyword ++ "'"
  | .repeatedArgument function parameter =>
    function ++ "() got multiple values for argument '" ++ parameter ++ "'"
  | .tooManyPositional function given named =>
    let byName := if named = 0 then "" else
      " positional argument" ++ (if given = 1 then "" else "s") ++ " (and " ++ toString named ++
        " keyword-only argument" ++ (if named = 1 then "" else "s") ++ ")"
    function ++ "() takes 1 positional argument but " ++ toString given ++ byName ++
      (if given = 1 ∧ named = 0 then " was given" else " were given")
  | .fixedAttribute attr => "cannot assign to field '" ++ attr ++ "'"
  | .missingAttribute kind attr =>
    "'" ++ kind ++ "' object has no attribute '" ++ attr ++ "'"
  | .notCallable kind => "'" ++ kind ++ "' object is not callable"
  | .notWritable type attr => "attribute '" ++ attr ++ "' of '" ++ type ++ "' objects is not writable"
  | .notAType kind => "__class__ must be set to a class, not '" ++ kind ++ "' object"
  | .notATable kind => "__dict__ must be set to a dictionary, not a '" ++ kind ++ "'"
  | .noRecordType => "must be called with a dataclass type or instance"
  | .render e => e.message

namespace Store

/-- The value in a cell. -/
def value (s : Store) (cell : Nat) : Value :=
  s.cells.getD cell .none

/-- The named record. -/
def find (s : Store) (var : String) : Except SessionError Record :=
  match s.named.lookup var with
  | some r => .ok r
  | none => .error (.unknownName var)

/-- Name a record. -/
def bind (s : Store) (var : String) (r : Record) : Store :=
  { s with named := (var, r) :: s.named.filter (·.1 != var) }

/-- Put a value into a new cell. -/
def allocate (s : Store) (v : Value) : Store × Nat :=
  ({ s with cells := s.cells.push v }, s.cells.size)

/-- Put the values of attributes into new cells, in order. -/
def allocateAll (s : Store) : List (String × Value) → Store × List (String × Nat)
  | [] => (s, [])
  | (attr, v) :: rest =>
    let (s, cell) := s.allocate v
    let (s, slots) := s.allocateAll rest
    (s, (attr, cell) :: slots)

end Store

namespace RecordType

/-- Is the attribute declared? -/
def declares (t : RecordType) (attr : String) : Bool :=
  t.fields.any (·.attr == attr)

end RecordType

namespace Record

/-- The cell of an attribute. -/
def cell? (r : Record) (attr : String) : Option Nat :=
  r.slots.lookup attr

/-- The value of an attribute; an attribute without a cell is absent. -/
def get (r : Record) (s : Store) (attr : String) : Value :=
  match r.cell? attr with
  | some cell => s.value cell
  | none => .none

/-- Let an attribute refer to a cell. -/
def point (r : Record) (attr : String) (cell : Nat) : Record :=
  { r with slots := (attr, cell) :: r.slots.filter (·.1 != attr) }

/-- The text of a record: its declared attributes with their values. -/
def describe (r : Record) (s : Store) : String :=
  r.type.name ++ "(" ++
    String.intercalate ", " (r.type.fields.map fun f => f.attr ++ "=" ++ (r.get s f.attr).quote) ++
    ")"

/-- The fields by which a record is read: those of its type, unless the record has a value of its own
in the place of their table.  Nothing can be read when a field stands in the place of reading. -/
def fields (r : Record) (s : Store) : Except SessionError (List RecordField) :=
  if r.type.declares Attribute.getter then .error (.notCallable Value.none.kind)
  else match (r.cell? Attribute.fieldTable).map s.value with
    | none => .ok r.type.fields
    | some (.map []) => .ok []
    | some (.map ((_, v) :: _)) => .error (.missingAttribute v.kind "_field_type")
    | some v => .error (.missingAttribute v.kind "values")

/-- The arguments for the options of a record. -/
def render (r : Record) (s : Store) : Except SessionError (List String) := do
  let fields ← r.fields s
  (renderFields (fields.map fun f => (f.flag?, r.get s f.attr))).mapError .render

/-- Are two records equal?  They are of one type, and each declared attribute refers to one cell or
to equal values. -/
def same (r q : Record) (s : Store) : Bool :=
  r.type.name == q.type.name &&
    r.type.fields.all fun f =>
      r.cell? f.attr == q.cell? f.attr || (r.get s f.attr).same (q.get s f.attr)

end Record

namespace Invocation

/-- The type of the records that invocations are. -/
def recordType : RecordType where
  name := "Command"
  fields := [⟨"program", none, "str"⟩, ⟨"args", none, "tuple[str, ...]"⟩]
  frozen := true
  doc := "An external program invocation that has not been started."

/-- The invocation as a record. -/
def toRecord (c : Invocation) (s : Store) : Store × Record :=
  let (s, slots) := s.allocateAll
    [("program", .text c.program), ("args", .tuple (c.args.map .text))]
  (s, { type := recordType, slots })

end Invocation

namespace RecordType

/-- The function that makes records of the type. -/
def constructorName (t : RecordType) : String :=
  t.name ++ ".__init__"

/-- Are the given attributes and positional arguments such that a record can be made?  Attributes are
given by name only. -/
def checkArguments (t : RecordType) (given : List String) (positional : Nat) :
    Except SessionError Unit :=
  match given.find? fun attr => !t.declares attr with
  | some attr =>
    if attr = "self" then .error (.repeatedArgument t.constructorName attr)
    else .error (.unexpectedKeyword t.constructorName attr)
  | none =>
    if positional = 0 then .ok ()
    else .error (.tooManyPositional t.constructorName (positional + 1) given.length)

end RecordType

namespace Session

/-- The wrapper of a name. -/
def wrapper (wrappers : List Wrapper) (name : String) : Except SessionError Wrapper :=
  match wrappers.find? (·.name == name) with
  | some w => .ok w
  | none => .error (.unknownName name)

/-- The declared attributes with the values that a new record gives them: the given ones, or none. -/
def initialValues (t : RecordType) (given : List (String × Value)) : List (String × Value) :=
  t.fields.map fun f => (f.attr, (given.lookup f.attr).getD .none)

/-- Make a record: given attributes take their values, the others are absent.  What is called on the
way is a field's default or value when a field stands in its place. -/
def make (s : Store) (t : RecordType) (given : List (String × Value)) (positional : Nat) :
    Except SessionError (Store × Record) := do
  if Attribute.allocators.any t.declares then .error (.notCallable Value.none.kind)
  t.checkArguments (given.map Prod.fst) positional
  if t.declares Attribute.setter then .error (.notCallable Value.none.kind)
  let values := initialValues t given
  match values.lookup Attribute.finisher with
  | some v => .error (.notCallable v.kind)
  | none =>
    let (s, slots) := s.allocateAll values
    return (s, { type := t, slots })

/-- Let an attribute refer to a new cell with a value. -/
def setAttribute (s : Store) (r : Record) (attr : String) (v : Value) : Store × Record :=
  let (s, cell) := s.allocate v
  (s, r.point attr cell)

/-- Give a value to a guarded attribute that is not declared.  A map in the place of all attributes
replaces them. -/
def setGuarded (s : Store) (r : Record) (attr : String) (v : Value) :
    Except SessionError (Store × Record) :=
  if attr = "__class__" then .error (.notAType v.kind)
  else if attr = "__weakref__" then .error (.notWritable r.type.name attr)
  else match v with
    | .map entries =>
      let (s, slots) := s.allocateAll (entries.filterMap fun e => e.1.asText?.map (·, e.2))
      .ok (s, { r with slots })
    | _ => .error (.notATable v.kind)

/-- Give an attribute a value. -/
def assign (s : Store) (r : Record) (attr : String) (v : Value) :
    Except SessionError (Store × Record) :=
  if r.type.frozen then .error (.fixedAttribute attr)
  else if Attribute.guarded.contains attr && !r.type.declares attr then setGuarded s r attr v
  else .ok (setAttribute s r attr v)

/-- The record that has the given attributes and shares the cells of the others with `r`. -/
def replace (s : Store) (r : Record) (given : List (String × Value)) :
    Except SessionError (Store × Record) := do
  let kept ← r.fields s
  r.type.checkArguments (given.map Prod.fst) 0
  let (s, fresh) := s.allocateAll given
  return (s, { type := r.type
               slots := r.type.fields.filterMap fun f =>
                 let old := if kept.contains f then r.cell? f.attr else none
                 ((fresh.lookup f.attr).or old).map (f.attr, ·) })

/-- Append to the list in a cell. -/
def appendTo (s : Store) (cell : Nat) (v : Value) : Except SessionError Store :=
  match s.value cell with
  | .list items => .ok { s with cells := s.cells.setIfInBounds cell (.list (items ++ [v])) }
  | other => .error (.missingAttribute other.kind "append")

/-- The arguments for the options of the record that is given to a builder; none for an absent
record. -/
def optionArgs (s : Store) (record : Option (Option String)) :
    Except SessionError (List String) :=
  match record with
  | none => .ok []
  | some none => .ok []
  | some (some var) => do
    let r ← s.find var
    r.render s

/-- Build an invocation.  The named record is looked up before the call, and a builder without a
record type takes none. -/
def build (s : Store) (b : Builder) (record : Option (Option String)) (args : Option WordsGiven) :
    Except SessionError Invocation := do
  if let some (some var) := record then
    let _ ← s.find var
  if record.isSome && !b.takesRecord then
    .error (.unexpectedKeyword b.name "opt")
  let options ← optionArgs s record
  return assemble b.program b.route options ((args.map WordsGiven.positionals).getD [])

/-- The parameters of a builder by name. -/
def builderParameters (b : Builder) : List String :=
  (if b.takesRecord then ["opt"] else []) ++ ["args"]

/-- Do one step: the answer, and the store after it. -/
def step (wrappers : List Wrapper) (s : Store) : Step → Except SessionError (Answer × Store)
  | .names => .ok (.words (wrappers.map Wrapper.name), s)
  | .fields name => do
    match ← wrapper wrappers name with
    | .record t => return (.fields t.fields, s)
    | .builder _ => .error .noRecordType
  | .doc name => do
    let w ← wrapper wrappers name
    return (.doc w.name w.doc, s)
  | .make var name given positional => do
    match ← wrapper wrappers name with
    | .record t =>
      let (s, r) ← make s t given positional.length
      return (.text (r.describe s), s.bind var r)
    | .builder b =>
      match (given.map Prod.fst).find? (!(builderParameters b).contains ·) with
      | some keyword => .error (.unexpectedKeyword b.name keyword)
      | none =>
        let c ← build s b none none
        let (s, r) := c.toRecord s
        return (.text (r.describe s), s.bind var r)
  | .assign var attr v => do
    let r ← s.find var
    let (s, r) ← assign s r attr v
    return (.text (r.describe s), s.bind var r)
  | .append var attr v => do
    let r ← s.find var
    match r.cell? attr with
    | none =>
      let holder := if r.type.declares attr then Value.none.kind else r.type.name
      .error (.missingAttribute holder (if r.type.declares attr then "append" else attr))
    | some cell =>
      let s ← appendTo s cell v
      return (.text (r.describe s), s)
  | .replace var target given => do
    let r ← s.find var
    let (s, q) ← replace s r given
    return (.text (q.describe s), s.bind target q)
  | .equal first second => do
    let r ← s.find first
    let q ← s.find second
    return (.bool (r.same q s), s)
  | .describe var => do
    let r ← s.find var
    return (.text (r.describe s), s)
  | .render var => do
    let r ← s.find var
    let args ← r.render s
    return (.words args, s)
  | .build name record args target => do
    match ← wrapper wrappers name with
    | .record t =>
      .error (.unexpectedKeyword t.constructorName (if record.isSome then "opt" else "args"))
    | .builder b =>
      let c ← build s b record args
      match target with
      | none => return (.invocation c, s)
      | some var =>
        let (s, r) := c.toRecord s
        return (.invocation c, s.bind var r)

/-- Do steps in order; a step that fails changes nothing. -/
def run (wrappers : List Wrapper) (s : Store) :
    List Step → List (Except SessionError Answer)
  | [] => []
  | first :: rest =>
    match step wrappers s first with
    | .ok (answer, s) => .ok answer :: run wrappers s rest
    | .error e => .error e :: run wrappers s rest

end Session

end CommandWrap
