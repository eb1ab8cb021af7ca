import CommandWrap.Module.Lexer
import CommandWrap.Plan.Field

/-!
# Modules as they are read

The text of a module is read back line by line: every logical line is a statement, and the statements
make up records and builders.  Only statements that wrapper modules are made of are understood; a text
with any other is no module for this reader.

What is read is what the text says: names and attributes in the spelling of the text, and texts as rows
of code points.
-/
namespace CommandWrap.Source

/-- A field of a record as the text declares it. -/
structure SourceField where
  /-- The attribute. -/
  attr : String
  /-- The type that the annotation names. -/
  type : FieldType
  /-- The shape that the helper stands for. -/
  shape : Shape
  /-- The name of the flag. -/
  flag : List Nat
deriving DecidableEq, Repr

/-- What a module defines. -/
inductive Definition
  /-- A type of records. -/
  | record (name : String) (doc : List Nat) (fields : List SourceField)
  /-- A builder, which may take a record of a type and gives it to the call. -/
  | builder (name : String) (record? : Option String) (doc program : List Nat) (route : List (List Nat))
deriving DecidableEq, Repr

/-- The name that is defined. -/
def Definition.name : Definition → String
  | .record name _ _ => name
  | .builder name _ _ _ _ => name

/-- A module. -/
structure ModuleSource where
  /-- The description of the module. -/
  doc : List Nat
  /-- The names that are imported, each row with the module that it comes from. -/
  imports : List (String × List String)
  /-- The definitions in order. -/
  definitions : List Definition
  /-- The names that the module exports. -/
  exports : List (List Nat)
deriving DecidableEq, Repr

/-! ## Statements -/

/-- A statement. -/
inductive Statement
  /-- The description of the module. -/
  | doc (codes : List Nat)
  /-- Names are imported from a module. -/
  | imported (source : String) (names : List String)
  /-- What follows is a type of records. -/
  | decorator
  /-- The head of a type of records. -/
  | record (name : String)
  /-- The head of a builder, with the type of the records that it takes. -/
  | builder (name : String) (record? : Option String)
  /-- The description of a definition. -/
  | innerDoc (codes : List Nat)
  /-- A field of a record. -/
  | field (f : SourceField)
  /-- The call of a builder; a record may be passed on. -/
  | call (program : List Nat) (route : List (List Nat)) (passesRecord : Bool)
  /-- The exported names. -/
  | exports (names : List (List Nat))
deriving DecidableEq, Repr

/-- The token of a word. -/
def word (s : String) : Token :=
  .name s.toList

/-- Is the word a name of the language? -/
def isName (cs : List Char) : Bool :=
  Unicode.isIdentifier cs && !Name.keywords.contains (String.ofList cs)

/-- Can a value be given to the name?  The name of a constant takes none, in no spelling. -/
def isTarget (cs : List Char) : Bool :=
  isName cs && Unicode.normalForm cs != "__debug__".toList

/-- The tokens up to the first `stop`, and those behind it. -/
def cutAt (stop : Token) : List Token → Option (List Token × List Token)
  | [] => none
  | t :: rest =>
    if t = stop then some ([], rest)
    else (cutAt stop rest).map fun cut => (t :: cut.1, cut.2)

/-- Texts with commas between them; a comma may follow the last one. -/
def texts? : List Token → Option (List (List Nat))
  | [] => some []
  | [.text codes] => some [codes]
  | .text codes :: .mark ',' :: rest => (texts? rest).map (codes :: ·)
  | _ => none

/-- The texts of a fixed sequence.  A single text without a comma is no sequence. -/
def tuple? : List Token → Option (List (List Nat))
  | [_] => none
  | tokens => texts? tokens

/-- Names with commas between them. -/
def names? : List Token → Option (List String)
  | [.name n] => some [String.ofList n]
  | .name n :: .mark ',' :: rest => (names? rest).map (String.ofList n :: ·)
  | _ => none

/-- Names with points between them, as one text. -/
def dotted? : List Token → Option String
  | [.name n] => some (String.ofList n)
  | .name n :: .mark '.' :: rest => (dotted? rest).map (String.ofList n ++ "." ++ ·)
  | _ => none

/-- The types of fields. -/
def fieldTypes : List FieldType :=
  [.scalar .bool, .scalar .text, .scalar .int, .scalar .float, .scalar .complex, .list, .map]

/-- The tokens of the annotation of a field that may be absent. -/
def annotationTokens : FieldType → List Token
  | .scalar t => [word t.typeName, .mark '|', word "None"]
  | .list => [word "list", .mark '[', word "str", .mark ']', .mark '|', word "None"]
  | .map =>
    [word "dict", .mark '[', word "str", .mark ',', word "str", .mark ']', .mark '|', word "None"]

/-- The type that an annotation names. -/
def annotated? (tokens : List Token) : Option FieldType :=
  fieldTypes.find? fun t => annotationTokens t == tokens

/-- The shape that a helper stands for. -/
def helperShape? (helper : List Char) : Option Shape :=
  [("flag", Shape.single), ("list_flag", .list), ("map_flag", .map)].lookup (String.ofList helper)

/-- A field: its attribute, its annotation, and the call of its helper with the name of the flag. -/
def field? (tokens : List Token) : Option Statement := do
  let (target, value) ← cutAt (.mark '=') tokens
  match target, value with
  | .name attr :: .mark ':' :: annotation, [.name helper, .mark '(', .text flag, .mark ')'] =>
    if isTarget attr then do
      let type ← annotated? annotation
      let shape ← helperShape? helper
      return .field { attr := String.ofList attr, type, shape, flag }
    else none
  | _, _ => none

/-- Names that are imported, behind the first word. -/
def imported? (tokens : List Token) : Option Statement := do
  let (source, names) ← cutAt (word "import") tokens
  return .imported (← dotted? source) (← names? names)

/-- The call by which a type becomes a type of records, behind the sign. -/
def decoratorTokens : List Token :=
  [word "dataclass", .mark '(', word "kw_only", .mark '=', word "True", .mark ')']

/-- The head of a type of records, behind the first word. -/
def record? : List Token → Option Statement
  | [.name n, .mark ':'] => if isName n then some (.record (String.ofList n)) else none
  | _ => none

/-- The parameter for positional arguments, which ends the head of every builder. -/
def argsParameter : List Token :=
  [word "args", .mark ':', word "Sequence", .mark '[', word "str", .mark ']', .mark '=', .mark '(',
    .mark ')', .mark ')', .mark '-', .mark '>', word "Command", .mark ':']

/-- The parameters of a builder and what follows them: a record of some type, if any, and the positional
arguments. -/
def parameters? (tokens : List Token) : Option (Option String) :=
  if tokens = argsParameter then some none
  else match tokens with
    | opt :: .mark ':' :: .name type :: rest =>
      if opt = word "opt" ∧ rest = [.mark '|', word "None", .mark '=', word "None", .mark ','] ++
          argsParameter then
        some (some (String.ofList type))
      else none
    | _ => none

/-- The head of a builder, behind the first word. -/
def builder? : List Token → Option Statement
  | .name n :: .mark '(' :: rest =>
    if isName n then (parameters? rest).map (.builder (String.ofList n)) else none
  | _ => none

/-- The call of a builder, behind the first word. -/
def call? : List Token → Option Statement
  | name :: .mark '(' :: .text program :: .mark ',' :: .mark '(' :: rest => do
    let (route, others) ← cutAt (.mark ')') rest
    let words ← tuple? route
    if name ≠ word "build_command" then none
    else if others = [.mark ',', word "opt", .mark ',', word "args", .mark ')'] then
      return .call program words true
    else if others = [.mark ',', word "None", .mark ',', word "args", .mark ')'] then
      return .call program words false
    else none
  | _ => none

/-- The exported names, behind the first word. -/
def exports? : List Token → Option Statement
  | .mark '=' :: .mark '[' :: rest => do
    let (names, others) ← cutAt (.mark ']') rest
    if others = [] then (texts? names).map .exports else none
  | _ => none

/-- The statement of a line: those of definitions are indented by four spaces, the others not at all. -/
def statement? (line : Line) : Option Statement :=
  match line.indent, line.tokens with
  | 0, [.text codes] => some (.doc codes)
  | 0, first :: rest =>
    if first = word "from" then imported? rest
    else if first = .mark '@' then if rest = decoratorTokens then some .decorator else none
    else if first = word "class" then record? rest
    else if first = word "def" then builder? rest
    else if first = word "__all__" then exports? rest
    else none
  | 4, [.text codes] => some (.innerDoc codes)
  | 4, first :: rest => if first = word "return" then call? rest else field? (first :: rest)
  | _, _ => none

/-! ## Modules -/

/-- What is still being read. -/
inductive Unfinished
  /-- Nothing. -/
  | nothing
  /-- A type of records, of which nothing was read. -/
  | decorated
  /-- A type of records without its description. -/
  | record (name : String)
  /-- A type of records with fields, the last one first. -/
  | fields (name : String) (doc : List Nat) (fields : List SourceField)
  /-- A builder without its description. -/
  | builder (name : String) (record? : Option String)
  /-- A builder without its call. -/
  | body (name : String) (record? : Option String) (doc : List Nat)
deriving DecidableEq, Repr

/-- A module that is being read; rows have the last element first. -/
structure Draft where
  /-- The description of the module. -/
  doc? : Option (List Nat) := none
  /-- The imports so far. -/
  imports : List (String × List String) := []
  /-- The definitions so far. -/
  definitions : List Definition := []
  /-- The definition that is being read. -/
  current : Unfinished := .nothing
  /-- The exported names. -/
  exports? : Option (List (List Nat)) := none
deriving DecidableEq, Repr

namespace Draft

/-- Nothing is being read any more; a type of records ends where something else begins. -/
def close (d : Draft) : Option Draft :=
  match d.current with
  | .nothing => some d
  | .fields name doc fields =>
    some { d with definitions := .record name doc fields.reverse :: d.definitions, current := .nothing }
  | _ => none

/-- The module with one more statement. -/
def add (d : Draft) (statement : Statement) : Option Draft :=
  if d.exports?.isSome then none
  else match statement, d.current with
    | .doc codes, .nothing => if d.doc?.isNone then some { d with doc? := some codes } else none
    | .imported source names, .nothing => some { d with imports := (source, names) :: d.imports }
    | .decorator, _ => d.close.map ({ · with current := .decorated })
    | .record name, .decorated => some { d with current := .record name }
    | .builder name record?, _ => d.close.map ({ · with current := .builder name record? })
    | .innerDoc codes, .record name => some { d with current := .fields name codes [] }
    | .innerDoc codes, .builder name record? => some { d with current := .body name record? codes }
    | .field f, .fields name doc fields => some { d with current := .fields name doc (f :: fields) }
    | .call program route passesRecord, .body name record? doc =>
      if passesRecord = record?.isSome then
        some { d with
          definitions := .builder name record? doc program route :: d.definitions
          current := .nothing }
      else none
    | .exports names, _ => d.close.map ({ · with exports? := some names })
    | _, _ => none

/-- The module, if everything that makes up a module was read. -/
def finish? (d : Draft) : Option ModuleSource := do
  let doc ← d.doc?
  let exports ← d.exports?
  return { doc, imports := d.imports.reverse, definitions := d.definitions.reverse, exports }

end Draft

/-- The statements of lines, if each line is one. -/
def statements? (lines : List Line) : Option (List Statement) :=
  lines.mapM statement?

/-- The module that statements make up. -/
def assemble? (statements : List Statement) : Option ModuleSource := do
  let draft ← statements.foldlM Draft.add {}
  draft.finish?

/-- The module that a text is. -/
def module? (text : String) : Option ModuleSource := do
  let lines ← lines? text.toList
  let statements ← statements? lines
  assemble? statements

end CommandWrap.Source
