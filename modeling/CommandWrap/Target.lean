import CommandWrap.Group.Tree
import CommandWrap.Parser.Help
import CommandWrap.Parser.Tree

/-!
# Targets

A target `MODULE:ATTRIBUTE` names a parser or a command group that a module holds.  The attribute may be
a path with points between its steps.  A function is called once to make the parser or group.
`Library.tree` follows a target and gives the command tree of what it finds.
-/
namespace CommandWrap

/-- What a name in a module stands for. -/
inductive ModuleItem
  /-- A parser. -/
  | parser (p : Parser)
  /-- A command group. -/
  | group (c : Group.Command)
  /-- A function that makes something. -/
  | factory (made : ModuleItem)
  /-- A collection of named items. -/
  | record (attributes : List (String × ModuleItem))
  /-- A value. -/
  | value (v : Value)

/-- The modules that can be imported, each with the names in it. -/
structure Library where
  /-- The modules. -/
  modules : List (String × List (String × ModuleItem)) := []

/-- A module and a path within it. -/
structure Target where
  /-- The name of the module. -/
  module : String
  /-- The path of the attribute. -/
  path : String
deriving DecidableEq, Repr

/-- Why a module cannot be imported. -/
inductive ImportFault
  /-- There is no module with the name. -/
  | missing (name : String)
  /-- There is no such module below a module that has none below it. -/
  | noPackage (name parent : String)
deriving DecidableEq, Repr

/-- The wording of an import fault. -/
def ImportFault.message : ImportFault → String
  | .missing name => "No module named " ++ Text.quoted name
  | .noPackage name parent =>
    "No module named " ++ Text.quoted name ++ "; " ++ Text.quoted parent ++ " is not a package"

/-- Why a target gives no command tree. -/
inductive TargetError
  /-- It is not of the form `MODULE:ATTRIBUTE`. -/
  | malformed (text : String)
  /-- The module is named relative to another one. -/
  | relative (module : String)
  /-- The module cannot be imported. -/
  | noModule (module : String) (fault : ImportFault)
  /-- The module holds no such attribute. -/
  | noAttribute (module path : String)
  /-- What it names is neither a parser nor a group. -/
  | noTree (kind : String)
  /-- The parser has no command tree. -/
  | badParser (error : Parser.ParserError)

/-- The wording of an error. -/
def TargetError.message : TargetError → String
  | .malformed text => "Invalid target " ++ Text.quoted text ++ ", expected MODULE:ATTRIBUTE"
  | .relative module =>
    "the 'package' argument is required to perform a relative import for " ++ Text.quoted module
  | .noModule module fault => "Cannot import " ++ Text.quoted module ++ ": " ++ fault.message
  | .noAttribute module path => Text.quoted module ++ " has no attribute " ++ Text.quoted path
  | .noTree kind => "Cannot extract a command tree from " ++ kind
  | .badParser error => error.message

/-! ## Reading targets -/

/-- A text, divided at every point. -/
def splitPoints : List Char → List (List Char)
  | [] => [[]]
  | '.' :: rest => [] :: splitPoints rest
  | c :: rest =>
    match splitPoints rest with
    | step :: steps => (c :: step) :: steps
    | [] => [[c]]

namespace Target

/-- The target that a text gives: neither side of the first colon is empty. -/
def ofText? (s : String) : Option Target :=
  let module := s.toList.takeWhile (· != ':')
  let path := (s.toList.dropWhile (· != ':')).drop 1
  if module.isEmpty ∨ path.isEmpty then none else some ⟨String.ofList module, String.ofList path⟩

/-- The steps of the path. -/
def steps (t : Target) : List String :=
  (splitPoints t.path.toList).map String.ofList

end Target

/-! ## Finding items -/

namespace ModuleItem

/-- The kind of an item, as errors give it. -/
def kind : ModuleItem → String
  | .parser _ => "ArgumentParser"
  | .group c => if c.choice?.isSome then "Group" else "Command"
  | .factory _ => "function"
  | .record _ => "SimpleNamespace"
  | .value v => v.kind

/-- A text that may be missing, as an item. -/
def ofText? (s? : Option String) : ModuleItem :=
  .value ((s?.map Value.text).getD .none)

/-- A function that makes a text, unless the text cannot be made. -/
def textFactory? (text : Except Parser.ParserError String) : Option ModuleItem :=
  match text with
  | .ok s => some (.factory (.value (.text s)))
  | .error _ => none

/-- What the name of an attribute stands for.  Parsers and groups show the texts they are declared
with, and a parser has functions for its usage and help. -/
def attribute? (name : String) : ModuleItem → Option ModuleItem
  | .record attributes => attributes.lookup name
  | .parser p =>
    match name with
    | "prog" => some (.value (.text p.info.prog))
    | "description" => some (ofText? p.info.description?)
    | "usage" => some (ofText? p.info.usage?)
    | "prefix_chars" => some (.value (.text p.info.signs))
    | "format_usage" => textFactory? p.info.usageLine
    | "format_help" => textFactory? (Parser.Help.text p.info)
    | _ => none
  | .group c =>
    match name with
    | "name" => some (ofText? c.info.name?)
    | "help" => some (ofText? c.info.help?)
    | "short_help" => some (ofText? c.info.short?)
    | "options_metavar" => some (ofText? c.info.optionsLabel?)
    | "hidden" => some (.value (.bool c.info.isHidden))
    | "add_help_option" => some (.value (.bool c.info.hasHelp))
    | "params" => some (.value (.list []))
    | "commands" => c.choice?.map fun _ => .value (.map [])
    | _ => none
  | _ => none

/-- What the steps of a path lead to. -/
def follow (i : ModuleItem) (steps : List String) : Option ModuleItem :=
  steps.foldlM (fun i step => i.attribute? step) i

/-- What a function makes; anything else stays as it is. -/
def made : ModuleItem → ModuleItem
  | .factory i => i
  | i => i

end ModuleItem

namespace Library

/-- The name of the module above a module. -/
def parentOf (module : String) : Option String :=
  match (splitPoints module.toList).dropLast with
  | [] => none
  | steps => some (String.intercalate "." (steps.map String.ofList))

/-- The modules above a module, the nearest first.  A name has more characters than points. -/
def parents : Nat → String → List String
  | 0, _ => []
  | fuel + 1, module =>
    match parentOf module with
    | none => []
    | some parent => parent :: parents fuel parent

/-- The names in a module.  A module is looked for below the module above it, so the fault names the
uppermost module that is missing. -/
def find (l : Library) (module : String) : Except ImportFault (List (String × ModuleItem)) :=
  match l.modules.lookup module with
  | some names => .ok names
  | none =>
    let above := (parents module.length module).takeWhile fun m => (l.modules.lookup m).isNone
    let uppermost := above.getLast?.getD module
    match parentOf uppermost with
    | some parent => .error (.noPackage uppermost parent)
    | none => .error (.missing uppermost)

/-- The names that every module holds: its own name, a description that is missing, and its names. -/
def ownNames (module : String) : List (String × ModuleItem) :=
  [("__name__", .value (.text module)), ("__doc__", .value .none), ("__dict__", .value (.map []))]

/-- What a target names. -/
def item (l : Library) (t : Target) : Except TargetError ModuleItem :=
  if t.module.startsWith "." then .error (.relative t.module)
  else match l.find t.module with
    | .error fault => .error (.noModule t.module fault)
    | .ok names =>
      match (ModuleItem.record (names ++ ownNames t.module)).follow t.steps with
      | none => .error (.noAttribute t.module t.path)
      | some i => .ok i

/-- The command tree of an item, and the warnings about it. -/
def treeOf (name? : Option String) (i : ModuleItem) : Except TargetError CommandTree × List Log.Note :=
  match i.made with
  | .parser p =>
    let (t, notes) := p.tree name? none
    (t.mapError .badParser, notes)
  | .group c =>
    let (t, notes) := c.tree name?
    (.ok t, notes)
  | other => (.error (.noTree other.kind), [])

/-- The command tree of what a target names, under the given name if one is given. -/
def tree (l : Library) (text : String) (name? : Option String) :
    Except TargetError CommandTree × List Log.Note :=
  match Target.ofText? text with
  | none => (.error (.malformed text), [])
  | some t =>
    match l.item t with
    | .error e => (.error e, [])
    | .ok i => treeOf name? i

end Library

end CommandWrap
