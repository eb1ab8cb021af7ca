import CommandWrap.Text.Template
import CommandWrap.Value
import CommandWrap.Unicode.Upper

/-!
# Arguments of a parser

An argument is declared by its names and a list of settings.  Names that begin with a sign make an
option, a single other name makes a positional argument.  What an argument does with the words of a
command line is its action; each action allows only some settings.
-/
namespace CommandWrap.Parser

/-- What an argument does. -/
inductive Action
  /-- Keep the value. -/
  | store
  /-- Keep a constant. -/
  | storeConst
  /-- Keep the truth. -/
  | storeTrue
  /-- Keep falsehood. -/
  | storeFalse
  /-- Add the value to a list. -/
  | append
  /-- Add a constant to a list. -/
  | appendConst
  /-- Add several values to a list. -/
  | extend
  /-- Count how often it is given. -/
  | count
  /-- Show the help. -/
  | help
  /-- Show the version. -/
  | version
  /-- Keep the truth, or falsehood under a second name that begins with `no`. -/
  | booleanOptional
  /-- Add an entry to a map. -/
  | keyValue
  /-- Choose one of several parsers. -/
  | subcommands
deriving DecidableEq, Repr

/-- How many words belong to an argument. -/
inductive Arity
  /-- One. -/
  | one
  /-- At most one. -/
  | optional
  /-- Any number. -/
  | any
  /-- At least one. -/
  | some
  /-- All that are left. -/
  | rest
  /-- One and all that are left. -/
  | command
  /-- None, and nothing is shown. -/
  | hidden
  /-- A fixed number. -/
  | exactly (n : Int)
  /-- It is given by something that is no arity. -/
  | invalid
deriving DecidableEq, Repr

/-- What makes a value of a word. -/
inductive Converter
  /-- The integers. -/
  | integer
  /-- The floating point numbers. -/
  | number
  /-- The texts. -/
  | text
  /-- The truth values. -/
  | truth
  /-- The complex numbers. -/
  | complex
  /-- Anything else, by its name or else the name of its kind. -/
  | named (name : String)
deriving DecidableEq, Repr

/-- The converter of a setting. -/
def Converter.ofText (s : String) : Converter :=
  match s with
  | "int" => .integer
  | "float" => .number
  | "str" => .text
  | "bool" => .truth
  | "complex" => .complex
  | "path" => .named "Path"
  | "object" => .named "Opaque"
  | other => .named other

/-- An argument. -/
structure Argument where
  /-- The names of an option; none for a positional argument. -/
  names : List String
  /-- Where its value is kept. -/
  dest : String
  /-- What it does. -/
  action : Action
  /-- How many words belong to it. -/
  arity : Arity := .one
  /-- What makes its values of words, if it is given. -/
  type? : Option Converter := none
  /-- The values it may take. -/
  choices? : Option (List String) := none
  /-- Must it be given? -/
  required : Bool := false
  /-- Its help text. -/
  help? : Option String := none
  /-- What stands for its value in a usage line. -/
  metavar? : Option String := none
deriving Repr, DecidableEq

/-- The declaration of an argument. -/
structure ArgumentDraft where
  /-- Its names. -/
  names : List String
  /-- The name of its action, if one is given. -/
  action? : Option String := none
  /-- The other settings by name. -/
  settings : List (String × Value) := []
deriving Inhabited

/-- Why a parser cannot be declared or described. -/
inductive ParserError
  /-- A name is empty, or there are no signs. -/
  | emptyName
  /-- The program has no name. -/
  | noProgram
  /-- A setting is not allowed. -/
  | unexpectedSetting (owner setting : String)
  /-- A setting that positional arguments do not have. -/
  | requiredPositional
  /-- A positional argument has no name. -/
  | noPositionalName
  /-- A positional argument has two names. -/
  | twoPositionalNames
  /-- The name of an option does not begin with a sign. -/
  | badOptionName (name signs : String)
  /-- The name of an option consists of signs. -/
  | onlySigns (name : String)
  /-- There is no such action. -/
  | unknownAction (name : String)
  /-- An argument that keeps its value takes none. -/
  | nothingToStore
  /-- An argument that collects its values takes none. -/
  | nothingToAppend
  /-- A constant is given for an argument that always has a value. -/
  | needlessConstant
  /-- The arity is invalid. -/
  | badArity
  /-- An argument that excludes others is required. -/
  | requiredExclusive
  /-- A group of arguments that exclude each other is empty. -/
  | emptyExclusive
  /-- Names are taken by other arguments. -/
  | conflict (names taken : List String)
  /-- The name of a subcommand is taken. -/
  | subcommandConflict (argument? : Option String) (name : String) (isAlias : Bool)
  /-- A usage template cannot be filled in. -/
  | badTemplate (fault : Text.TemplateFault)
  /-- A usage line cannot be broken into parts. -/
  | unbreakable
deriving DecidableEq, Repr

/-- The text of the error. -/
def ParserError.message : ParserError → String
  | .emptyName => "string index out of range"
  | .noProgram => "list index out of range"
  | .unexpectedSetting owner setting =>
    owner ++ ".__init__() got an unexpected keyword argument " ++ Text.quoted setting
  | .requiredPositional => "'required' is an invalid argument for positionals"
  | .noPositionalName => "_ActionsContainer._get_positional_kwargs() missing 1 required positional " ++
      "argument: 'dest'"
  | .twoPositionalNames => "dest supplied twice for positional argument"
  | .badOptionName name signs => "invalid option string " ++ Text.quoted name ++
      ": must start with a character " ++ Text.quoted signs
  | .onlySigns name => "dest= is required for options like " ++ Text.quoted name
  | .unknownAction name => "unknown action \"" ++ name ++ "\""
  | .nothingToStore => "nargs for store actions must be != 0; if you have nothing to store, " ++
      "actions such as store true or store const may be more appropriate"
  | .nothingToAppend => "nargs for append actions must be != 0; if arg strings are not supplying " ++
      "the value to append, the append const action may be more appropriate"
  | .needlessConstant => "nargs must be '?' to supply const"
  | .badArity => "invalid nargs value"
  | .requiredExclusive => "mutually exclusive arguments must be optional"
  | .emptyExclusive => "empty group"
  | .conflict names taken =>
    "argument " ++ String.intercalate "/" names ++ ": conflicting option string" ++
      (if taken.length = 1 then "" else "s") ++ ": " ++ String.intercalate ", " taken
  | .subcommandConflict argument? name isAlias =>
    (argument?.map fun a => "argument " ++ a ++ ": ").getD "" ++ "conflicting subparser" ++
      (if isAlias then " alias" else "") ++ ": " ++ name
  | .badTemplate fault => fault.message
  | .unbreakable => ""

/-- The action of a name. -/
def Action.ofName? (name : Option String) : Option Action :=
  match name with
  | none => some .store
  | some "store" => some .store
  | some "store_const" => some .storeConst
  | some "store_true" => some .storeTrue
  | some "store_false" => some .storeFalse
  | some "append" => some .append
  | some "append_const" => some .appendConst
  | some "extend" => some .extend
  | some "count" => some .count
  | some "help" => some .help
  | some "version" => some .version
  | some "boolean_optional" => some .booleanOptional
  | some "key_value" => some .keyValue
  | some _ => none

/-- What checks the settings of an action, and the settings it allows. -/
def Action.settings : Action → String × List String
  | .store => ("_StoreAction", valueSettings)
  | .append => ("_AppendAction", valueSettings)
  | .extend => ("_AppendAction", valueSettings)
  | .keyValue => ("Action", valueSettings)
  | .booleanOptional =>
    ("BooleanOptionalAction", ["default", "type", "choices", "required", "help", "metavar"])
  | .storeConst => ("_StoreConstAction", ["const", "default", "required", "help", "metavar"])
  | .appendConst => ("_AppendConstAction", ["const", "default", "required", "help", "metavar"])
  | .storeTrue => ("_StoreTrueAction", ["default", "required", "help"])
  | .storeFalse => ("_StoreFalseAction", ["default", "required", "help"])
  | .count => ("_CountAction", ["default", "required", "help"])
  | .help => ("_HelpAction", ["default", "help"])
  | .version => ("_VersionAction", ["version", "default", "help"])
  | .subcommands => ("_SubParsersAction", [])
where
  valueSettings : List String :=
    ["nargs", "const", "default", "type", "choices", "required", "help", "metavar"]

/-- Does the action take values from the command line? -/
def Action.takesValues : Action → Bool
  | .store => true
  | .append => true
  | .extend => true
  | .keyValue => true
  | .subcommands => true
  | _ => false

/-- The arity of a setting. -/
def Arity.ofValue : Value → Arity
  | .none => .one
  | .text "?" => .optional
  | .text "*" => .any
  | .text "+" => .some
  | .text "..." => .rest
  | .text "A..." => .command
  | .text "==SUPPRESS==" => .hidden
  | .int n => .exactly n
  | .bool b => .exactly (if b then 1 else 0)
  | _ => .invalid

namespace ArgumentDraft

/-- A setting, or nothing when it is not given. -/
def setting (d : ArgumentDraft) (name : String) : Value :=
  (d.settings.lookup name).getD .none

/-- A setting that is a text. -/
def textSetting? (d : ArgumentDraft) (name : String) : Option String :=
  match d.setting name with
  | .none => none
  | v => some v.display

/-- A setting that is true or false. -/
def flagSetting (d : ArgumentDraft) (name : String) : Bool :=
  match d.setting name with
  | .none => false
  | .bool b => b
  | .int i => i != 0
  | .text s => !s.isEmpty
  | _ => true

/-- The texts of the choices. -/
def choices? (d : ArgumentDraft) : Option (List String) :=
  match d.setting "choices" with
  | .none => none
  | .list vs => some (vs.map Value.display)
  | .text s => some (s.toList.map fun c => String.ofList [c])
  | v => some [v.display]

/-- Does a name begin with one of the signs? -/
def hasSign (signs name : String) : Except ParserError Bool :=
  match name.toList with
  | [] => .error .emptyName
  | c :: _ => .ok (signs.toList.contains c)

/-- The place where the value of an option is kept: its first long name, or else its first name, without
the signs and with underscores for hyphens. -/
def destOf (signs : String) (names : List String) : Except ParserError String :=
  let isLong (name : String) : Bool :=
    match name.toList with
    | _ :: c :: _ => signs.toList.contains c
    | _ => false
  let chosen := (names.find? isLong).getD (names.headD "")
  let bare := chosen.toList.dropWhile signs.toList.contains
  if bare.isEmpty then .error (.onlySigns (names.getLastD ""))
  else .ok (String.ofList (bare.map fun c => if c = '-' then '_' else c))

/-- The names, the place of the value, the settings, and whether a positional argument is required. -/
def resolve (signs : String) (d : ArgumentDraft) :
    Except ParserError (List String × String × List (String × Value)) := do
  let positional ← match d.names with
    | [] => .ok true
    | [name] => (hasSign signs name).map (!·)
    | _ => .ok false
  let hasDest := (d.settings.lookup "dest").isSome
  let others := d.settings.filter (·.1 != "dest")
  if positional then
    let dest ← match d.names with
      | name :: _ => if hasDest then .error .twoPositionalNames else .ok name
      | [] => if hasDest then .ok (d.setting "dest").display else .error .noPositionalName
    if (d.settings.lookup "required").isSome then .error .requiredPositional
    let arity := Arity.ofValue (d.setting "nargs")
    let hasDefault := (d.settings.lookup "default").isSome
    let required := (arity != .optional && arity != .any) || (arity == .any && !hasDefault)
    return ([], dest, if required then others ++ [("required", .bool true)] else others)
  else
    for name in d.names do
      if !(← hasSign signs name) then .error (.badOptionName name signs)
    let dest ← match d.textSetting? "dest" with
      | some dest => .ok dest
      | none => destOf signs d.names
    return (d.names, dest, others)

/-- The names of an option with a second name for each long one. -/
def withNegations (names : List String) : List String :=
  names.flatMap fun name =>
    if name.startsWith "--" then [name, "--no-" ++ (name.drop 2).toString] else [name]

/-- The argument that is declared for a parser with the given signs. -/
def build (signs : String) (d : ArgumentDraft) : Except ParserError Argument := do
  let (names, dest, settings) ← d.resolve signs
  let some action := Action.ofName? d.action?
    | .error (.unknownAction (d.action?.getD ""))
  let (owner, allowed) := action.settings
  match settings.find? fun s => !allowed.contains s.1 with
  | some (setting, _) => .error (.unexpectedSetting owner setting)
  | none => pure ()
  let d := { d with settings }
  let arity := if action.takesValues then Arity.ofValue (d.setting "nargs") else .exactly 0
  if action = .store ∨ action = .append ∨ action = .extend then
    if arity = .exactly 0 then
      .error (if action = .store then .nothingToStore else .nothingToAppend)
    match d.setting "const" with
    | .none => pure ()
    | _ => if arity != .optional then .error .needlessConstant
  let help? := match action, d.textSetting? "help" with
    | .version, none => some "show program's version number and exit"
    | _, h => h
  let hasMetavar := action != .storeConst
  return {
    names := if action = .booleanOptional then withNegations names else names
    dest, action, arity
    type? := (d.textSetting? "type").map Converter.ofText
    choices? := d.choices?
    required := d.flagSetting "required"
    help?
    metavar? := if hasMetavar then d.textSetting? "metavar" else none }

end ArgumentDraft

end CommandWrap.Parser
