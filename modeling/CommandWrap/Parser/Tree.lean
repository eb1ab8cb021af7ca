import CommandWrap.Command.Tree
import CommandWrap.Log
import CommandWrap.Parser.Declaration

/-!
# The command tree of a parser

The options of a parser become flags and its subcommands become commands.  A flag needs a long name and
a value: options without a long name, and options that only show something or add a constant, are left
out with a warning.  A subcommand stands in a table under its name and its further names, and becomes a
command under the first of them.  `Parser.tree` gives the tree and the warnings.
-/
namespace CommandWrap.Parser

/-- The logger of warnings about parsers. -/
def logger : String := "docker_wrapper.metadata.argparse_source"

/-- The long name of an option without its two hyphens. -/
def Argument.longName? (a : Argument) : Option String :=
  (a.names.find? (·.startsWith "--")).map fun name => (name.drop 2).toString

/-- The tag of the values that a converter makes; a converter without a tag of its own gives its name. -/
def Converter.tag : Converter → String
  | .integer => "int"
  | .number => "float64"
  | .text => "string"
  | .truth => "bool"
  | .complex => "complex128"
  | .named name => name

/-- The tag of the value of an option. -/
def Argument.tag (a : Argument) : String :=
  match a.action with
  | .keyValue => "map"
  | .storeTrue => "bool"
  | .storeFalse => "bool"
  | .booleanOptional => "bool"
  | .storeConst => "bool"
  | .count => "int"
  | .append => "list"
  | .extend => "list"
  | _ =>
    if a.arity = .some ∨ a.arity = .any then "list"
    else (a.type?.map Converter.tag).getD "string"

/-- What becomes of an argument. -/
inductive Outcome
  /-- It is a flag. -/
  | flag (f : Flag)
  /-- It is left out. -/
  | nothing
  /-- It is left out because it has no long name. -/
  | short
  /-- It is left out because it takes no value. -/
  | valueless (name : String)

/-- What becomes of an argument: only an option with a long name and a value becomes a flag. -/
def Argument.outcome (a : Argument) : Outcome :=
  if a.action = .help ∨ a.names.isEmpty then .nothing
  else
    match a.longName? with
    | none => .short
    | some name =>
      if a.action = .version ∨ a.action = .appendConst then .valueless name
      else .flag { name, type := a.tag, help := a.help?.getD "" }

/-- The warning about an argument of a program that is left out. -/
def warning? (prog : String) (a : Argument) : Option Log.Note :=
  let note (what : String) : Log.Note := ⟨.warning, logger, prog ++ ": skipping " ++ what⟩
  match a.outcome with
  | .short => some (note (Text.quotedList a.names ++ " without a long option"))
  | .valueless name => some (note ("--" ++ name ++ ", its action takes no value"))
  | _ => none

/-- The flags of arguments. -/
def flagsOf (args : List Argument) : List Flag :=
  args.filterMap fun a =>
    match a.outcome with
    | .flag f => some f
    | _ => none

/-- The usage line of a parser. -/
def Info.usageLine (info : Info) : Except ParserError String := do
  let text := Text.strip ("usage: " ++ (← info.usage "usage: " info.numbered))
  return Text.collapse (if text.startsWith "usage:" then (text.drop 6).toString else text)

/-- A tree or an error, with the warnings so far. -/
abbrev Extracted := ExceptT ParserError (StateM (List Log.Note))

/-- The name of a command: the one that is given, or else the last word of the program's name. -/
def nameOf (info : Info) (name? : Option String) : Except ParserError String :=
  match name?.filter (· != "") with
  | some name => .ok name
  | none =>
    match (Text.words info.prog.toList).getLast? with
    | some word => .ok (String.ofList word)
    | none => .error .noProgram

/-- A visit of a parser: its tree under the given name and description, if they are given. -/
abbrev Visit := Option String → Option String → Extracted CommandTree

/-- The entries of a table whose parser was not met before.  A parser with further names is met again under
each of them. -/
def firstMet {α : Type} (met : List Nat) : List (String × Nat × α) → List (String × α)
  | [] => []
  | (name, number, a) :: rest =>
    if met.contains number then firstMet met rest
    else (name, a) :: firstMet (number :: met) rest

/-- The help text that is given for the subcommand of a name. -/
def helpOf (subcommands : List SubcommandName) (name : String) : Option String :=
  (subcommands.filterMap fun s => s.help?.map (s.name, ·)).lookup name

/-- The arguments in front of the choice of a subcommand. -/
def Info.before (info : Info) : List Argument :=
  info.arguments.takeWhile (·.action != .subcommands)

/-- The arguments from the choice of a subcommand on. -/
def Info.behind (info : Info) : List Argument :=
  info.arguments.dropWhile (·.action != .subcommands)

mutual

/-- The tree of a parser.  Its arguments are looked at in order, and its subcommands where they are chosen. -/
def extract : Parser → Visit
  | .node info subcommands, name?, short? => do
    let name ← nameOf info name?
    modify (· ++ info.before.filterMap (warning? info.prog))
    let commands ← (firstMet [] (table 0 subcommands)).mapM fun (sub, visit) =>
      visit (some sub) (helpOf (subcommands.map Prod.fst) sub)
    modify (· ++ info.behind.filterMap (warning? info.prog))
    let usage ← info.usageLine
    return .node
      { name, usage, short := short?.getD (info.description?.getD ""), flags := flagsOf info.arguments }
      commands

/-- The table of the names of subcommands in the order in which they were taken, each with the number of its
parser and the visit of it. -/
def table (number : Nat) : List (SubcommandName × Parser) → List (String × Nat × Visit)
  | [] => []
  | (s, p) :: rest =>
    (s.name :: s.aliases).map (fun name => (name, number, fun name? short? => extract p name? short?)) ++
      table (number + 1) rest

end

/-- The command tree of a parser and the warnings about it. -/
def tree (name? short? : Option String) (p : Parser) :
    Except ParserError CommandTree × List Log.Note :=
  (extract p name? short?).run.run []

end CommandWrap.Parser
