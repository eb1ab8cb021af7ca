import CommandWrap.Group.Parameter
import CommandWrap.Text.Summary

/-!
# Command groups

A command has parameters and perhaps subcommands; one with subcommands is a group.  A usage line shows
the path of a command and what follows it.  The path of a subcommand repeats the arguments of the
commands before it.
-/
namespace CommandWrap.Group

/-- How a group deals with its subcommands. -/
structure Choice where
  /-- May the group be used without a subcommand? -/
  standsAlone : Bool := false
  /-- May several subcommands follow each other? -/
  isChained : Bool := false
  /-- What stands for the subcommand in a usage line, if it is given. -/
  label? : Option String := none
deriving Repr, Inhabited

/-- What stands for the subcommand in a usage line. -/
def Choice.label (c : Choice) : String :=
  match c.label? with
  | some label => label
  | none =>
    let first := if c.isChained then "COMMAND1" else "COMMAND"
    (if c.standsAlone then "[" ++ first ++ "]" else first) ++ " [ARGS]..." ++
      (if c.isChained then " [COMMAND2 [ARGS]...]..." else "")

/-- What is known about a command itself. -/
structure Info where
  /-- Its name, if it has one; of a subcommand, the name under which its group keeps it. -/
  name? : Option String := none
  /-- The help text. -/
  help? : Option String := none
  /-- A summary that is used instead of the first sentence of the help text. -/
  short? : Option String := none
  /-- Is it left out of the list of subcommands? -/
  isHidden : Bool := false
  /-- Is it still to be used? -/
  deprecation : Deprecation := .none
  /-- Does it have an option that shows its help? -/
  hasHelp : Bool := true
  /-- What stands for the options in a usage line; nothing does if it is empty. -/
  optionsLabel? : Option String := some "[OPTIONS]"
  /-- The names of the settings that are given. -/
  settings : List String := []
deriving Repr, Inhabited

/-- A command with its parameters and subcommands, which stand in the order of their names; only a
group has a choice among them. -/
inductive Command
  /-- A command. -/
  | node (info : Info) (parameters : List Parameter) (choice? : Option Choice)
    (commands : List Command)
deriving Inhabited

namespace Command

/-- What is known about the command itself. -/
def info : Command → Info
  | .node info _ _ _ => info

/-- The parameters. -/
def parameters : Command → List Parameter
  | .node _ parameters _ _ => parameters

/-- How the command deals with its subcommands, if it is a group. -/
def choice? : Command → Option Choice
  | .node _ _ choice? _ => choice?

/-- The subcommands. -/
def commands : Command → List Command
  | .node _ _ _ commands => commands

/-- The arguments. -/
def arguments (c : Command) : List ArgumentInfo :=
  c.parameters.filterMap fun
    | .argument a => some a
    | .option _ => none

/-- The options. -/
def options (c : Command) : List OptionInfo :=
  c.parameters.filterMap fun
    | .option o => some o
    | .argument _ => none

end Command

/-! ## Usage lines and summaries -/

/-- The path of a subcommand behind the path of its group. -/
def pathBelow (path : String) (group : Command) (name : String) : String :=
  let pieces := path :: group.arguments.map ArgumentInfo.label
  String.ofList (Text.stripLeft (String.intercalate " " pieces ++ " " ++ name).toList)

/-- The path of a command that stands below no group. -/
def rootPath (name : String) : String :=
  String.ofList (Text.stripLeft name.toList)

/-- What follows the path in the usage line of a command. -/
def Command.usagePieces (c : Command) : List String :=
  ((c.info.optionsLabel?.filter (· != "")).toList ++ c.arguments.map ArgumentInfo.label) ++
    (c.choice?.map Choice.label).toList

/-- The usage line of a command with the given path. -/
def Command.usage (c : Command) (path : String) : String :=
  String.intercalate " " (path :: c.usagePieces)

/-- The summary of a command: its short text as it is, or else the start of its help text. -/
def Info.summary (info : Info) (width : Nat) : String :=
  let text := match info.short?.filter (· != ""), info.help?.filter (· != "") with
    | some short, _ => Text.dedent short
    | none, some help => Text.summary width help
    | none, none => ""
  Text.strip (match info.deprecation.label? with
    | some label => text ++ " " ++ label
    | none => text)

/-! ## Subcommands in order -/

/-- The last of the commands with each name. -/
def lastOfEach : List Command → List Command
  | [] => []
  | c :: rest =>
    if rest.any (·.info.name? == c.info.name?) then lastOfEach rest else c :: lastOfEach rest

/-- Commands in the order of their names.  A missing name has no place among others: the error
compares the second command with the first, or the one without a name with those before it. -/
def sorted (commands : List Command) : Except GroupError (List Command) :=
  match lastOfEach commands with
  | first :: second :: rest =>
    let cs := first :: second :: rest
    if cs.all (·.info.name?.isSome) then
      .ok (cs.mergeSort fun a b => a.info.name?.getD "" ≤ b.info.name?.getD "")
    else if first.info.name?.isSome then .error (.unsortable "NoneType" "str")
    else .error (.unsortable "str" "NoneType")
  | cs => .ok cs

/-! ## Declaring commands -/

/-- What is declared about a parameter. -/
inductive ParameterDraft
  /-- An option. -/
  | option (draft : OptionDraft)
  /-- An argument. -/
  | argument (draft : ArgumentDraft)

/-- The parameter that a draft declares. -/
def ParameterDraft.build : ParameterDraft → Except GroupError Parameter
  | .option d => d.build.map .option
  | .argument d => d.build.map .argument

/-- The declaration of a command. -/
inductive Draft
  /-- A command with its parameters and subcommands. -/
  | node (info : Info) (parameters : List ParameterDraft) (choice? : Option Choice)
    (commands : List Draft)
deriving Inhabited

/-- The settings that every command has. -/
def commandSettings : List String :=
  ["add_help_option", "callback", "context_settings", "deprecated", "epilog", "help", "hidden", "name",
    "no_args_is_help", "options_metavar", "short_help"]

/-- The settings that only a group has. -/
def groupSettings : List String :=
  ["chain", "invoke_without_command", "result_callback", "subcommand_metavar"]

/-- Refuse settings that a command does not have. -/
def checkInfo (info : Info) (isGroup : Bool) : Except GroupError Unit :=
  checkSettings "Command" (if isGroup then commandSettings ++ groupSettings else commandSettings)
    info.settings

mutual

/-- Declare a command: its parameters, then its subcommands. -/
def Command.ofDraft : Draft → Except GroupError Command
  | .node info drafts choice? commands => do
    let parameters ← drafts.mapM ParameterDraft.build
    let commands ← sorted (← Command.ofDrafts commands)
    checkInfo info choice?.isSome
    let command := Command.node info parameters choice? commands
    if (choice?.map (·.isChained)).getD false && command.arguments.any (!·.isRequired) then
      .error .optionalInChain
    return command

/-- Declare commands in order. -/
def Command.ofDrafts : List Draft → Except GroupError (List Command)
  | [] => .ok []
  | d :: rest => do
    let c ← Command.ofDraft d
    let cs ← Command.ofDrafts rest
    return c :: cs

end

end CommandWrap.Group
