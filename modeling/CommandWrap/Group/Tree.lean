import CommandWrap.Command.Tree
import CommandWrap.Group.Command
import CommandWrap.Log

/-!
# The command tree of a group

The options of a command become flags and its subcommands, in the order of their names and without the
hidden ones, become commands.  An option without a long name is left out with a warning, and the option
that shows the help is left out silently.  `Command.tree` gives the tree and the warnings.
-/
namespace CommandWrap.Group

/-- The logger of warnings about groups. -/
def logger : String := "docker_wrapper.metadata.click_source"

/-- The tag of the value of an option. -/
def OptionInfo.tag (o : OptionInfo) : String :=
  match o.type with
  | .entry => if o.isMany then "map" else "string"
  | type =>
    if o.isMany then "list"
    else if o.isCounted then "int"
    else if o.isFlag then "bool"
    else match type with
      | .truth => "bool"
      | .integer => "int"
      | .integerRange => "int"
      | .number => "float64"
      | .numberRange => "float64"
      | .text => "string"
      | .raw => "string"
      | other => other.title

/-- Is it an option that shows the help? -/
def OptionInfo.showsHelp (o : OptionInfo) : Bool :=
  o.name == "help"

/-- The flag of an option with a long name. -/
def OptionInfo.flag? (o : OptionInfo) : Option Flag :=
  o.longName?.map fun name => { name, type := o.tag, help := o.help?.getD "" }

/-- The options that may become flags. -/
def Command.candidates (c : Command) : List OptionInfo :=
  c.options.filter (!·.showsHelp)

/-- The warning about an option without a long name. -/
def OptionInfo.warning? (path : String) (o : OptionInfo) : Option Log.Note :=
  if o.longName?.isSome then none
  else some
    ⟨.warning, logger, path ++ ": skipping " ++ Text.quotedList o.names ++ " without a long option"⟩

/-- The longest summary that a command of a tree has. -/
def summaryWidth : Nat := 200

/-- A value with the warnings so far. -/
abbrev Extracted := StateM (List Log.Note)

/-- The name of a command: the one that is given, or else its own. -/
def nameOf (info : Info) (name? : Option String) : String :=
  ((name?.filter (· != "")) <|> (info.name?.filter (· != ""))).getD "cli"

mutual

/-- The tree of a command.  `path` gives the path of the command from its name. -/
def extract (path : String → String) (name? : Option String) : Command → Extracted CommandTree
  | .node info parameters choice? commands => do
    let command := Command.node info parameters choice? commands
    let name := nameOf info name?
    let path := path name
    modify (· ++ command.candidates.filterMap (OptionInfo.warning? path))
    let trees ← extractAll (pathBelow path command) commands
    return .node
      { name, usage := command.usage path, short := info.summary summaryWidth
        flags := command.candidates.filterMap OptionInfo.flag? }
      trees

/-- The trees of subcommands without the hidden ones. -/
def extractAll (path : String → String) : List Command → Extracted (List CommandTree)
  | [] => return []
  | c :: rest => do
    if c.info.isHidden then extractAll path rest
    else
      let t ← extract path c.info.name? c
      let ts ← extractAll path rest
      return t :: ts

end

/-- The command tree of a command under the given name, if one is given, and the warnings about it. -/
def Command.tree (name? : Option String) (c : Command) : CommandTree × List Log.Note :=
  (extract rootPath name? c).run []

end CommandWrap.Group
