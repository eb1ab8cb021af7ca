import CommandWrap.Group.Help
import CommandWrap.Program.Output
import CommandWrap.Settings.Load
import CommandWrap.Target

/-!
# The command line program

The program is a command group: `generate` writes the module of a command tree, `tree` lists the
commands of a tree file, and `dump` prints the command tree of a parser or group that a module holds.
Errors about settings, trees and plans are reported; other faults end the program.
-/
namespace CommandWrap.Program.CommandLine

open CommandWrap.Group (Command Given OptionInfo ArgumentInfo UsageFault)

/-! ## The group -/

/-- An option with words of the given type. -/
def wordOption (name value : String) (type : Group.ParameterType) (help? : Option String) : Group.Parameter :=
  .option { name := value, names := [name], type, help? }

/-- An option that may be given many times. -/
def manyOption (name value help : String) : Group.Parameter :=
  .option { name := value, names := [name], isMany := true, help? := some help }

/-- An option that stands alone. -/
def flagOption (name value help : String) : Group.Parameter :=
  .option { name := value, names := [name], type := .truth, isFlag := true, help? := some help }

/-- The option that leaves out commands. -/
def excludeOption : Group.Parameter :=
  manyOption "--exclude" "exclude" "Skip a command subtree, e.g. 'docker plugin'"

/-- The command that writes a module. -/
def generateCommand : Command :=
  .node { name? := some "generate", help? := some "Generate a wrapper module from a command tree file." }
    [.argument { name := "metadata", type := .path, isRequired := false },
      wordOption "--config-ref" "config_ref" .text (some "Generator config file or Hydra config name"),
      wordOption "--config-dir" "config_dir" .path none,
      manyOption "--override" "override" "Config overrides (KEY=VALUE)",
      .option { name := "output", names := ["--output", "-o"], type := .path
                help? := some "Write the module here" },
      excludeOption,
      wordOption "--runtime-module" "runtime_module" .text
        (some "Module the generated code imports helpers from")]
    none []

/-- The command that lists commands. -/
def treeCommand : Command :=
  .node { name? := some "tree", help? := some "Print the commands of a tree file in generation order." }
    [.argument { name := "metadata", type := .path }, excludeOption] none []

/-- The command that prints a command tree. -/
def dumpCommand : Command :=
  .node
    { name? := some "dump"
      help? := some ("Print the command tree of an argparse parser or click command\n" ++
        "    (MODULE:ATTRIBUTE) as YAML.") }
    [.argument { name := "target" },
      wordOption "--name" "name" .text (some "Program name of the root command")]
    none []

/-- The program. -/
def group : Command :=
  .node { name? := some "cli", help? := some "Generate typed wrappers from command line flag metadata." }
    [flagOption "--verbose" "verbose" "Log progress messages",
      flagOption "--debug" "debug" "Log debug messages"]
    (some {}) [dumpCommand, generateCommand, treeCommand]

/-- The version of the program. -/
def version : String := "0.1.0"

/-- The modules of the program itself. -/
def ownModules : Library :=
  { modules := [
      ("docker_wrapper", [("__version__", .value (.text version))]),
      ("docker_wrapper.cli",
        [("cli", .group group), ("generate", .group generateCommand), ("tree", .group treeCommand),
          ("dump", .group dumpCommand)])] }

/-! ## What the program leaves -/

/-- The fault that ends the program. -/
inductive Fault
  /-- The settings cannot be read. -/
  | settings (error : SettingsError)
  /-- The command tree cannot be read. -/
  | tree (error : TreeFileError)
  /-- The module cannot be written. -/
  | file (fault : FileFault)
  /-- The target cannot be followed. -/
  | target (error : TargetError)

/-- What the program leaves, and the fault that ended it. -/
structure Result where
  /-- What it leaves. -/
  output : Output
  /-- The fault, if there is one. -/
  fault? : Option Fault := none

/-- What a command knows. -/
structure Context where
  /-- The surroundings. -/
  surroundings : Surroundings
  /-- The folder the program works in. -/
  folder : Folder
  /-- The modules that can be imported. -/
  library : Library
  /-- The least level of messages that are shown. -/
  level : Int
  /-- The path of the command. -/
  path : String

namespace Context

variable (c : Context)

/-- The program ends well. -/
def done (notes : List Log.Note) (stdout : String) : Result :=
  { output := { stdout, stderr := shown c.level notes, folder := c.folder } }

/-- An error is reported. -/
def failed (notes : List Log.Note) (message : String) : Result :=
  { output :=
      { exit := 1, stderr := shown c.level notes ++ [.text ("Error: " ++ message ++ "\n")]
        folder := c.folder } }

/-- A fault ends the program. -/
def broken (notes : List Log.Note) (fault : Fault) : Result :=
  { output := { exit := 1, stderr := shown c.level notes, folder := c.folder }, fault? := some fault }

/-- The command line is wrong. -/
def misused (command : Command) (e : UsageFault) : Result :=
  { output := { exit := 2, stderr := [.text (Group.Help.fault c.path command e)], folder := c.folder } }

/-- A settings error is reported or ends the program. -/
def settingsFailed (notes : List Log.Note) (e : SettingsError) : Result :=
  if e.isReported then c.failed notes e.message else c.broken notes (.settings e)

/-- A tree error is reported or ends the program. -/
def treeFailed (notes : List Log.Note) (e : TreeFileError) : Result :=
  if isReported e then c.failed notes e.message else c.broken notes (.tree e)

end Context

/-! ## Generating a module -/

/-- What is to be generated. -/
structure Request where
  /-- The file of the command tree. -/
  metadata : Path
  /-- The file to write; nothing prints the module. -/
  output? : Option Path
  /-- How the module is generated. -/
  options : ModuleOptions

/-- The first text that is not empty. -/
def firstText (texts : List (Option String)) : Option String :=
  texts.findSome? (·.filter (· != ""))

/-- The request of a command line and of settings, where the command line counts more. -/
def Request.ofGiven (given : List Given) (settings? : Option Settings) (metadata : String) : Request :=
  let runtime := firstText [Group.lastWord? given "runtime_module", settings?.map (·.runtime)]
  { metadata := Path.ofText ((Group.lastWord? given "metadata").getD metadata)
    output? :=
      match Group.lastWord? given "output" with
      | some path => some (Path.ofText path)
      | none => (firstText [settings?.bind (·.output?)]).map Path.ofText
    options := {
      runtime := runtime.getD ModuleText.defaultRuntime
      doc := settings?.bind (·.doc?)
      exclude := ((settings?.map (·.exclude)).getD []) ++ Group.allWords given "exclude" } }

/-- Generate what is requested.  Nothing is written unless everything before succeeds. -/
def Context.perform (c : Context) (notes : List Log.Note) (r : Request) : Result :=
  match loadTree c.surroundings c.folder r.metadata with
  | .error e => c.treeFailed notes e
  | .ok tree =>
    let g := CommandGraph.ofTree tree
    let notes := notes ++ TreeFile.loadedNote r.metadata.text tree :: g.generateNotes r.options
    match g.generate r.options with
    | .error e => c.failed notes e.message
    | .ok source =>
      match r.output? with
      | none => c.done notes source
      | some path =>
        match writeText c.folder path source with
        | .error fault => c.broken notes (.file fault)
        | .ok folder =>
          { output :=
              { stderr := shown c.level notes ++ [.text ("Wrote " ++ path.text ++ "\n")], folder } }

/-- The folder of named settings unless another is given. -/
def defaultSettingsFolder : String := "config"

/-- Generate a module. -/
def Context.generate (c : Context) (given : List Given) : Result :=
  match Group.lastWord? given "metadata", Group.lastWord? given "config_ref" with
  | none, none => c.misused generateCommand (.other "Provide a METADATA file or --config-ref")
  | some metadata, none => c.perform [] (Request.ofGiven given none metadata)
  | _, some ref =>
    let dir := Path.ofText ((Group.lastWord? given "config_dir").getD defaultSettingsFolder)
    match Settings.ofReference c.surroundings c.folder ref dir (Group.allWords given "override") with
    | (.error e, notes) => c.settingsFailed notes e
    | (.ok settings, notes) =>
      c.perform notes (Request.ofGiven given (some settings) settings.metadata)

/-! ## Listing commands -/

/-- The line of a planned command, indented by its depth. -/
def planLine (p : CommandPlan) : String :=
  String.join (List.replicate (p.path.length - 1) "  ") ++ p.title ++ ": " ++ p.builderName ++ " " ++
    p.optionName?.getD "-" ++ " (" ++ toString p.fields.length ++ " flags)\n"

/-- List the commands of a tree file. -/
def Context.tree (c : Context) (given : List Given) : Result :=
  let path := Path.ofText ((Group.lastWord? given "metadata").getD "")
  let exclude := Group.allWords given "exclude"
  match loadTree c.surroundings c.folder path with
  | .error e => c.treeFailed [] e
  | .ok tree =>
    let g := CommandGraph.ofTree tree
    let notes := TreeFile.loadedNote path.text tree :: g.planNotes exclude
    match g.plan exclude with
    | .error e => c.failed notes e.message
    | .ok plans => c.done notes (String.join (plans.map planLine))

/-! ## Printing a command tree -/

/-- Print the command tree of a target. -/
def Context.dump (c : Context) (given : List Given) : Result :=
  let library : Library := { modules := c.library.modules ++ ownModules.modules }
  match library.tree ((Group.lastWord? given "target").getD "") (Group.lastWord? given "name") with
  | (.ok tree, notes) => c.done notes (TreeFile.write tree)
  | (.error e, notes) =>
    match e with
    | .relative _ => c.broken notes (.target e)
    | .badParser _ => c.broken notes (.target e)
    | e => c.failed notes e.message

/-! ## The program -/

/-- Run a command with the parameters given for it. -/
def Context.run (c : Context) (name : String) (given : List Given) : Result :=
  match name with
  | "generate" => c.generate given
  | "tree" => c.tree given
  | _ => c.dump given

/-- The environment variable that gives the level of messages. -/
def levelVariable : String := "DOCKER_WRAPPER_LOG_LEVEL"

/-- The level of messages that are shown. -/
def levelOf (s : Surroundings) (given : List Given) : Int :=
  let request : Log.Request :=
    { verbose := Group.isGiven given "verbose", debug := Group.isGiven given "debug" }
  request.chosen (s.value? levelVariable)

/-- Run the program, called by the given name, on the words of a command line. -/
def run (prog : String) (s : Surroundings) (f : Folder) (library : Library) (words : List String) : Result :=
  let context (given : List Given) (path : String) : Context :=
    { surroundings := s, folder := f, library, level := levelOf s given, path }
  let page (path : String) (command : Command) : Result :=
    (context [] path).done [] (Group.Help.page path command)
  if words.isEmpty then
    { output := { exit := 2, stderr := [.text (Group.Help.page prog group)], folder := f } }
  else
    match group.read words with
    | .error e => (context [] prog).misused group e
    | .ok .help => page prog group
    | .ok (.run given left) =>
      match group.subcommand left with
      | .error e => (context given prog).misused group e
      | .ok none => page prog group
      | .ok (some (command, rest)) =>
        let name := command.info.name?.getD ""
        let path := Group.pathBelow prog group name
        match command.read rest with
        | .error e => (context given path).misused command e
        | .ok .help => page path command
        | .ok (.run own _) => (context given path).run name own

/-! ## The files that a command line needs -/

/-- The words of a command line and the values behind equals signs in them. -/
def valuesOf (words : List String) : List String :=
  words.flatMap fun w => w :: (Group.Reading.splitEquals w).2.toList

/-- The files of settings that words may name. -/
def namedFiles (values : List String) : List Path :=
  (defaultSettingsFolder :: values).flatMap fun dir =>
    values.map fun name => (Path.ofText dir).below (Path.ofText (Settings.Composition.fileName name))

/-- The files that the list of defaults in a file mentions. -/
def mentionedFiles (s : Surroundings) (f : Folder) (path : Path) : List Path :=
  match path.names.getLast?, Settings.Composition.readPart s f path.parent (path.names.getLastD "") with
  | some _, .ok part =>
    part.defaults.filterMap fun
      | .self => none
      | .file name => some (path.parent.below (Path.ofText (Settings.Composition.fileName name)))
      | .choice group name? _ =>
        name?.map fun name =>
          path.parent.below (Path.ofText (group ++ "/" ++ Settings.Composition.fileName name))
  | _, _ => []

/-- The file of the command tree that the settings of a command line name. -/
def settingsTree? (s : Surroundings) (f : Folder) (words : List String) : Option Path := do
  let (.run _ (_ :: rest)) ← (group.read words).toOption | none
  let (.run given _) ← (generateCommand.read rest).toOption | none
  let ref ← Group.lastWord? given "config_ref"
  let dir := Path.ofText ((Group.lastWord? given "config_dir").getD defaultSettingsFolder)
  let settings ← (Settings.ofReference s f ref dir (Group.allWords given "override")).1.toOption
  return Path.ofText settings.metadata

/-- The files that may be needed for a command line, as far as the files at hand tell. -/
def neededFiles (s : Surroundings) (f : Folder) (words : List String) : List Path :=
  let values := valuesOf words
  values.map Path.ofText ++ namedFiles values ++
    f.items.flatMap (fun (names, _) => mentionedFiles s f { names }) ++ (settingsTree? s f words).toList

end CommandWrap.Program.CommandLine
