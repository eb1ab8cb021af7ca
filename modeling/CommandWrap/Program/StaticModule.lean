import CommandWrap.Parser.Help
import CommandWrap.Parser.Reading
import CommandWrap.Program.Output

/-!
# The program that writes a static module

The program generates the module of a command tree, by default that of the Docker command line, and
writes it to a file or prints it.
-/
namespace CommandWrap.Program.StaticModule

open CommandWrap.Parser (Argument Info)

/-- The name of the program. -/
def prog : String := "generate_docker_wrapper.py"

/-- The name of the logger of the program. -/
def logger : String := "generate_docker_wrapper"

/-- The file that is written unless another is given. -/
def defaultOutput : String := "docker_gen.py"

/-- The options of the program. -/
def arguments : List Argument := [
  { names := ["-h", "--help"], dest := "help", action := .help, arity := .exactly 0
    help? := some "show this help message and exit" },
  { names := ["--metadata"], dest := "metadata", action := .store
    help? := some "Command tree file (default: packaged docker.yaml)" },
  { names := ["--output"], dest := "output", action := .store, help? := some "Module file to write" },
  { names := ["--stdout"], dest := "stdout", action := .storeTrue, arity := .exactly 0
    help? := some "Print the module instead of writing it" },
  { names := ["--exclude"], dest := "exclude", action := .append, metavar? := some "PATH"
    help? := some "Command path to leave out, e.g. 'docker plugin'; repeatable" },
  { names := ["--quiet"], dest := "quiet", action := .storeTrue, arity := .exactly 0
    help? := some "Do not report the written file" }]

/-- The parser of the command line; a file and printing exclude each other. -/
def parser : Info :=
  { prog
    description? := some "Generate a static wrapper module for the docker command line."
    usage? := none, signs := "-", arguments
    groups := [⟨[2, 3], false⟩] }

/-- What the program is asked to do. -/
structure Request where
  /-- The file of the command tree. -/
  metadata? : Option String := none
  /-- The file to write. -/
  output : String := defaultOutput
  /-- Is the module printed instead? -/
  prints : Bool := false
  /-- The paths of the commands to leave out. -/
  exclude : List String := []
  /-- Is the written file kept quiet about? -/
  quiet : Bool := false
deriving Repr, DecidableEq

/-- The request with one more option. -/
def Request.add (r : Request) (o : Parser.GivenOption) : Request :=
  match o.number, o.value? with
  | 1, some v => { r with metadata? := some v }
  | 2, some v => { r with output := v }
  | 3, _ => { r with prints := true }
  | 4, some v => { r with exclude := r.exclude ++ [v] }
  | 5, _ => { r with quiet := true }
  | _, _ => r

/-- The request of a command line. -/
def Request.ofWords (words : List String) : Except Parser.Stop Request :=
  (Parser.read parser words).map (·.foldl Request.add {})

/-- A failure that is reported. -/
def failed (f : Folder) (message : String) : Output :=
  { exit := 1, stderr := [.note ⟨.error, logger, "Generation failed: " ++ message⟩], folder := f }

/-- The fault that ends the program. -/
inductive Fault
  /-- The command tree cannot be read. -/
  | tree (error : TreeFileError)
  /-- The module cannot be written. -/
  | file (fault : FileFault)

/-- Do what is asked for. -/
def perform (s : Surroundings) (f : Folder) (r : Request) : Except Fault Output := do
  let path := (r.metadata?.map Path.ofText).getD (packagedTree s)
  match loadTree s f path with
  | .error e => if isReported e then return failed f e.message else .error (.tree e)
  | .ok tree =>
    match (CommandGraph.ofTree tree).generate { exclude := r.exclude } with
    | .error e => return failed f e.message
    | .ok source =>
      if r.prints then return { stdout := source, folder := f }
      else
        let output := Path.ofText r.output
        let written ← (writeText f output source).mapError .file
        return {
          stdout := if r.quiet then "" else "Wrote " ++ output.text ++ "\n"
          folder := written }

/-- Run the program on the words of a command line. -/
def run (s : Surroundings) (f : Folder) (words : List String) : Except Fault Output :=
  match Request.ofWords words with
  | .ok r => perform s f r
  | .error .help =>
    .ok { stdout := match Parser.Help.text parser with
            | .ok text => text
            | .error _ => ""
          folder := f }
  | .error (.error message) =>
    .ok { exit := 2, stderr := [.text (parser.errorText message)], folder := f }

end CommandWrap.Program.StaticModule
