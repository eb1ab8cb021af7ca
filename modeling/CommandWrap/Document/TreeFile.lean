import CommandWrap.Document.TreeReader
import CommandWrap.Folder
import CommandWrap.Log
import CommandWrap.Text.Utf8
import CommandWrap.Yaml.Data
import CommandWrap.Yaml.Writer

/-!
# Files of command trees

A command tree is read from a YAML file, or from a JSON file, which is YAML as well.
-/
namespace CommandWrap

/-- Why a file gives no command tree. -/
inductive TreeFileError
  /-- There is no such file. -/
  | notFound (path : String)
  /-- The file cannot be read. -/
  | unreadable (fault : FileFault)
  /-- The bytes of the file are no text. -/
  | noText (fault : Text.Utf8.Fault)
  /-- The text is no YAML. -/
  | malformed (path : String)
  /-- A value in the text is not valid. -/
  | badValue (fault : Yaml.Fault)
  /-- The text holds no map. -/
  | noMap (path : String)
  /-- The map describes no command tree. -/
  | noTree (error : TreeError)
deriving Repr

/-- The text of the error. -/
def TreeFileError.message : TreeFileError → String
  | .notFound path => "Command tree file not found: " ++ path
  | .unreadable fault => fault.message
  | .noText fault => fault.message
  | .malformed path => "Unable to parse command tree " ++ path
  | .badValue fault => fault.message
  | .noMap path => "Command tree root must be a mapping: " ++ path
  | .noTree error => error.message

namespace TreeFile

/-- The forms of plain scalars in files of command trees. -/
def schema : Yaml.Schema := {}

/-- The logger of messages about files of command trees. -/
def logger : String := "docker_wrapper.metadata.loader"

/-- The message about a command tree that was read. -/
def loadedNote (path : String) (t : CommandTree) : Log.Note :=
  ⟨.debug, logger, "Loaded command tree " ++ Text.quoted t.info.name ++ " from " ++ path⟩

/-- The command tree that a text describes; `path` says where the text is from. -/
def parse (path : String) (text : List Char) : Except TreeFileError CommandTree := do
  match Datum.ofYaml schema text with
  | .error .malformed => .error (.malformed path)
  | .error fault => .error (.badValue fault)
  | .ok (.map entries) => (CommandTree.ofDatum "" (.map entries)).mapError .noTree
  | .ok _ => .error (.noMap path)

/-- Read the command tree in a file. -/
def load (f : Folder) (path : Path) : Except TreeFileError CommandTree := do
  if !f.has path then .error (.notFound path.text)
  let bytes ← (f.read path).mapError .unreadable
  let text ← (Text.Utf8.decode bytes).mapError .noText
  parse path.text (Text.Utf8.normalizeNewlines text)

/-- The text of a file of a command tree. -/
def write (t : CommandTree) : String :=
  String.ofList (Yaml.Writer.document schema t.toDatum)

/-- Is the command tree read back when it is written to a file? -/
def readsBack (t : CommandTree) : Bool :=
  match parse "" (Text.Utf8.normalizeNewlines (write t).toList) with
  | .ok u => u == t
  | .error _ => false

end TreeFile

end CommandWrap
