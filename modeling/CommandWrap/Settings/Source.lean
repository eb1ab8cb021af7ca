import CommandWrap.Folder
import CommandWrap.Settings.Basic
import CommandWrap.Settings.Resolved
import CommandWrap.Text.Utf8
import CommandWrap.Yaml.Data

/-!
# Files of settings

A file of settings is a YAML file that holds a map.  An empty file holds an empty map, and a file that
holds a text is read once more from that text.  The references in its texts must be well formed.
-/
namespace CommandWrap

/-- Why there are no settings. -/
inductive SettingsError
  /-- There is no such file. -/
  | notFound (path : String)
  /-- There is no folder of settings. -/
  | noFolder (path : String)
  /-- An override is not of the form `KEY=VALUE`. -/
  | badOverride (text : String)
  /-- The data from a source has the wrong form. -/
  | form (fault : Settings.FormFault) (source : String)
  /-- A file cannot be read. -/
  | unreadable (fault : FileFault)
  /-- The bytes of a file are no text. -/
  | noText (fault : Text.Utf8.Fault)
  /-- A text is no YAML. -/
  | malformed
  /-- A value in a text is not valid. -/
  | badValue (fault : Yaml.Fault)
  /-- A file holds a single value of a kind that is no text. -/
  | noContainer (kind : String)
  /-- Some data or reference cannot be used. -/
  | unusable
  /-- An override leads through a list by a key that is no integer. -/
  | badPlace (fault : KeyPath.Fault)
  /-- Settings cannot be put together. -/
  | notComposed
deriving Repr

namespace SettingsError

/-- The wording of an error. -/
def message : SettingsError → String
  | .notFound path => "Configuration file not found: " ++ path
  | .noFolder path => "Hydra config directory not found: " ++ path
  | .badOverride text => "Invalid override " ++ Text.quoted text ++ ", expected KEY=VALUE"
  | .form .noMap source => "Configuration root must be a mapping: " ++ source
  | .form .noMetadata source => source ++ ": `metadata` (command tree file) is required"
  | .form .wrongForm source => "Unable to parse config " ++ source
  | .unreadable fault => fault.message
  | .noText fault => fault.message
  | .malformed => "malformed text"
  | .badValue fault => fault.message
  | .noContainer kind => "Invalid loaded object type: " ++ kind
  | .unusable => "unusable data or reference"
  | .badPlace fault => fault.message
  | .notComposed => "settings cannot be put together"

/-- Is it an error that a program reports, and not a fault that ends it? -/
def isReported : SettingsError → Bool
  | .notFound _ => true
  | .noFolder _ => true
  | .badOverride _ => true
  | .form _ _ => true
  | _ => false

/-- The error of a value that cannot be put into a place. -/
def ofPlace : KeyPath.Fault → SettingsError
  | .noPlace => .unusable
  | fault => .badPlace fault

end SettingsError

namespace Settings

/-- The forms of plain scalars in files of settings. -/
def schema : Yaml.Schema := { hasTimestamps := false, hasWideFloats := true, hasUniqueKeys := true }

/-- Is it the text of bytes? -/
def isBytes (text : String) : Bool :=
  text.startsWith "b'" || text.startsWith "b\""

/-- The kind of a scalar that is no text. -/
def scalarKind : Datum → String
  | .bool _ => "bool"
  | .int _ => "int"
  | .float _ => "float"
  | .other text _ => if isBytes text then "bytes" else "datetime"
  | .keySet _ => "set"
  | _ => "NoneType"

/-- Can the datum be a key? -/
def isUsableKey : Datum → Bool
  | .null => false
  | .keySet _ => false
  | .other text _ => isBytes text
  | _ => true

mutual

/-- Can the data be used for settings?  Every reference in it must be well formed. -/
def isUsable : Datum → Bool
  | .text s => (pieces? s).isSome
  | .other text _ => isBytes text
  | .list items => areUsable items
  | .map entries => areUsableEntries entries
  | .keySet _ => false
  | .listAgain _ => false
  | .mapAgain _ => false
  | _ => true

/-- Can the items be used? -/
def areUsable : List Datum → Bool
  | [] => true
  | d :: rest => isUsable d && areUsable rest

/-- Can the entries be used? -/
def areUsableEntries : List (Datum × Datum) → Bool
  | [] => true
  | (k, d) :: rest => isUsableKey k && isUsable d && areUsableEntries rest

end

/-- The data of a YAML text. -/
def yaml (text : List Char) : Except SettingsError Datum :=
  match Datum.ofYaml schema text with
  | .ok d => .ok d
  | .error .malformed => .error .malformed
  | .error fault => .error (.badValue fault)

/-- The map or list that a text holds which stood alone in a file. -/
def ofLoneText (text : String) : Except SettingsError Datum := do
  match ← yaml text.toList with
  | .null => return .map []
  | .text s => return .map [(.text s, .null)]
  | .map entries => return Datum.ofEntries entries
  | .list items => return .list items
  | _ => .error .unusable

/-- The map or list in a file of settings. -/
def readText (text : List Char) : Except SettingsError Datum := do
  let d ← match ← yaml text with
    | .null => .ok (.map [])
    | .text s => ofLoneText s
    | .map entries => .ok (Datum.ofEntries entries)
    | .list items => .ok (.list items)
    | d => .error (.noContainer (scalarKind d))
  if isUsable d then return d else .error .unusable

/-- The text of a file; a fault names the absolute path. -/
def fileText (s : Surroundings) (f : Folder) (path : Path) : Except SettingsError (List Char) := do
  let bytes ← match f.read path with
    | .ok bytes => .ok bytes
    | .error (.isFolder _) => .error (.unreadable (.isFolder (s.absoluteText path)))
    | .error fault => .error (.unreadable fault)
  let text ← (Text.Utf8.decodePiecewise bytes).mapError .noText
  return Text.Utf8.normalizeNewlines text

/-- The map or list in a file of settings. -/
def readFile (s : Surroundings) (f : Folder) (path : Path) : Except SettingsError Datum := do
  readText (← fileText s f path)

end Settings

end CommandWrap
