import CommandWrap.Document.DatumText
import CommandWrap.Module.Text

/-!
# Settings

The settings of a run say which command tree is read and how the module is generated.  They are read
from data: a map with known keys, of which only the command tree is required.  A setting that is a text
may be written as any value; the exclusions must be a list.
-/
namespace CommandWrap

/-- The settings of a run. -/
structure Settings where
  /-- The file of the command tree. -/
  metadata : String
  /-- The file to write; nothing prints the module. -/
  output? : Option String := none
  /-- The module from which the generated module takes its helpers. -/
  runtime : String := ModuleText.defaultRuntime
  /-- The documentation of the generated module. -/
  doc? : Option String := none
  /-- The paths of the commands to leave out. -/
  exclude : List String := []
deriving DecidableEq, Repr

namespace Settings

/-- The name of the class of settings. -/
def className : String := "Generator"

/-- Why data gives no settings. -/
inductive FormFault
  /-- It is no map. -/
  | noMap
  /-- The command tree is missing. -/
  | noMetadata
  /-- A key or a value is not of the right form. -/
  | wrongForm
deriving DecidableEq, Repr

/-- The keys of settings. -/
def keys : List String :=
  ["class_name", "metadata", "output", "runtime_module", "doc", "exclude"]

/-- A setting that is a text. -/
def textField (key default : String) (entries : List (Datum × Datum)) : String :=
  ((Datum.lookup key entries).map Datum.display).getD default

/-- A setting that is a text or nothing. -/
def textField? (key : String) (entries : List (Datum × Datum)) : Option String :=
  match Datum.lookup key entries with
  | some .null => none
  | d? => d?.map Datum.display

/-- The exclusions. -/
def excludeField (entries : List (Datum × Datum)) : Except FormFault (List String) :=
  match Datum.lookup "exclude" entries with
  | none => .ok []
  | some (.list items) => .ok (items.map Datum.display)
  | some _ => .error .wrongForm

/-- Is the key one of settings? -/
def isKnown : Datum → Bool
  | .text key => keys.contains key
  | _ => false

/-- The settings that data describes. -/
def ofDatum : Datum → Except FormFault Settings
  | .map entries =>
    if (Datum.field "metadata" entries).isEmpty then .error .noMetadata
    else if !(entries.all fun e => isKnown e.1) then .error .wrongForm
    else if textField "class_name" className entries ≠ className then .error .wrongForm
    else do
      let exclude ← excludeField entries
      return {
        metadata := textField "metadata" "" entries
        output? := textField? "output" entries
        runtime := textField "runtime_module" ModuleText.defaultRuntime entries
        doc? := textField? "doc" entries
        exclude }
  | _ => .error .noMap

end Settings

end CommandWrap
