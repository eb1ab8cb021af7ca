import CommandWrap.Log
import CommandWrap.Settings.Composition

/-!
# Loading settings

Settings come from one file, with overrides `KEY=VALUE` whose values are texts, or they are put together
from named files in a folder, with typed overrides.  A reference to settings is the path of a file if
there is one, and otherwise a name.
-/
namespace CommandWrap.Settings

/-- The logger of messages about settings. -/
def logger : String := "docker_wrapper.config.loader"

/-- The key and the value of an override around the first equals sign. -/
def splitOverride? (text : String) : Option (String × String) :=
  let cs := text.toList
  if cs.contains '=' then
    some (String.ofList (cs.takeWhile (· != '=')), String.ofList ((cs.dropWhile (· != '=')).drop 1))
  else none

/-- Apply an override to the data. -/
def override (d : Datum) (text : String) : Except SettingsError Datum := do
  match splitOverride? text with
  | none => .error (.badOverride text)
  | some (key, value) =>
    let d ← (KeyPath.update false (.text value) (KeyPath.ofText key) d).mapError SettingsError.ofPlace
    if isUsable (.text value) then return d else .error .unusable

/-- The settings that data from a source describes once its references are resolved. -/
def ofSource (s : Surroundings) (source : String) (d : Datum) : Except SettingsError Settings :=
  match resolved s d with
  | none => .error .unusable
  | some d => (ofDatum d).mapError (.form · source)

/-- The settings in a file, with overrides. -/
def load (s : Surroundings) (f : Folder) (path : Path) (overrides : List String) :
    Except SettingsError Settings := do
  if !f.has path then .error (.notFound path.text)
  let d ← readFile s f path
  ofSource s path.text (← overrides.foldlM override d)

/-- The settings with a name in a folder, with typed overrides. -/
def compose (s : Surroundings) (f : Folder) (name : String) (dir : Path) (overrides : List String) :
    Except SettingsError Settings := do
  if !f.has dir then .error (.noFolder (s.absoluteText dir))
  ofSource s ("Hydra config " ++ name) (← Composition.data s f dir name overrides)

/-- The messages about settings with a name. -/
def composeNotes (name : String) (dir : Path) (overrides : List String) : List Log.Note :=
  ⟨.info, logger, "Loading Hydra config: " ++ name ++ " from " ++ dir.text⟩ ::
    if overrides.isEmpty then []
    else [⟨.debug, logger, "Applying " ++ toString overrides.length ++ " overrides"⟩]

/-- The settings that a reference stands for, with overrides, and the messages about them. -/
def ofReference (s : Surroundings) (f : Folder) (ref : String) (dir : Path) (overrides : List String) :
    Except SettingsError Settings × List Log.Note :=
  if f.hasFile (Path.ofText ref) then (load s f (Path.ofText ref) overrides, [])
  else (compose s f ref dir overrides, composeNotes ref dir overrides)

end CommandWrap.Settings
