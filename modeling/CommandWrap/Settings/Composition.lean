import CommandWrap.Settings.Source
import CommandWrap.Settings.TypedOverride

/-!
# Composed settings

Named settings are put together from the files of a folder.  A file may list the names of others under
`defaults`; its own entries are merged where the list says `_self_`, or after all others.  A file in a
subfolder gives the entries of the map that is named like the subfolder.  At the end the overrides are
applied in order: they only change what is there, unless they are marked as additions or removals.
-/
namespace CommandWrap.Settings

/-- One item of a list of defaults. -/
inductive DefaultItem
  /-- The entries of the file with the list. -/
  | self
  /-- A file, by its path. -/
  | file (path : String)
  /-- A choice among the files of a subfolder; it may be left open, and it may be missing. -/
  | choice (group : String) (name? : Option String) (isOptional : Bool)
deriving DecidableEq, Repr

/-- A file of settings without the list of defaults in it. -/
structure Part where
  /-- The entries. -/
  entries : List (Datum × Datum)
  /-- The list of defaults. -/
  defaults : List DefaultItem
  /-- Where the entries belong, if the file says so. -/
  package? : Option String
deriving Inhabited

namespace Composition

/-- The key of the list of defaults. -/
def defaultsKey : String := "defaults"

/-- The path without the spaces around it and without a slash in front. -/
def plainPath (path : String) : String :=
  if path.startsWith "/" then (path.drop 1).toString else path

/-- The item of a list of defaults. -/
def item? : Datum → Option DefaultItem
  | .text "_self_" => some .self
  | .text path => some (.file path)
  | .map [(.text key, value)] =>
    let isOptional := key.startsWith "optional "
    let group := if isOptional then (key.drop 9).toString else key
    match value with
    | .null => some (.choice group none isOptional)
    | .text name => some (.choice group (some name) isOptional)
    | _ => none
  | _ => none

/-- The list of defaults of a file, with the file itself at the end unless the list says otherwise. -/
def defaults? (entries : List (Datum × Datum)) : Option (List DefaultItem) := do
  let items ← match Datum.lookup defaultsKey entries with
    | none => some []
    | some (.list items) => items.mapM item?
    | some _ => none
  match (items.filter (· = .self)).length with
  | 0 => return items ++ [.self]
  | 1 => return items
  | _ => none

/-- The word behind `@package` in the comments at the beginning of a file. -/
def packageOf (text : List Char) : Option String :=
  let lines := (String.ofList text).splitOn "\n"
  let comments := (lines.map Text.strip).filter (· != "") |>.takeWhile (·.startsWith "#")
  comments.findSome? fun line =>
    match (Text.words (line.toList.dropWhile (· == '#'))).map String.ofList with
    | ["@package", name] => some name
    | _ => none

/-- The name of the file of named settings. -/
def fileName (name : String) : String :=
  if name.endsWith ".yaml" then name else name ++ ".yaml"

/-- The part in a file. -/
def readPart (s : Surroundings) (f : Folder) (dir : Path) (name : String) : Except SettingsError Part := do
  let path := dir.below (Path.ofText (fileName (plainPath name)))
  if !f.hasFile path then .error .notComposed
  let text ← fileText s f path
  match ← readText text with
  | .map entries =>
    match defaults? entries with
    | none => .error .notComposed
    | some defaults =>
      return {
        entries := entries.filter (!·.1.isText defaultsKey), defaults, package? := packageOf text }
  | _ => .error .notComposed

/-- The subfolder of the path of a file. -/
def groupOf (name : String) : List String :=
  ((plainPath name).splitOn "/").dropLast

/-- Where the entries of a file belong: the keys of the map. -/
def packageKeys (group : List String) : Option String → List String
  | some "_global_" => []
  | some "_group_" => group
  | some package => package.splitOn "."
  | none => group

/-- The map that holds entries under keys. -/
def wrap (keys : List String) (entries : List (Datum × Datum)) : Datum :=
  keys.foldr (fun key d => .map [(.text key, d)]) (.map entries)

/-- The choices that overrides make. -/
abbrev Choices := List (String × Option String)

/-- The path of a file named in a file of a subfolder. -/
def pathWithin (group : List String) (path : String) : String :=
  if path.startsWith "/" then path else String.intercalate "/" (group ++ [path])

/-- A step of putting named settings together. -/
inductive Step
  /-- The entries of a file, as a map. -/
  | part (name : String) (d : Datum)
  /-- A choice among the files of a subfolder. -/
  | choice (group : String)

mutual

/-- The steps of putting named settings together, in order. -/
def steps (s : Surroundings) (f : Folder) (dir : Path) (choices : Choices) (fuel : Nat) (name : String) :
    Except SettingsError (List Step) :=
  match fuel with
  | 0 => .error .notComposed
  | fuel + 1 => do
    let part ← readPart s f dir name
    let group := groupOf name
    let own := Step.part (plainPath name) (wrap (packageKeys group part.package?) part.entries)
    allSteps s f dir choices fuel group own part.defaults

/-- The steps of a list of defaults. -/
def allSteps (s : Surroundings) (f : Folder) (dir : Path) (choices : Choices) (fuel : Nat)
    (group : List String) (own : Step) : List DefaultItem → Except SettingsError (List Step)
  | [] => .ok []
  | item :: rest => do
    let found ← match fuel with
      | 0 => .error .notComposed
      | fuel + 1 =>
        match item with
        | .self => .ok [own]
        | .file path => steps s f dir choices fuel (pathWithin group path)
        | .choice g name? isOptional =>
          let within := plainPath (pathWithin group g)
          match (choices.lookup within).getD name? with
          | none => .ok [.choice within]
          | some name =>
            match steps s f dir choices fuel (within ++ "/" ++ name) with
            | .error .notComposed => if isOptional then .ok [.choice within] else .error .notComposed
            | .error e => .error e
            | .ok found => .ok (.choice within :: found)
    return found ++ (← allSteps s f dir choices fuel group own rest)

end

/-- The choice that an override makes, if its key names a subfolder. -/
def choiceOf? (f : Folder) (dir : Path) (o : TypedOverride) : Option (String × Option String) :=
  match f.find (dir.below (Path.ofText o.key)), o.value? with
  | .ok (_, .folder), some (.text name) => some (o.key, some name)
  | .ok (_, .folder), some .null => some (o.key, none)
  | _, _ => none

/-- Apply an override to the data. -/
def apply (d : Datum) (o : TypedOverride) : Except SettingsError Datum := do
  let keys := KeyPath.ofText o.key
  let old := (KeyPath.get? keys d).getD .null
  let put (isClosed : Bool) (v : Datum) : Except SettingsError Datum := do
    if !TypedOverride.isPath o.key then .error .notComposed
    let d ← match KeyPath.update isClosed v keys d with
      | .ok d => .ok d
      | .error .noPlace => .error .notComposed
      | .error fault => .error (.badPlace fault)
    if isUsable v then return d else .error .notComposed
  match o.kind, o.value? with
  | .change, some v => put true v
  | .put, some v => put false v
  | .add, some v =>
    match old, v with
    | .null, v => put false v
    | _, .map _ => put false v
    | _, .list _ => put false v
    | _, _ => .error .notComposed
  | .remove, v? =>
    let differs := match v? with
      | none => false
      | some .null => false
      | some v => v.quote != old.quote
    match old with
    | .null => .error .notComposed
    | _ =>
      match KeyPath.remove? keys d with
      | some d => if differs then .error .notComposed else .ok d
      | none => .error .notComposed
  | _, none => .error .notComposed

/-- The maps that steps put together, which must be of different files. -/
def mergeSteps (found : List Step) : Except SettingsError Datum := do
  let files := found.filterMap fun
    | .part name d => some (name, d)
    | .choice _ => none
  let names := files.map (·.1)
  if names.eraseDups.length < names.length then .error .notComposed
  files.foldlM (fun d (_, part) =>
    match KeyPath.merge false d part with
    | .ok d => .ok d
    | .error _ => .error SettingsError.notComposed) (Datum.map [])

/-- Is there such a choice among the steps? -/
def hasChoice (found : List Step) (group : String) : Bool :=
  found.any fun
    | .choice g => g == group
    | .part _ _ => false

/-- The data of named settings, with overrides. -/
def data (s : Surroundings) (f : Folder) (dir : Path) (name : String) (overrides : List String) :
    Except SettingsError Datum := do
  match overrides.mapM TypedOverride.ofText? with
  | none => .error .notComposed
  | some overrides =>
    let choices := overrides.filterMap (choiceOf? f dir)
    let found ← steps s f dir choices (2 * f.items.length + 8) name
    if !(choices.all fun c => hasChoice found c.1) then .error .notComposed
    let d ← mergeSteps found
    (overrides.filter fun o => (choiceOf? f dir o).isNone).foldlM apply d

end Composition

end CommandWrap.Settings
