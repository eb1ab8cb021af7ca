import CommandWrap.Command.Tree
import CommandWrap.Document.DatumText
import CommandWrap.Text.Blank

/-!
# Command trees in documents

A command is a map with a name, a usage line, a short description, a list of flags and a list of
commands; a flag is a map with a name, a type and a help text.  All but the names may be left out.
Texts may be written as any scalar but a truth value, because an unquoted `yes` or `no` is read as
one.  `ofDatum` reads the map of a command, and `toDatum` writes it.

Data may hold itself.  A reference back is followed where a flag or a list of flags is wanted; a command
below itself has no tree.
-/
namespace CommandWrap

/-- Why data is no command tree. -/
inductive TreeError
  /-- A command below this place is no map. -/
  | commandNoMap (place : String)
  /-- A flag below this place is no map. -/
  | flagNoMap (place : String)
  /-- A command below this place has no name. -/
  | commandNoName (place : String)
  /-- A flag below this place has no name. -/
  | flagNoName (place : String)
  /-- The value of a key is a container. -/
  | noScalar (place key kind : String)
  /-- The value of a key was read as a truth value. -/
  | truthValue (place key : String) (b : Bool)
  /-- Flags or commands are no list. -/
  | noLists (place : String)
  /-- The value of a key holds an integer with too many digits. -/
  | integerTooLong
  /-- A command lies below itself. -/
  | endless
deriving DecidableEq, Repr

/-- The text of the error. -/
def TreeError.message : TreeError → String
  | .commandNoMap place => place ++ ": command entries must be mappings"
  | .flagNoMap place => place ++ ": flag entries must be mappings"
  | .commandNoName place => place ++ ": command entry without a name"
  | .flagNoName place => place ++ ": flag entry without a name"
  | .noScalar place key kind => place ++ ": `" ++ key ++ "` must be a scalar, got " ++ kind
  | .truthValue place key b =>
    place ++ ": `" ++ key ++ "` was read as " ++ Value.boolWord b ++ "; quote the text"
  | .noLists place => place ++ ": `flags` and `commands` must be lists"
  | .integerTooLong => "Exceeds the limit (4300 digits) for integer string conversion; use " ++
      "sys.set_int_max_str_digits() to increase the limit"
  | .endless => "maximum recursion depth exceeded in comparison"

namespace TreeReader

/-- The text that a scalar stands for. -/
def textOf (place key : String) : Datum → Except TreeError String
  | .null => .ok ""
  | .bool b => .error (.truthValue place key b)
  | .int i => if (Datum.int i).hasText then .ok (toString i) else .error .integerTooLong
  | .float x => .ok (x.text Value.numberStyle)
  | .text s => .ok s
  | .other s _ => .ok s
  | .keySet keys =>
    if keys.all Datum.hasText then .ok (Datum.keySet keys).quote else .error .integerTooLong
  | .list _ => .error (.noScalar place key "list")
  | .listAgain _ => .error (.noScalar place key "list")
  | .map _ => .error (.noScalar place key "dict")
  | .mapAgain _ => .error (.noScalar place key "dict")

/-- The flag that a map describes; `around` holds the containers around it. -/
def flagOf (place : String) (around : List Datum) (d : Datum) : Except TreeError Flag :=
  match (d.meant around).1 with
  | .map entries => do
    let name ← textOf place "name" (Datum.field "name" entries)
    if name.isEmpty then .error (.flagNoName place)
    let type ← textOf place "type" (Datum.field "type" entries)
    let help ← textOf place "help" (Datum.field "help" entries)
    return { name, type := if type.isEmpty then "string" else type, help }
  | _ => .error (.flagNoMap place)

/-- The elements of a list and the containers around them; what counts as empty has none. -/
def itemsOf? (around : List Datum) (d : Datum) : Option (List Datum × List Datum) :=
  match d.meant around with
  | (.list items, outer) => some (items, .list items :: outer)
  | (e, _) => if e.isEmpty then some ([], []) else none

/-- Is the datum a reference back? -/
def isAgain : Datum → Bool
  | .listAgain _ => true
  | .mapAgain _ => true
  | _ => false

theorem meant_of_not_isAgain {d : Datum} (h : isAgain d = false) (around : List Datum) :
    d.meant around = (d, around) := by
  cases d with
  | listAgain => cases h
  | mapAgain => cases h
  | _ => rfl

theorem sizeOf_itemsOf {around items outer : List Datum} {d : Datum} (hd : isAgain d = false)
    (h : itemsOf? around d = some (items, outer)) : sizeOf items ≤ sizeOf d := by
  rw [itemsOf?, meant_of_not_isAgain hd] at h
  split at h
  · rename_i heq
    cases heq
    cases h
    simp
  · split at h
    · cases h
      have : sizeOf ([] : List Datum) = 1 := rfl
      cases d <;> simp
    · cases h

/-- The place of the root, which is below nothing. -/
def placeOf (parent : String) : String :=
  if parent.isEmpty then "<root>" else parent

mutual

/-- The command tree that a map describes below `parent`; `around` holds the containers around the
map. -/
def treeOf (parent : String) (around : List Datum) : Datum → Except TreeError CommandTree
  | .map entries => do
    let name ← textOf (placeOf parent) "name" (Datum.field "name" entries)
    if name.isEmpty then .error (.commandNoName (placeOf parent))
    let place := Text.strip (parent ++ " " ++ name)
    let inner := .map entries :: around
    match itemsOf? inner (Datum.field "flags" entries),
        _hc : itemsOf? inner (Datum.field "commands" entries) with
    | some (flags, aroundFlags), some (commands, aroundCommands) => do
      let usage ← textOf place "usage" (Datum.field "usage" entries)
      let short ← textOf place "short" (Datum.field "short" entries)
      let flags ← flags.mapM (flagOf place aroundFlags)
      -- the containers around a command are the commands above it and their lists
      if _ha : isAgain (Datum.field "commands" entries) then .error .endless
      else
        let commands ← treesOf place aroundCommands commands
        return .node { name, usage, short, flags } commands
    | _, _ => .error (.noLists place)
  | .mapAgain _ => .error .endless
  | _ => .error (.commandNoMap (placeOf parent))
termination_by d => (sizeOf d, 0)
decreasing_by
  have h1 := sizeOf_itemsOf (Bool.eq_false_iff.mpr _ha) _hc
  have h2 := Datum.sizeOf_field "commands" entries
  simp only [Datum.map.sizeOf_spec]
  apply Prod.Lex.left
  omega

/-- The command trees that a list of maps describes; `around` holds the list and the containers around
it. -/
def treesOf (parent : String) (around : List Datum) :
    List Datum → Except TreeError (List CommandTree)
  | [] => .ok []
  | d :: rest => do
    let t ← treeOf parent around d
    let ts ← treesOf parent around rest
    return t :: ts
termination_by ds => (sizeOf ds, 1)
decreasing_by
  · apply Prod.Lex.left
    simp only [List.cons.sizeOf_spec]
    omega
  · apply Prod.Lex.left
    simp only [List.cons.sizeOf_spec]
    omega

end

/-- The entry of a text. -/
def entry (key text : String) : Datum × Datum :=
  (.text key, .text text)

/-- The map of a flag. -/
def flagDatum (f : Flag) : Datum :=
  .map [entry "name" f.name, entry "type" f.type, entry "help" f.help]

/-- The entry of a list, left out when the list is empty. -/
def listEntry (key : String) (items : List Datum) : List (Datum × Datum) :=
  if items.isEmpty then [] else [(.text key, .list items)]

mutual

/-- The map of a command tree. -/
def datumOf : CommandTree → Datum
  | .node info commands =>
    .map ([entry "name" info.name, entry "usage" info.usage, entry "short" info.short] ++
      listEntry "flags" (info.flags.map flagDatum) ++ listEntry "commands" (dataOf commands))

/-- The maps of a row of command trees. -/
def dataOf : List CommandTree → List Datum
  | [] => []
  | t :: ts => datumOf t :: dataOf ts

end

end TreeReader

namespace CommandTree

/-- The command tree that data describes, below `parent` if that is not empty. -/
def ofDatum (parent : String) (d : Datum) : Except TreeError CommandTree :=
  TreeReader.treeOf parent [] d

/-- The data that describes a command tree. -/
def toDatum (t : CommandTree) : Datum :=
  TreeReader.datumOf t

end CommandTree

end CommandWrap
