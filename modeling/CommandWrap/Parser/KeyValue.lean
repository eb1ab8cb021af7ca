import CommandWrap.Parser.Reading
import CommandWrap.Value.Compare

/-!
# Options that collect entries

An option may collect entries of the form `KEY=VALUE` in a map.  The attribute of the option refers to a
map, at first to that of the default.  Each entry goes into a copy of the map, to which the attribute
refers from then on, so the map of the default does not change.
-/
namespace CommandWrap.Parser.KeyValue

/-- The entry that a word gives; nothing without an equals sign. -/
def pair? (word : String) : Option (String × String) :=
  let (key, value?) := Reading.splitEquals word
  value?.map (key, ·)

/-- Put an entry into a map of texts: an old key keeps its place and takes the new value. -/
def insert (k v : String) : List (String × String) → List (String × String)
  | [] => [(k, v)]
  | (l, w) :: rest => if l = k then (l, v) :: rest else (l, w) :: insert k v rest

/-- A map of texts as a map of values. -/
def ofTexts (entries : List (String × String)) : List (Value × Value) :=
  entries.map fun e => (.text e.1, .text e.2)

/-- The entries of a map that are texts. -/
def toTexts (entries : List (Value × Value)) : List (String × String) :=
  entries.filterMap fun
    | (.text k, .text v) => some (k, v)
    | _ => none

/-- The maps that were made so far, and the one that the attribute of the option refers to, if any. -/
structure Collection where
  /-- The entries of the maps. -/
  maps : Array (List (Value × Value)) := #[]
  /-- The number of the map of the attribute. -/
  held? : Option Nat := none

namespace Collection

/-- The attribute with its default, which is absent or a map. -/
def ofDefault : Option (List (Value × Value)) → Collection
  | none => {}
  | some entries => { maps := #[entries], held? := some 0 }

/-- The map that the attribute refers to. -/
def map? (c : Collection) : Option (List (Value × Value)) :=
  c.held?.bind fun number => c.maps[number]?

/-- The entries collected so far. -/
def entries (c : Collection) : List (Value × Value) :=
  c.map?.getD []

/-- Let the attribute refer to a new map. -/
def refer (c : Collection) (entries : List (Value × Value)) : Collection :=
  { maps := c.maps.push entries, held? := some c.maps.size }

/-- Take the entry of a word; an error when the word gives none. -/
def take (name : String) (c : Collection) (word : String) : Except String Collection :=
  match pair? word with
  | some (k, v) => .ok (c.refer (Value.insertEntry c.entries (.text k) (.text v)))
  | none => .error (name ++ " expects KEY=VALUE, got " ++ Text.quoted word)

/-- Take the entries of words in order. -/
def takeAll (name : String) (c : Collection) (words : List String) : Except String Collection :=
  words.foldlM (take name) c

end Collection

/-- A map with the entries of words added; an error when a word gives none. -/
def collect (name : String) (entries : List (String × String)) (words : List String) :
    Except String (List (String × String)) :=
  ((Collection.ofDefault (some (ofTexts entries))).takeAll name words).map fun c => toTexts c.entries

end CommandWrap.Parser.KeyValue
