import CommandWrap.Document.Datum

/-!
# Data as text

The text that a container shows for a piece of data, and the plain text of the data.  Data is compared
as a key: truth values count as the integers one and zero, and numbers of different types are equal
when they stand for the same number.
-/
namespace CommandWrap.Datum

mutual

/-- The text that a container shows for a datum. -/
def quote : Datum → String
  | .null => "None"
  | .bool b => Value.boolWord b
  | .int i => toString i
  | .float x => x.text Value.numberStyle
  | .text s => Text.quoted s
  | .other s _ => s
  | .list items => "[" ++ String.intercalate ", " (quoteItems items) ++ "]"
  | .map entries => "\x7b" ++ String.intercalate ", " (quoteEntries entries) ++ "\x7d"
  | .keySet keys =>
    if keys.isEmpty then "set()"
    else "\x7b" ++ String.intercalate ", " (quoteItems keys) ++ "\x7d"
  | .listAgain _ => "[...]"
  | .mapAgain _ => "\x7b...\x7d"

/-- The texts of the items of a list. -/
def quoteItems : List Datum → List String
  | [] => []
  | d :: rest => quote d :: quoteItems rest

/-- The texts of the entries of a map. -/
def quoteEntries : List (Datum × Datum) → List String
  | [] => []
  | (k, d) :: rest => (quote k ++ ": " ++ quote d) :: quoteEntries rest

end

/-- The plain text of a datum: a text stands for itself. -/
def display : Datum → String
  | .text s => s
  | d => d.quote

/-- The integer that a datum counts as. -/
def integer? : Datum → Option Int
  | .bool b => some (if b then 1 else 0)
  | .int i => some i
  | _ => none

/-- Are two scalars one key of a map? -/
def sameKey : Datum → Datum → Bool
  | .null, .null => true
  | .text s, .text t => s == t
  | .other s _, .other t _ => s == t
  | .float x, .float y => x.numEq y
  | .float x, d => d.integer?.any x.isInt
  | d, .float y => d.integer?.any y.isInt
  | d, e => d.integer?.isSome && d.integer? == e.integer?

/-- Put an entry into a map: an old key keeps its place and takes the new value. -/
def insertEntry (k v : Datum) : List (Datum × Datum) → List (Datum × Datum)
  | [] => [(k, v)]
  | (l, w) :: rest => if sameKey l k then (l, v) :: rest else (l, w) :: insertEntry k v rest

/-- The map with the given entries, later ones winning. -/
def ofEntries (entries : List (Datum × Datum)) : Datum :=
  .map (entries.foldl (fun es (k, v) => insertEntry k v es) [])

end CommandWrap.Datum
