import CommandWrap.Document.DatumText
import CommandWrap.Yaml.ScalarStyle

/-!
# Data written as YAML

Maps and lists are written as blocks: an entry or item a line, indented by two columns for each map
around it.  A list that is the value of an entry is indented like its key.  Empty maps and lists are
written between brackets.  Texts are written by their style, other scalars by their plain text.
-/
namespace CommandWrap.Yaml.Writer

/-- So many spaces. -/
def spaces (n : Nat) : List Char :=
  List.replicate n ' '

/-- The key of an entry. -/
def keyText (schema : Schema) (k : Datum) : List Char :=
  match k with
  | .text s => ScalarStyle.write (ScalarStyle.choose schema s) 0 0 s.toList
  | d => d.quote.toList

/-- A scalar in a block with the given indentation, written from a column on. -/
def scalarText (schema : Schema) (indent column : Nat) (d : Datum) : List Char :=
  match d with
  | .text s => ScalarStyle.write (ScalarStyle.choose schema s) (indent + 2) column s.toList
  | d => d.quote.toList

mutual

/-- A datum behind the colon of an entry of a map with the given indentation; `column` is where the
colon ends. -/
def valueText (schema : Schema) (indent column : Nat) : Datum → List Char
  | .map [] => [' ', '{', '}', '\n']
  | .map (e :: es) => '\n' :: entriesText schema (indent + 2) true (e :: es)
  | .list [] => [' ', '[', ']', '\n']
  | .list (d :: ds) => '\n' :: itemsText schema indent true (d :: ds)
  | d => ' ' :: scalarText schema indent (column + 1) d ++ ['\n']

/-- The entries of a map with the given indentation; the first one may begin on a line that is indented
already. -/
def entriesText (schema : Schema) (indent : Nat) (indentsFirst : Bool) :
    List (Datum × Datum) → List Char
  | [] => []
  | (k, v) :: rest =>
    let key := keyText schema k
    (if indentsFirst then spaces indent else []) ++ key ++ ':' ::
      valueText schema indent (indent + key.length + 1) v ++ entriesText schema indent true rest

/-- The items of a list with the given indentation; the first one may begin on a line that is indented
already. -/
def itemsText (schema : Schema) (indent : Nat) (indentsFirst : Bool) : List Datum → List Char
  | [] => []
  | d :: rest =>
    (if indentsFirst then spaces indent else []) ++ '-' ::
      itemText schema indent d ++ itemsText schema indent true rest

/-- A datum behind the hyphen of an item of a list with the given indentation. -/
def itemText (schema : Schema) (indent : Nat) : Datum → List Char
  | .map [] => [' ', '{', '}', '\n']
  | .map (e :: es) => ' ' :: entriesText schema (indent + 2) false (e :: es)
  | .list [] => [' ', '[', ']', '\n']
  | .list (d :: ds) => ' ' :: itemsText schema (indent + 2) false (d :: ds)
  | d => ' ' :: scalarText schema indent (indent + 2) d ++ ['\n']

end

/-- The text of a document that holds a map. -/
def document (schema : Schema) (d : Datum) : List Char :=
  match d with
  | .map (e :: es) => entriesText schema 0 true (e :: es)
  | .map [] => ['{', '}', '\n']
  | .list (d :: ds) => itemsText schema 0 true (d :: ds)
  | .list [] => ['[', ']', '\n']
  | d => scalarText schema 0 0 d ++ ['\n']

end CommandWrap.Yaml.Writer
