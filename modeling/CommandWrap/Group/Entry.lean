import CommandWrap.Value

/-!
# Entries as values of options

The value of an option may be an entry of a map, written `KEY=VALUE`.  The first equals sign divides the
key from the value, so a key holds none and a value may hold several.  An entry that was read already is
taken as it is.
-/
namespace CommandWrap.Group.Entry

/-- The key and the value around the first equals sign. -/
def split? : List Char → Option (List Char × List Char)
  | [] => none
  | c :: rest =>
    if c = '=' then some ([], rest) else (split? rest).map fun (key, value) => (c :: key, value)

/-- The entry that the text of a value gives, or the wording of the error. -/
def read (v : Value) : Except String (String × String) :=
  match split? v.display.toList with
  | some (key, value) => .ok (String.ofList key, String.ofList value)
  | none => .error ("Invalid value: expected KEY=VALUE, got " ++ v.quote)

/-- The entry that a text gives, or the wording of the error. -/
def ofText (s : String) : Except String (String × String) :=
  read (.text s)

/-- An entry as a value. -/
def toValue (e : String × String) : Value :=
  .tuple [.text e.1, .text e.2]

/-- A value as the option takes it: a row of values stays as it is, and any other value is read as an
entry. -/
def convert (v : Value) : Except String Value :=
  match v with
  | .tuple _ => .ok v
  | _ => (read v).map toValue

end CommandWrap.Group.Entry
