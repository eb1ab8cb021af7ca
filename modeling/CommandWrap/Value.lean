import CommandWrap.Decimal.FloatText
import CommandWrap.Shape
import CommandWrap.Text.Quoted

/-!
# Option values

A flag accepts any value, so values are dynamic: absent, truth values, integers, floating point and
complex numbers, texts, lists, maps, and members of enumerations.  A member of an enumeration of texts,
such as that of the shapes, is a text as well; a member of any other enumeration only wraps a value.

`display` is the plain text of a value, `quote` the text that a container shows for it, and `canonical`
the text that a flag takes.
-/
namespace CommandWrap

open Decimal (Binary64 FloatStyle)

/-- A member of an enumeration of texts. -/
structure TextMember where
  /-- The name of the enumeration. -/
  enumeration : String
  /-- The name of the member. -/
  name : String
  /-- The text that the member is; it is the value of the member as well. -/
  text : String
  /-- The text that is shown for the member: its name behind that of the enumeration, unless the
  enumeration shows its members in another way. -/
  shown : String := enumeration ++ "." ++ name
deriving DecidableEq, Repr, Inhabited

/-- A shape as a member of the enumeration of shapes. -/
def Shape.member (s : Shape) : TextMember where
  enumeration := "RenderShape"
  name := s.memberName
  text := s.word

/-- A dynamic value. -/
inductive Value
  /-- No value. -/
  | none
  /-- A truth value. -/
  | bool (b : Bool)
  /-- An integer of any size. -/
  | int (i : Int)
  /-- A floating point number. -/
  | float (x : Binary64)
  /-- A complex number. -/
  | complex (re im : Binary64)
  /-- A text. -/
  | text (s : String)
  /-- A list of values. -/
  | list (items : List Value)
  /-- A fixed sequence of values. -/
  | tuple (items : List Value)
  /-- A map with its entries in order of insertion. -/
  | map (entries : List (Value × Value))
  /-- A member of an enumeration of texts, which is also a text. -/
  | textMember (m : TextMember)
  /-- A member of another enumeration. -/
  | member (value : Value)
deriving Inhabited

namespace Value

/-- A shape as a value. -/
def shape (s : Shape) : Value :=
  .textMember s.member

/-- The name of the type of a value, as error messages give it. -/
def kind : Value → String
  | .none => "NoneType"
  | .bool _ => "bool"
  | .int _ => "int"
  | .float _ => "float"
  | .complex _ _ => "complex"
  | .text _ => "str"
  | .list _ => "list"
  | .tuple _ => "tuple"
  | .map _ => "dict"
  | .textMember m => m.enumeration
  | .member _ => "E"

/-- The word of a truth value in a container. -/
def boolWord (b : Bool) : String :=
  if b then "True" else "False"

/-- How numbers are written in containers. -/
def numberStyle : FloatStyle := ⟨true, false, "inf", "nan"⟩

/-- How the real part of a complex number is written in containers. -/
def realPartStyle : FloatStyle := ⟨false, false, "inf", "nan"⟩

/-- How the imaginary part of a complex number is written behind its real part. -/
def imaginaryPartStyle : FloatStyle := ⟨false, true, "inf", "nan"⟩

/-- A complex number in a container; a real part that is positive zero is left out. -/
def quoteComplex (re im : Binary64) : String :=
  if re.bits = 0 then im.text realPartStyle ++ "j"
  else "(" ++ re.text realPartStyle ++ im.text imaginaryPartStyle ++ "j)"

/-- The elements of a fixed sequence between parentheses; a comma follows a single one. -/
def tupleText : List String → String
  | [x] => "(" ++ x ++ ",)"
  | xs => "(" ++ String.intercalate ", " xs ++ ")"

mutual

/-- The text that a container shows for a value. -/
def quote : Value → String
  | .none => "None"
  | .bool b => boolWord b
  | .int i => toString i
  | .float x => x.text numberStyle
  | .complex re im => quoteComplex re im
  | .text s => Text.quoted s
  | .list items => "[" ++ String.intercalate ", " (quoteItems items) ++ "]"
  | .tuple items => tupleText (quoteItems items)
  | .map entries => "\x7b" ++ String.intercalate ", " (quoteEntries entries) ++ "\x7d"
  | .textMember m =>
    "<" ++ m.enumeration ++ "." ++ m.name ++ ": " ++ Text.quoted m.text ++ ">"
  | .member v => "<E.X: " ++ quote v ++ ">"

/-- The texts of the elements of a list. -/
def quoteItems : List Value → List String
  | [] => []
  | v :: rest => quote v :: quoteItems rest

/-- The texts of the entries of a map. -/
def quoteEntries : List (Value × Value) → List String
  | [] => []
  | (k, v) :: rest => (quote k ++ ": " ++ quote v) :: quoteEntries rest

end

/-- The plain text of a value: a text stands for itself. -/
def display : Value → String
  | .text s => s
  | .textMember m => m.shown
  | .member _ => "E.X"
  | v => v.quote

/-- The text of a floating point number as a flag value. -/
def canonicalFloat (x : Binary64) : String :=
  match x.unpack with
  | .nan => "NaN"
  | .infinite negative => if negative then "-Inf" else "+Inf"
  | .finite _ _ _ => x.text numberStyle

/-- A text with a plus sign unless it has a sign already. -/
def signed (s : String) : String :=
  if s.startsWith "+" || s.startsWith "-" then s else "+" ++ s

/-- The text of a value as a flag takes it: truth values in lower case, floating point numbers in
their shortest form, complex numbers as `(re+imi)`, and members of enumerations by their value. -/
def canonical : Value → String
  | .bool b => if b then "true" else "false"
  | .float x => canonicalFloat x
  | .complex re im => "(" ++ canonicalFloat re ++ signed (canonicalFloat im) ++ "i)"
  | .textMember m => m.text
  | .member v => v.canonical
  | v => v.display

/-- The text of a value that is a text, be it plain or a member of an enumeration of texts. -/
def asText? : Value → Option String
  | .text s => some s
  | .textMember m => some m.text
  | _ => Option.none

/-- The text of an element of a list flag: texts stand for themselves. -/
def elementText (v : Value) : String :=
  v.asText?.getD v.canonical

/-- The text of the value in an entry of a map flag.  Unlike an element of a list, a member of an
enumeration of texts is shown as its enumeration shows it. -/
def entryText : Value → String
  | .text s => s
  | .textMember m => m.shown
  | v => v.canonical

end Value

end CommandWrap
