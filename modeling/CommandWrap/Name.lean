import CommandWrap.Text.Quoted
import CommandWrap.Unicode.Digit
import CommandWrap.Unicode.Identifier
import CommandWrap.Unicode.NormalForm
import CommandWrap.Unicode.Upper
import CommandWrap.Unicode.Word

/-!
# Names of wrappers and fields

The option record and the builder of a command share a base name, made from the words of the command's
path: every element is cut at its hyphens, and each piece starts with a capital.  The field of a flag
is named after the flag, changed as little as an attribute name needs.
-/
namespace CommandWrap.Name

/-- The suffix of the names of option records. -/
def optionSuffix : String := "Option"

/-- The suffix of the names of builders. -/
def builderSuffix : String := "Cmd"

/-- The characters between hyphens, in order; some of the pieces may be empty. -/
def splitHyphens : List Char → List (List Char)
  | [] => [[]]
  | c :: rest =>
    if c = '-' then [] :: splitHyphens rest
    else match splitHyphens rest with
      | [] => [[c]]
      | piece :: pieces => (c :: piece) :: pieces

/-- The piece with its first character in upper case and the others as they are. -/
def capitalize : List Char → List Char
  | [] => []
  | c :: rest => Unicode.upper c ++ rest

/-- The pieces, each capitalized, one after the other. -/
def pascal (pieces : List (List Char)) : List Char :=
  pieces.flatMap capitalize

/-- The pieces, each capitalized, as one word. -/
def toPascal (segments : List String) : String :=
  String.ofList (pascal (segments.map String.toList))

/-- The pieces of all elements of a path. -/
def segments (path : List String) : List (List Char) :=
  path.flatMap fun element => splitHyphens element.toList

/-- The word that a path makes, whether or not it is an identifier. -/
def pathWord (path : List String) : List Char :=
  pascal (segments path)

/-- The base name of the command at a path, if the word that the path makes is an identifier. -/
def base? (path : List String) : Option String :=
  let word := pathWord path
  if Unicode.isIdentifier word then some (String.ofList word) else none

/-- The words of the target language that are no names. -/
def keywords : List String :=
  ["False", "None", "True", "and", "as", "assert", "async", "await", "break", "class", "continue",
    "def", "del", "elif", "else", "except", "finally", "for", "from", "global", "if", "import", "in",
    "is", "lambda", "nonlocal", "not", "or", "pass", "raise", "return", "try", "while", "with",
    "yield"]

/-- The helpers that declare fields; records call them by name, so no field may take their names. -/
def helpers : List String :=
  ["flag", "list_flag", "map_flag"]

/-- A character of a field name: a word character as it is, any other as a low line. -/
def fieldChar (c : Char) : Char :=
  if Unicode.isWord c then c else '_'

/-- Put `flag_` in front of characters that begin with a digit. -/
def guardDigit : List Char → List Char
  | [] => []
  | c :: rest => if Unicode.isDigit c then "flag_".toList ++ c :: rest else c :: rest

/-- Put a low line behind a word that is taken. -/
def guardTaken (name : String) : String :=
  if keywords.contains name || helpers.contains name then name ++ "_" else name

/-- The field name of a flag; the empty flag name has none. -/
def field? (flagName : String) : Option String :=
  if flagName.isEmpty then none
  else some (guardTaken (String.ofList (guardDigit (flagName.toList.map fieldChar))))

end CommandWrap.Name
