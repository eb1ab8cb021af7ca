/-!
# Triple-quoted text

A text between two runs of three double quotes, where it may span lines.  A backslash is doubled, and
a run of three double quotes inside the text is escaped quote by quote.
-/
namespace CommandWrap.Text

namespace TripleQuoted

/-- The text between the delimiters. -/
def escape : List Char → List Char
  | [] => []
  | '"' :: '"' :: '"' :: rest => '\\' :: '"' :: '\\' :: '"' :: '\\' :: '"' :: escape rest
  | '\\' :: rest => '\\' :: '\\' :: escape rest
  | c :: rest => c :: escape rest

/-- Three double quotes. -/
def delimiter : List Char := ['"', '"', '"']

/-- The text with its delimiters, as characters. -/
def encode (cs : List Char) : List Char :=
  delimiter ++ escape cs ++ delimiter

end TripleQuoted

/-- The text between runs of three double quotes. -/
def tripleQuoted (s : String) : String :=
  String.ofList (TripleQuoted.encode s.toList)

end CommandWrap.Text
