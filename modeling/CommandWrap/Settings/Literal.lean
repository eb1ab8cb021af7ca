import CommandWrap.Decimal.Reader
import CommandWrap.Document.Datum

/-!
# Unquoted literals

A value without quotes is a run of letters, digits, blanks and a few marks.  If the whole run is the
word for nothing, a truth value or a number, it stands for that; otherwise it is a text.
-/
namespace CommandWrap.Settings.Literal

/-- May the character stand in an unquoted value as it is?  Backslashes, colons and blanks are looked at
on their own. -/
def isPlain (c : Char) : Bool :=
  c.isAlphanum || "_/-+.$%*@?|".toList.contains c

/-- Is the character a blank within a line? -/
def isSpace (c : Char) : Bool :=
  c == ' ' || c == '\t'

/-- May the character follow a backslash to stand for itself? -/
def isEscapable (c : Char) : Bool :=
  "\\()[]\x7b\x7d:=, \t".toList.contains c

/-- The characters without the blanks in front. -/
def skipSpaces (cs : List Char) : List Char :=
  cs.dropWhile isSpace

/-- A letter or underscore, then letters, digits, underscores and hyphens. -/
def isName : List Char → Bool
  | [] => false
  | c :: rest => (c.isAlpha || c == '_') && rest.all fun d => d.isAlphanum || d == '_' || d == '-'

/-- Digits with single underscores between them. -/
def isDigits : List Char → Bool
  | [] => false
  | [c] => c.isDigit
  | c :: d :: rest => c.isDigit && if d == '_' then isDigits rest else isDigits (d :: rest)

/-- A whole number without a sign; only zero begins with a zero. -/
def isWhole : List Char → Bool
  | [] => false
  | ['0'] => true
  | c :: rest => c != '0' && isDigits (c :: rest)

/-- What follows a sign, if there is one. -/
def dropSign : List Char → List Char
  | '+' :: rest => rest
  | '-' :: rest => rest
  | cs => cs

/-- A number with a point. -/
def isPointed (cs : List Char) : Bool :=
  let whole := cs.takeWhile (· != '.')
  match cs.drop whole.length with
  | [] => false
  | _ :: fraction =>
    (whole.isEmpty && isDigits fraction) || (isWhole whole && (fraction.isEmpty || isDigits fraction))

/-- A number with a point or an exponent. -/
def isDecimal (cs : List Char) : Bool :=
  let mantissa := cs.takeWhile fun c => c != 'e' && c != 'E'
  match cs.drop mantissa.length with
  | [] => isPointed mantissa
  | _ :: exponent => (isWhole mantissa || isPointed mantissa) && isDigits (dropSign exponent)

/-- What a run of characters that is no text stands for. -/
def value? (run : List Char) : Option Datum :=
  let word := String.ofList (run.map Char.toLower)
  let number := dropSign run
  let numberWord := String.ofList (number.map Char.toLower)
  if word == "null" then some .null
  else if word == "true" then some (.bool true)
  else if word == "false" then some (.bool false)
  else if isWhole number then (Decimal.integer 10 (String.ofList run)).toOption.map .int
  else if numberWord == "inf" || numberWord == "nan" || isDecimal number then
    (Decimal.float? (String.ofList run)).map .float
  else none

end CommandWrap.Settings.Literal
