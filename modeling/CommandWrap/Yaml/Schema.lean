import CommandWrap.Yaml.Timestamp

/-!
# The types of plain scalars

The type of a plain scalar shows in its text.  A schema says which forms count: whether dates and times
are recognised, whether an exponent makes a floating point number of digits without a point, and
whether a key may be written twice.
-/
namespace CommandWrap.Yaml

/-- The type of a scalar. -/
inductive ScalarKind
  /-- Nothing. -/
  | null
  /-- A truth value. -/
  | bool
  /-- An integer. -/
  | int
  /-- A floating point number. -/
  | float
  /-- A date or time. -/
  | timestamp
  /-- The key whose value is merged into the mapping. -/
  | merge
  /-- The key whose value stands for the mapping. -/
  | default
  /-- An indicator of the language itself, which no value has. -/
  | indicator
  /-- A text. -/
  | text
deriving DecidableEq, Repr, Inhabited

/-- Which forms of plain scalars count. -/
structure Schema where
  /-- Are dates and times recognised? -/
  hasTimestamps : Bool := true
  /-- Are the wider forms of floating point numbers recognised? -/
  hasWideFloats : Bool := false
  /-- Must the keys of a mapping that are texts differ? -/
  hasUniqueKeys : Bool := false
deriving Repr

namespace Schema

/-- Is the character a decimal digit or an underscore? -/
def isDigitMark (c : Char) : Bool :=
  c.isDigit || c == '_'

/-- What follows a sign, if there is one. -/
def dropSign : List Char → List Char
  | '-' :: rest => rest
  | '+' :: rest => rest
  | cs => cs

/-- A digit, then digits and underscores: what follows them. -/
def dropNumber? : List Char → Option (List Char)
  | [] => none
  | c :: rest => if c.isDigit then some (rest.dropWhile isDigitMark) else none

/-- Is the text an exponent? -/
def isExponent (signRequired : Bool) : List Char → Bool
  | e :: rest =>
    (e == 'e' || e == 'E') &&
      let digits := dropSign rest
      (!signRequired || digits.length < rest.length) && !digits.isEmpty && digits.all Char.isDigit
  | [] => false

/-- Is the text empty or an exponent? -/
def isExponentOrEnd (signRequired : Bool) (cs : List Char) : Bool :=
  cs.isEmpty || isExponent signRequired cs

/-- Groups of a colon and a number below sixty, as many as there are: how many, and what follows. -/
def dropSixtieths : List Char → Nat × List Char
  | ':' :: c :: d :: rest =>
    if '0' ≤ c && c ≤ '5' && d.isDigit then
      let (n, rest) := dropSixtieths rest
      (n + 1, rest)
    else if c.isDigit then
      let (n, rest) := dropSixtieths (d :: rest)
      (n + 1, rest)
    else (0, ':' :: c :: d :: rest)
  | [':', c] => if c.isDigit then (1, []) else (0, [':', c])
  | cs => (0, cs)

/-- The words of truth. -/
def trueWords : List String :=
  ["yes", "Yes", "YES", "true", "True", "TRUE", "on", "On", "ON"]

/-- The words of falsehood. -/
def falseWords : List String :=
  ["no", "No", "NO", "false", "False", "FALSE", "off", "Off", "OFF"]

/-- Is the text a number with a point, or a word for an infinity or for what is no number? -/
def isFloat (cs : List Char) : Bool :=
  let unsigned := dropSign cs
  let word := String.ofList unsigned
  let pointed := match dropNumber? unsigned with
    | some ('.' :: rest) => isExponentOrEnd true (rest.dropWhile isDigitMark)
    | _ => false
  let fraction := match cs with
    | '.' :: rest => (dropNumber? rest).any (isExponentOrEnd true)
    | _ => false
  let sixtieths := match (dropNumber? unsigned).map dropSixtieths with
    | some (n + 1, '.' :: rest) => n + 1 > 0 && rest.all isDigitMark
    | _ => false
  pointed || fraction || sixtieths || [".inf", ".Inf", ".INF"].contains word ||
    [".nan", ".NaN", ".NAN"].contains (String.ofList cs)

/-- Is the text a number in one of the wider forms? -/
def isWideFloat (cs : List Char) : Bool :=
  let unsigned := dropSign cs
  let pointed := match dropNumber? unsigned with
    | some ('.' :: rest) => isExponentOrEnd false (rest.dropWhile isDigitMark)
    | some rest => isExponent false rest
    | _ => false
  let fraction := match cs with
    | '.' :: c :: rest => isDigitMark c && isExponentOrEnd true (rest.dropWhile isDigitMark)
    | _ => false
  pointed || fraction || isFloat cs

/-- Is the text an integer? -/
def isInteger (cs : List Char) : Bool :=
  match dropSign cs with
  | ['0'] => true
  | '0' :: 'b' :: rest => !rest.isEmpty && rest.all fun c => c == '0' || c == '1' || c == '_'
  | '0' :: 'x' :: rest =>
    !rest.isEmpty && rest.all fun c =>
      isDigitMark c || ('a' ≤ c && c ≤ 'f') || ('A' ≤ c && c ≤ 'F')
  | '0' :: rest => !rest.isEmpty && rest.all fun c => ('0' ≤ c && c ≤ '7') || c == '_'
  | c :: rest =>
    c.isDigit &&
      match rest.dropWhile isDigitMark with
      | [] => true
      | tail => (dropSixtieths tail).2.isEmpty
  | [] => false

/-- Is the text a date or time? -/
def isTimestamp (cs : List Char) : Bool :=
  (Timestamp.parse? cs).any (·.2)

/-- The text without a line feed at its end. -/
def withoutLastBreak (cs : List Char) : List Char :=
  if cs.getLast? = some '\n' then cs.dropLast else cs

/-- The type that shows in the text of a plain scalar.  A line feed at the end does not count, unless
the text is nothing else. -/
def kindOf (schema : Schema) (text : String) : ScalarKind :=
  if text.isEmpty then .null
  else
    let cs := withoutLastBreak text.toList
    let word := String.ofList cs
    if trueWords.contains word || falseWords.contains word then .bool
    else if isFloat cs then .float
    else if isInteger cs then .int
    else if word == "<<" then .merge
    else if ["~", "null", "Null", "NULL"].contains word then .null
    else if schema.hasTimestamps && isTimestamp cs then .timestamp
    else if word == "=" then .default
    else if ["!", "&", "*"].contains word then .indicator
    else if schema.hasWideFloats && isWideFloat cs then .float
    else .text

end Schema

end CommandWrap.Yaml
