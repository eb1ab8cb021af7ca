import CommandWrap.Text.Quoted

/-!
# Text templates

A template holds placeholders that begin with a percent sign: `%(key)s` stands for the text of a key,
`%(key)r` for that text between quotes, and `%%` for a percent sign.  A placeholder without a key
stands for all keys and their texts together and may occur once, before any placeholder with a key.
A width and a precision may be given.
-/
namespace CommandWrap.Text

/-- Why a template cannot be filled in. -/
inductive TemplateFault
  /-- The template ends inside a placeholder. -/
  | unfinished
  /-- The template ends inside a key. -/
  | unfinishedKey
  /-- There is no such key. -/
  | unknownKey (key : String)
  /-- The letter of a placeholder has no meaning; it stands at the given place. -/
  | unknownLetter (letter : Char) (place : Nat)
  /-- There are more placeholders without a key than there are values. -/
  | tooFewValues
  /-- A number is required where there is a text. -/
  | needsNumber (letter : Char) (kind : String)
  /-- A width that is taken from the values is no number. -/
  | needsWidth
deriving DecidableEq, Repr

/-- Four hexadecimal digits or fewer. -/
def hexText (n : Nat) : String :=
  String.ofList (Nat.toDigits 16 n)

/-- The text of the fault. -/
def TemplateFault.message : TemplateFault → String
  | .unfinished => "incomplete format"
  | .unfinishedKey => "incomplete format key"
  | .unknownKey key => key
  | .unknownLetter letter place =>
    let shown := if 31 < letter.toNat ∧ letter.toNat < 127 then letter else '?'
    "unsupported format character '" ++ String.ofList [shown] ++ "' (0x" ++ hexText letter.toNat ++
      ") at index " ++ toString place
  | .tooFewValues => "not enough arguments for format string"
  | .needsNumber letter kind =>
    if letter = 'd' ∨ letter = 'i' ∨ letter = 'u' then
      "%" ++ String.ofList [letter] ++ " format: a real number is required, not " ++ kind
    else if letter = 'o' ∨ letter = 'x' ∨ letter = 'X' then
      "%" ++ String.ofList [letter] ++ " format: an integer is required, not " ++ kind
    else if letter = 'c' then "%c requires int or char"
    else "must be real number, not " ++ kind
  | .needsWidth => "* wants int"

namespace Template

/-- The key up to its closing parenthesis, and what follows; parentheses inside a key are paired. -/
def key? (depth : Nat) : List Char → Option (List Char × List Char)
  | [] => none
  | c :: rest =>
    if c = ')' ∧ depth = 0 then some ([], rest)
    else
      let depth := if c = '(' then depth + 1 else if c = ')' then depth - 1 else depth
      (key? depth rest).map fun (key, rest) => (c :: key, rest)

/-- Is the character a flag of a placeholder? -/
def isFlag (c : Char) : Bool :=
  c == '-' || c == '+' || c == ' ' || c == '#' || c == '0'

/-- How a placeholder is laid out. -/
structure Layout where
  /-- Are blanks added behind the text? -/
  alignsLeft : Bool
  /-- The least width. -/
  width : Nat
  /-- The most characters. -/
  precision? : Option Nat

/-- A text in a layout. -/
def Layout.apply (l : Layout) (text : String) : List Char :=
  let cs := match l.precision? with
    | some n => text.toList.take n
    | none => text.toList
  let blanks := List.replicate (l.width - cs.length) ' '
  if l.alignsLeft then cs ++ blanks else blanks ++ cs

/-- The number that decimal digits write. -/
def numberOf (digits : List Char) : Nat :=
  digits.foldl (fun n d => 10 * n + (d.toNat - 48)) 0

/-- The layout in front of the letter of a placeholder, and what follows. -/
def layout (cs : List Char) : Except TemplateFault (Layout × List Char) :=
  let (flags, cs) := cs.span isFlag
  let (width, cs) := cs.span Char.isDigit
  let (precision?, cs) := match cs with
    | '.' :: rest =>
      let (digits, rest) := rest.span Char.isDigit
      (some (numberOf digits), rest)
    | _ => (none, cs)
  if cs.head? = some '*' then .error .needsWidth
  else
    let cs := match cs with
      | c :: rest => if c = 'h' ∨ c = 'l' ∨ c = 'L' then rest else cs
      | [] => []
    .ok (⟨flags.contains '-', numberOf width, precision?⟩, cs)

/-- All keys with their texts. -/
def allText (values : List (String × String)) : String :=
  "\x7b" ++ String.intercalate ", " (values.map fun (k, v) => quoted k ++ ": " ++ quoted v) ++ "\x7d"

/-- The text that a letter makes of a value. -/
def convert (letter : Char) (place : Nat) (value : Option String) (values : List (String × String)) :
    Except TemplateFault String :=
  match letter with
  | 's' => .ok (value.getD (allText values))
  | 'r' => .ok ((value.map quoted).getD (allText values))
  | 'a' => .ok ((value.map quoted).getD (allText values))
  | c =>
    if "diuoxXeEfFgGc".toList.contains c then
      match c, value with
      | 'c', some v =>
        if v.length = 1 then .ok v else .error (.needsNumber c "str")
      | _, _ => .error (.needsNumber c (if value.isSome then "str" else "dict"))
    else .error (.unknownLetter c place)

/-- Fill in a template from a place on. -/
def fillFrom (values : List (String × String)) :
    Nat → Nat → Bool → List Char → Except TemplateFault (List Char)
  | 0, _, _, _ => .ok []
  | _, _, _, [] => .ok []
  | fuel + 1, total, used, '%' :: rest => do
    match rest with
    | '%' :: rest => return '%' :: (← fillFrom values fuel total used rest)
    | '(' :: rest =>
      match key? 0 rest with
      | none => .error .unfinishedKey
      | some (key, rest) =>
        match values.lookup (String.ofList key) with
        | none => .error (.unknownKey (String.ofList key))
        | some value =>
          let (l, rest) ← layout rest
          match rest with
          | [] => .error .unfinished
          | letter :: rest =>
            let text ← convert letter (total - rest.length - 1) (some value) values
            return l.apply text ++ (← fillFrom values fuel total true rest)
    | rest =>
      let (l, rest) ← layout rest
      match rest with
      | [] => .error .unfinished
      | letter :: rest =>
        if used then .error .tooFewValues
        else
          let text ← convert letter (total - rest.length - 1) none values
          return l.apply text ++ (← fillFrom values fuel total true rest)
  | fuel + 1, total, used, c :: rest => do
    return c :: (← fillFrom values fuel total used rest)

/-- Fill in a template with the texts of keys. -/
def fill (values : List (String × String)) (template : String) : Except TemplateFault String :=
  let cs := template.toList
  (fillFrom values (cs.length + 1) cs.length false cs).map String.ofList

end Template

end CommandWrap.Text
