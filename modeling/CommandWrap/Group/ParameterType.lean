import CommandWrap.Value

/-!
# Types of parameters

The value of a parameter has a type.  A type has a name, which for a fixed sequence lists the names of
its items.  Where no type is given, it is guessed from a value.
-/
namespace CommandWrap.Group

/-- The type of the value of a parameter. -/
inductive ParameterType
  /-- An integer. -/
  | integer
  /-- A floating point number. -/
  | number
  /-- A text. -/
  | text
  /-- A truth value. -/
  | truth
  /-- A text that is taken as it is. -/
  | raw
  /-- A universally unique identifier. -/
  | uuid
  /-- A path. -/
  | path
  /-- The name of a file that is opened. -/
  | file
  /-- A date with a time. -/
  | moment
  /-- An integer within bounds. -/
  | integerRange
  /-- A floating point number within bounds. -/
  | numberRange
  /-- An entry `KEY=VALUE`. -/
  | entry
  /-- What a function with this name makes of a text. -/
  | converted (name : String)
  /-- One of these words. -/
  | choice (options : List String)
  /-- A fixed sequence of values. -/
  | sequence (items : List ParameterType)
deriving Inhabited, Repr

namespace ParameterType

mutual

/-- The name of a type. -/
def title : ParameterType → String
  | .integer => "integer"
  | .number => "float"
  | .text => "text"
  | .truth => "boolean"
  | .raw => "text"
  | .uuid => "uuid"
  | .path => "path"
  | .file => "filename"
  | .moment => "datetime"
  | .integerRange => "integer range"
  | .numberRange => "float range"
  | .entry => "map"
  | .converted name => name
  | .choice _ => "choice"
  | .sequence items => "<" ++ String.intercalate " " (titles items) ++ ">"

/-- The names of types. -/
def titles : List ParameterType → List String
  | [] => []
  | t :: rest => title t :: titles rest

end

/-- The number of words that belong to a value of the type, if the type fixes it. -/
def arity? : ParameterType → Option Nat
  | .sequence items => some items.length
  | _ => none

/-- Is it the type of truth values? -/
def isTruth : ParameterType → Bool
  | .truth => true
  | _ => false

/-- The type of an item that stands in a value. -/
def ofItem : Value → ParameterType
  | .text _ => .text
  | .int _ => .integer
  | .float _ => .number
  | .bool _ => .truth
  | v => .converted v.kind

/-- The type of a value that stands alone: only numbers and truth values differ from texts. -/
def ofAlone (v : Value) : ParameterType :=
  match ofItem v with
  | .converted _ => .text
  | t => t

/-- The type guessed from a value; of a list, its first item counts. -/
def guessed : Value → ParameterType
  | .list [] => .text
  | .list (.list items :: _) => .sequence (items.map ofItem)
  | .list (v :: _) => ofAlone v
  | v => ofAlone v

/-- How the words of a choice are shown in a usage line, between the given brackets. -/
def choiceLabel (opening closing : String) (options : List String) : String :=
  opening ++ String.intercalate "|" options.eraseDups ++ closing

/-- What stands for a value of the type in a usage line, if the type says so. -/
def label? (isRequiredArgument : Bool) : ParameterType → Option String
  | .choice options =>
    some (if isRequiredArgument then choiceLabel "\x7b" "\x7d" options else choiceLabel "[" "]" options)
  | .moment => some "[%Y-%m-%d|%Y-%m-%dT%H:%M:%S|%Y-%m-%d %H:%M:%S]"
  | _ => none

end ParameterType

end CommandWrap.Group
