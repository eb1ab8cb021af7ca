import CommandWrap.Invocation.Basic
import CommandWrap.Value

/-!
# Rendering options

The value of a flag becomes arguments in the shape of the flag.  An absent value becomes none.  The
options of a record are rendered in the order of declaration, between the words that name the
subcommand and the positional arguments.
-/
namespace CommandWrap

/-- Why a value has no arguments. -/
inductive RenderError
  /-- A value of this type has no elements. -/
  | notIterable (kind : String)
  /-- A value of this type has no entries. -/
  | noItems (kind : String)
  /-- No shape has this name. -/
  | unknownShape (word : String)
  /-- Something of this type is given in place of an option record. -/
  | notARecord (kind : String)
deriving DecidableEq, Repr

/-- The text of the error. -/
def RenderError.message : RenderError → String
  | .notIterable kind => "'" ++ kind ++ "' object is not iterable"
  | .noItems kind => "'" ++ kind ++ "' object has no attribute 'items'"
  | .unknownShape word => Text.quoted word ++ " is not a valid RenderShape"
  | .notARecord kind => "expected an option record instance, got " ++ kind

namespace Render

/-- A long flag. -/
def long (name : String) : String :=
  "--" ++ name

/-- One argument for the value. -/
def single (name : String) (v : Value) : List String :=
  [long name ++ "=" ++ v.canonical]

/-- The elements of a value: a text is one element, and a map has its keys. -/
def elements? (v : Value) : Option (List Value) :=
  match v with
  | .text _ => some [v]
  | .textMember _ => some [v]
  | .list items => some items
  | .tuple items => some items
  | .map entries => some (entries.map Prod.fst)
  | _ => none

/-- Two arguments for each element. -/
def list (name : String) (v : Value) : Except RenderError (List String) :=
  match elements? v with
  | some items => .ok (items.flatMap fun item => [long name, item.elementText])
  | none => .error (.notIterable v.kind)

/-- Two arguments for each entry. -/
def map (name : String) (v : Value) : Except RenderError (List String) :=
  match v with
  | .map entries =>
    .ok (entries.flatMap fun e => [long name, e.1.display ++ "=" ++ e.2.entryText])
  | _ => .error (.noItems v.kind)

/-- The arguments for a present value in a shape. -/
def shaped (name : String) (shape : Shape) (v : Value) : Except RenderError (List String) :=
  match shape with
  | .single => .ok (single name v)
  | .list => list name v
  | .map => map name v

/-- The arguments for a flag: none for an absent value, whatever the shape. -/
def flag (name : String) (shape : String) (v : Value) : Except RenderError (List String) :=
  match v with
  | .none => .ok []
  | _ =>
    match Shape.ofWord? shape with
    | some s => shaped name s v
    | none => .error (.unknownShape shape)

end Render

/-- What a field of a record says about its flag. -/
structure FlagUse where
  /-- The long name of the flag. -/
  name : String
  /-- The word of its shape. -/
  shape : String
deriving DecidableEq, Repr, Inhabited

/-- The arguments for the fields of a record in order of declaration; a field without a flag gives
none. -/
def renderFields : List (Option FlagUse × Value) → Except RenderError (List String)
  | [] => .ok []
  | (none, _) :: rest => renderFields rest
  | (some use, v) :: rest => do
    let args ← Render.flag use.name use.shape v
    let others ← renderFields rest
    return args ++ others

/-- Words as a caller gives them: one text or a row of words. -/
inductive WordsGiven
  /-- One text. -/
  | text (s : String)
  /-- Several words. -/
  | words (ws : List String)
deriving DecidableEq, Repr

/-- Positional arguments: one text is one argument. -/
def WordsGiven.positionals : WordsGiven → List String
  | .text s => [s]
  | .words ws => ws

/-- The words of a subcommand: the characters of one text are a word each. -/
def WordsGiven.route : WordsGiven → List String
  | .text s => s.toList.map Char.toString
  | .words ws => ws

/-- The invocation of a program with the words of a subcommand, rendered options and positional
arguments. -/
def assemble (program : String) (route options args : List String) : Invocation :=
  { program, args := route ++ options ++ args }

end CommandWrap
