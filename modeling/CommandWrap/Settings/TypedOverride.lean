import CommandWrap.Settings.Cast
import CommandWrap.Settings.Literal

/-!
# Typed overrides

An override changes, adds or removes one setting.  Its value has a type: a literal, a quoted text, a
list, a map, or a cast of other values.  References stay part of texts.
-/
namespace CommandWrap.Settings

/-- What an override does. -/
inductive OverrideKind
  /-- Change a setting that is there. -/
  | change
  /-- Add a setting that is not there. -/
  | add
  /-- Change or add a setting. -/
  | put
  /-- Remove a setting. -/
  | remove
deriving DecidableEq, Repr

/-- An override. -/
structure TypedOverride where
  /-- What it does. -/
  kind : OverrideKind
  /-- The path of the setting. -/
  key : String
  /-- The value, if one is given. -/
  value? : Option Datum

namespace TypedOverride

/-! ## Values -/

/-- The characters of a reference from its opening brace to the closing one, and the rest. -/
def reference? (depth : Nat) : List Char → Option (List Char × List Char)
  | [] => none
  | c :: rest =>
    if c = '\x7b' then (reference? (depth + 1) rest).map fun (r, tail) => (c :: r, tail)
    else if c = '\x7d' then
      match depth with
      | 0 => none
      | 1 => some ([c], rest)
      | depth + 1 => (reference? depth rest).map fun (r, tail) => (c :: r, tail)
    else (reference? depth rest).map fun (r, tail) => (c :: r, tail)

/-- The text up to a quote, and what follows the quote.  A backslash in front of the quote makes it
part of the text, and backslashes in front of the closing quote count by twos. -/
def quoted? (quote : Char) : Nat → List Char → Option (List Char × List Char)
  | 0, _ => none
  | _, [] => none
  | fuel + 1, '\\' :: cs =>
    let n := (cs.takeWhile (· == '\\')).length + 1
    let rest := ('\\' :: cs).drop n
    if rest.head? = some quote then
      let marks := List.replicate (n / 2) '\\'
      if n % 2 = 1 then (quoted? quote fuel (rest.drop 1)).map fun (t, tail) => (marks ++ quote :: t, tail)
      else some (marks, rest.drop 1)
    else (quoted? quote fuel rest).map fun (t, tail) => (List.replicate n '\\' ++ t, tail)
  | fuel + 1, c :: rest =>
    if c = quote then some ([], rest)
    else (quoted? quote fuel rest).map fun (t, tail) => (c :: t, tail)

/-- Does a blank run at the beginning end in front of a character that ends an unquoted value? -/
def ends (inKey : Bool) (cs : List Char) : Bool :=
  match Literal.skipSpaces cs with
  | [] => true
  | c :: _ => c == ',' || c == ']' || c == '\x7d' || c == ')' || (inKey && c == ':')

/-- A name with an opening parenthesis behind it, and what follows that. -/
def call? (cs : List Char) : Option (String × List Char) :=
  let name := cs.takeWhile fun c => c.isAlphanum || c == '_' || c == '-'
  match Literal.skipSpaces (cs.drop name.length) with
  | '(' :: rest => if Literal.isName name then some (String.ofList name, Literal.skipSpaces rest) else none
  | _ => none

/-- Read an unquoted value: the characters as they are written, the text, and the rest. -/
def run? (inKey : Bool) : Nat → List Char → Option (List Char × List Char × List Char)
  | 0, _ => none
  | fuel + 1, cs =>
    if ends inKey cs then some ([], [], cs)
    else
      match cs with
      | [] => some ([], [], [])
      | '$' :: '\x7b' :: rest => do
        if inKey then none
        let (r, tail) ← reference? 1 rest
        let (run, text, tail) ← run? inKey fuel tail
        return ('$' :: '\x7b' :: r ++ run, '$' :: '\x7b' :: r ++ text, tail)
      | '\\' :: d :: rest =>
        if Literal.isEscapable d then do
          let (run, text, tail) ← run? inKey fuel rest
          return ('\\' :: d :: run, d :: text, tail)
        else do
          let (run, text, tail) ← run? inKey fuel (d :: rest)
          return ('\\' :: run, '\\' :: text, tail)
      | c :: rest =>
        if Literal.isPlain c || Literal.isSpace c || c == '\\' || (!inKey && c == ':') then do
          let (run, text, tail) ← run? inKey fuel rest
          return (c :: run, c :: text, tail)
        else none

/-- What an unquoted value stands for. -/
def literal (run text : List Char) : Datum :=
  (Literal.value? run).getD (.text (String.ofList text))

mutual

/-- Read a value. -/
def datum? (fuel : Nat) (cs : List Char) : Option (Datum × List Char) :=
  match fuel with
  | 0 => none
  | fuel + 1 =>
    match cs with
    | [] => none
    | '[' :: rest =>
      match Literal.skipSpaces rest with
      | ']' :: tail => some (.list [], tail)
      | rest => do
        let (ds, tail) ← items? ']' fuel rest
        return (.list ds, tail)
    | '\x7b' :: rest =>
      match Literal.skipSpaces rest with
      | '\x7d' :: tail => some (.map [], tail)
      | rest => do
        let (es, tail) ← entries? fuel rest
        return (Datum.ofEntries es, tail)
    | c :: rest =>
      if c = '\'' ∨ c = '"' then do
        let (text, tail) ← quoted? c (rest.length + 1) rest
        return (.text (String.ofList text), tail)
      else
        match call? (c :: rest) with
        | some (name, rest) => do
          let (ds, tail) ← items? ')' fuel rest
          return (← Cast.ofCall? name ds, tail)
        | none => do
          let (run, text, tail) ← run? false (cs.length + 1) cs
          if run.isEmpty then none else return (literal run text, tail)

/-- Read items up to a closing bracket. -/
def items? (close : Char) (fuel : Nat) (cs : List Char) : Option (List Datum × List Char) :=
  match fuel with
  | 0 => none
  | fuel + 1 => do
    let (d, tail) ← datum? fuel cs
    match Literal.skipSpaces tail with
    | [] => none
    | c :: tail =>
      if c = ',' then do
        let (ds, tail) ← items? close fuel (Literal.skipSpaces tail)
        return (d :: ds, tail)
      else if c = close then some ([d], tail)
      else none

/-- Read the entries of a map up to its closing brace. -/
def entries? (fuel : Nat) (cs : List Char) : Option (List (Datum × Datum) × List Char) :=
  match fuel with
  | 0 => none
  | fuel + 1 => do
    let (run, text, tail) ← run? true (cs.length + 1) cs
    if run.isEmpty then none
    match Literal.skipSpaces tail with
    | ':' :: tail => do
      let (d, tail) ← datum? fuel (Literal.skipSpaces tail)
      match Literal.skipSpaces tail with
      | ',' :: tail => do
        let (es, tail) ← entries? fuel (Literal.skipSpaces tail)
        return ((literal run text, d) :: es, tail)
      | '\x7d' :: tail => some ([(literal run text, d)], tail)
      | _ => none
    | _ => none

end

/-- The value behind an equals sign; without characters it is the empty text. -/
def valueOf? (cs : List Char) : Option Datum :=
  match Literal.skipSpaces cs with
  | [] => some (.text "")
  | cs =>
    match datum? (2 * cs.length + 2) cs with
    | some (d, tail) => if (Literal.skipSpaces tail).isEmpty then some d else none
    | none => none

/-! ## Keys -/

/-- A key: a letter, underscore or dollar sign, then also digits and hyphens. -/
def isKey : List Char → Bool
  | [] => false
  | c :: rest =>
    (c.isAlpha || c == '_' || c == '$') &&
      rest.all fun d => d.isAlphanum || d == '_' || d == '-' || d == '$'

/-- Keys with points between them, of which those of several may be numbers. -/
def isPath (key : String) : Bool :=
  match key.splitOn "." with
  | [k] => isKey k.toList
  | ks => ks.all fun k => isKey k.toList || Literal.isWhole k.toList

/-- Keys with slashes between them: a folder of settings. -/
def isGroup (key : String) : Bool :=
  match key.splitOn "/" with
  | [k] => isKey k.toList
  | ks => ks.all fun k => Literal.isName k.toList

/-! ## Overrides -/

/-- The signs in front of an override. -/
def kindOf : List Char → OverrideKind × List Char
  | '~' :: rest => (.remove, rest)
  | '+' :: '+' :: rest => (.put, rest)
  | '+' :: rest => (.add, rest)
  | cs => (.change, cs)

/-- The override that a text writes; nothing if it is not well formed. -/
def ofText? (s : String) : Option TypedOverride := do
  let (kind, cs) := kindOf s.toList
  let key := String.ofList (cs.takeWhile (· != '='))
  if !(isPath key || isGroup key) then none
  match cs.dropWhile (· != '=') with
  | [] => if kind = .remove then return { kind, key, value? := none } else none
  | _ :: value => return { kind, key, value? := some (← valueOf? value) }

end TypedOverride

end CommandWrap.Settings
