import CommandWrap.Settings.KeyPath
import CommandWrap.Settings.Reference
import CommandWrap.Surroundings

/-!
# Data without references

Resolving data replaces every text that holds references by what it stands for.  A text that is a single
reference takes the value as it is; otherwise the values become part of the text.  A path is followed
from the root of the data, or from the container around the text if it begins with a point, and each
further point goes one container up.  Data has no resolved form if a reference leads nowhere, or back to
a container around it.
-/
namespace CommandWrap.Settings

/-- To what a reference leads. -/
inductive Place
  /-- A node of the data, by the numbers of the children on the way. -/
  | node (at_ : List Nat)
  /-- A value that a function made. -/
  | made (d : Datum)

namespace Resolved

/-- The children of a datum. -/
def children : Datum → List Datum
  | .list items => items
  | .map entries => entries.map (·.2)
  | _ => []

/-- The datum at a place. -/
def at? (root : Datum) (way : List Nat) : Option Datum :=
  way.foldlM (fun d n => (children d)[n]?) root

/-- The number of the child under a key. -/
def childNumber? (key : String) : Datum → Option Nat
  | .map entries => KeyPath.place? key entries
  | .list items => do
    let i ← (Decimal.integer 10 key).toOption
    if i < 0 then none else KeyPath.index? items.length i
  | _ => none

/-- The size of data, which bounds the steps of resolving it. -/
def size : Datum → Nat
  | .text s => s.length + 1
  | .list items => sizes items + 1
  | .map entries => entrySizes entries + 1
  | _ => 1
where
  /-- The size of items. -/
  sizes : List Datum → Nat
    | [] => 0
    | d :: rest => size d + sizes rest
  /-- The size of entries. -/
  entrySizes : List (Datum × Datum) → Nat
    | [] => 0
    | (_, d) :: rest => size d + entrySizes rest

/-- The value of a variable of the environment, or else the default as a text. -/
def variable_ (s : Surroundings) (name : String) (default? : Option Datum) : Option Datum :=
  match s.value? name, default? with
  | some v, _ => some (.text v)
  | none, some .null => some .null
  | none, some d => some (.text d.display)
  | none, none => none

/-- What a function makes of its arguments alone. -/
def make? (s : Surroundings) (name : String) (arguments : List Datum) : Option Datum :=
  match name, arguments with
  | "dw.data", [.text file] => some (.text (s.dataFile file).text)
  | "oc.env", [.text name] => variable_ s name none
  | "oc.env", [.text name, default] => variable_ s name (some default)
  | "oc.create", [.list items] => some (.list items)
  | "oc.create", [.map entries] => some (.map entries)
  | "oc.decode", [.null] => some .null
  | _, _ => none

/-- Where the text of a path leads from inside a container: to the place at which it starts, and by the
keys that follow.  Points alone lead to the place itself. -/
def start? (around : List Nat) (path : String) : Option (List Nat × List String) :=
  let points := path.toList.takeWhile (· == '.')
  let rest := path.toList.drop points.length
  let start := if points.isEmpty then [] else around.take (around.length + 1 - points.length)
  if around.length + 1 < points.length then none
  else if rest.isEmpty then some (start, [])
  else
    match KeyPath.ofText (String.ofList rest) with
    | [] => none
    | keys => some (start, keys)

/-- The place of a node. -/
def wayOf? (place : Place) : Option (List Nat) :=
  match place with
  | .node way => some way
  | .made _ => none

/-- The datum to which a reference leads. -/
def datumAt? (root : Datum) (place : Place) : Option Datum :=
  match place with
  | .node way => at? root way
  | .made d => some d

mutual

/-- To what a datum at a place leads: itself, unless it is a text with references. -/
def follow (s : Surroundings) (root : Datum) (fuel : Nat) (way : List Nat) (d : Datum) : Option Place :=
  match fuel with
  | 0 => none
  | fuel + 1 =>
    match d with
    | .text t =>
      if hasReference t.toList then do
        match ← pieces? t with
        | [.reference r] => reference s root fuel way.dropLast r
        | ps => return .made (.text (← textOf s root fuel way.dropLast ps))
      else some (.node way)
    | _ => some (.node way)

/-- To what a reference inside a container leads. -/
def reference (s : Surroundings) (root : Datum) (fuel : Nat) (around : List Nat) (r : Reference) :
    Option Place :=
  match fuel with
  | 0 => none
  | fuel + 1 =>
    match r with
    | .node path => do
      let (start, keys) ← start? around (← textOf s root fuel around path)
      let place ← select s root fuel start keys
      match place with
      | .node way =>
        if way.isPrefixOf around && (← (at? root way).map KeyPath.isContainer) then none
        else some place
      | place => some place
    | .call name arguments => do
      let name ← textOf s root fuel around name
      let arguments ← arguments.mapM (element s root fuel around)
      call s root fuel around name arguments

/-- To what keys lead from a container. -/
def select (s : Surroundings) (root : Datum) (fuel : Nat) (way : List Nat) (keys : List String) :
    Option Place :=
  match fuel with
  | 0 => none
  | fuel + 1 =>
    match keys with
    | [] => some (.node way)
    | key :: rest => do
      let d ← at? root way
      let n ← childNumber? key d
      let child ← (children d)[n]?
      if KeyPath.isMissing child then none
      else
        match ← follow s root fuel (way ++ [n]) child with
        | .node way => select s root fuel way rest
        | .made d => (KeyPath.get? rest d).map .made

/-- The text of parts in which references are replaced by their values. -/
def textOf (s : Surroundings) (root : Datum) (fuel : Nat) (around : List Nat) (ps : List Piece) :
    Option String :=
  match fuel with
  | 0 => none
  | fuel + 1 =>
    match ps with
    | [] => some ""
    | .text cs :: rest => do
      let t ← textOf s root fuel around rest
      return String.ofList cs ++ t
    | .reference r :: rest => do
      let d ← datumAt? root (← reference s root fuel around r)
      let t ← textOf s root fuel around rest
      return d.display ++ t

/-- The value of an argument. -/
def element (s : Surroundings) (root : Datum) (fuel : Nat) (around : List Nat) (e : Element) :
    Option Datum :=
  match fuel with
  | 0 => none
  | fuel + 1 =>
    match e with
    | .literal d => some d
    | .text ps => (textOf s root fuel around ps).map .text
    | .value r => do
      match ← reference s root fuel around r with
      | .node way => resolve s root fuel way (← at? root way)
      | .made d => some d
    | .list es => (es.mapM (element s root fuel around)).map .list
    | .map es => do
      let entries ← es.mapM fun (k, e) => (element s root fuel around e).map (k, ·)
      return Datum.ofEntries entries

/-- The value of a function. -/
def call (s : Surroundings) (root : Datum) (fuel : Nat) (around : List Nat) (name : String)
    (arguments : List Datum) : Option Place :=
  match fuel with
  | 0 => none
  | fuel + 1 =>
    match name, arguments with
    | "oc.select", [.text path] => do
      let (start, keys) ← start? around path
      return (select s root fuel start keys).getD (.made .null)
    | "oc.select", [.text path, default] => do
      let (start, keys) ← start? around path
      return (select s root fuel start keys).getD (.made default)
    | "oc.dict.keys", [.text path] => do
      let (start, keys) ← start? around path
      match ← at? root (← wayOf? (← select s root fuel start keys)) with
      | .map entries => some (.made (.list (entries.map (·.1))))
      | _ => none
    | "oc.dict.values", [.text path] => do
      let (start, keys) ← start? around path
      if keys.isEmpty then none
      else
        let way ← wayOf? (← select s root fuel start keys)
        match ← resolve s root fuel way (← at? root way) with
        | .map entries => some (.made (.list (entries.map (·.2))))
        | _ => none
    | "oc.decode", [.text t] => do return .made (← element s root fuel around (← element? t))
    | name, arguments => (make? s name arguments).map .made

/-- The datum at a place without references. -/
def resolve (s : Surroundings) (root : Datum) (fuel : Nat) (way : List Nat) (d : Datum) : Option Datum :=
  match fuel with
  | 0 => none
  | fuel + 1 => do
    match ← follow s root fuel way d with
    | .made d => some d
    | .node way =>
      match ← at? root way with
      | .list items => do
        let items ← items.zipIdx.mapM fun (d, n) => resolve s root fuel (way ++ [n]) d
        return .list items
      | .map entries => do
        let entries ← entries.zipIdx.mapM fun ((k, d), n) =>
          (resolve s root fuel (way ++ [n]) d).map (k, ·)
        return .map entries
      | d => some d

end

end Resolved

/-- Data without references; nothing if a reference leads nowhere. -/
def resolved (s : Surroundings) (root : Datum) : Option Datum :=
  Resolved.resolve s root (8 * Resolved.size root + 64) [] root

end CommandWrap.Settings
