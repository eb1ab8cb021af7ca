import CommandWrap.Value

/-!
# Equality of values

Truth values count as the integers one and zero, and numbers of different types are equal when they
stand for the same number.  Maps are compared without regard to the order of their entries.  A member
of an enumeration of texts equals the text that it is, and is the same key of a map; a member of any
other enumeration equals only itself, so two members that were made apart differ.
-/
namespace CommandWrap

open Decimal (Binary64)

namespace Value

/-- The real and imaginary part of a number: an exact integer or a floating point number, with an
imaginary part for complex numbers. -/
inductive Number
  /-- An integer. -/
  | int (i : Int)
  /-- A floating point number. -/
  | float (x : Binary64)
  /-- A complex number. -/
  | complex (re im : Binary64)

/-- The number that a value is, if it is one. -/
def number? : Value → Option Number
  | .bool b => some (.int (if b then 1 else 0))
  | .int i => some (.int i)
  | .float x => some (.float x)
  | .complex re im => some (.complex re im)
  | _ => Option.none

/-- Do two numbers stand for the same number? -/
def Number.same : Number → Number → Bool
  | .int i, .int j => i == j
  | .int i, .float x => x.isInt i
  | .int i, .complex re im => re.isInt i && im.isInt 0
  | .float x, .int i => x.isInt i
  | .float x, .float y => x.numEq y
  | .float x, .complex re im => x.numEq re && im.isInt 0
  | .complex re im, .int i => re.isInt i && im.isInt 0
  | .complex re im, .float x => x.numEq re && im.isInt 0
  | .complex re im, .complex re' im' => re.numEq re' && im.numEq im'

/-- Are two values one key of a map?  Lists and maps are no keys. -/
def sameKey (k l : Value) : Bool :=
  match k, l with
  | .none, .none => true
  | _, _ =>
    match k.asText?, l.asText? with
    | some s, some t => s == t
    | _, _ =>
      match k.number?, l.number? with
      | some m, some n => m.same n
      | _, _ => false

/-- Can the value be a key of a map? -/
def isKey : Value → Bool
  | .list _ => false
  | .map _ => false
  | _ => true

/-- Put an entry into a map: an old key keeps its place and takes the new value. -/
def insertEntry (entries : List (Value × Value)) (k v : Value) : List (Value × Value) :=
  match entries with
  | [] => [(k, v)]
  | (k', v') :: rest =>
    if sameKey k' k then (k', v) :: rest else (k', v') :: insertEntry rest k v

/-- The map with the given entries, later ones winning. -/
def ofEntries (entries : List (Value × Value)) : Value :=
  .map (entries.foldl (fun es e => insertEntry es e.1 e.2) [])

mutual

/-- Are two values equal? -/
def same : Value → Value → Bool
  | .list xs, .list ys => sameItems xs ys
  | .tuple xs, .tuple ys => sameItems xs ys
  | .map es, .map fs => es.length == fs.length && sameEntries es fs
  | .none, .none => true
  | .text s, w => w.asText? == some s
  | .textMember m, w => w.asText? == some m.text
  | .member _, _ => false
  | v, w =>
    match v.number?, w.number? with
    | some m, some n => m.same n
    | _, _ => false

/-- Are two lists equal, element by element? -/
def sameItems : List Value → List Value → Bool
  | [], [] => true
  | v :: vs, w :: ws => same v w && sameItems vs ws
  | _, _ => false

/-- Does every entry of the first list have an equal one in the second? -/
def sameEntries : List (Value × Value) → List (Value × Value) → Bool
  | [], _ => true
  | (k, v) :: rest, fs =>
    (match fs.find? fun f => sameKey k f.1 with
      | some f => same v f.2
      | Option.none => false) && sameEntries rest fs

end

end Value

end CommandWrap
