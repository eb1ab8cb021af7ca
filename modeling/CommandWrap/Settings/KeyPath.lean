import CommandWrap.Decimal.Reader
import CommandWrap.Document.DatumText

/-!
# Paths of keys

A path of keys leads into nested maps and lists.  Its text divides the keys by points, or puts a key
between square brackets.  `KeyPath.update` puts a value where a path leads and makes the maps that are
missing on the way.
-/
namespace CommandWrap.KeyPath

/-! ## Texts of paths -/

/-- Does the character end a key that follows a point? -/
def isMark (c : Char) : Bool :=
  c == '.' || c == '['

/-- The keys behind the first part of a path: each follows a point or stands between brackets.  What
is neither is passed over. -/
def others : Nat → List Char → List String
  | 0, _ => []
  | _, [] => []
  | fuel + 1, '.' :: rest =>
    String.ofList (rest.takeWhile (!isMark ·)) :: others fuel (rest.dropWhile (!isMark ·))
  | fuel + 1, '[' :: rest =>
    let key := rest.takeWhile (· != ']')
    if key.length < rest.length && !key.contains '\n' then
      String.ofList key :: others fuel (rest.drop (key.length + 1))
    else others fuel rest
  | fuel + 1, _ :: rest => others fuel rest

/-- The keys of a path.  Points in front of the first key stand for empty keys. -/
def ofText (s : String) : List String :=
  let cs := s.toList
  let points := cs.takeWhile (· == '.')
  let rest := cs.drop points.length
  let name := rest.takeWhile (!isMark ·)
  let tail := rest.drop name.length
  let first := if name.isEmpty ∧ tail.head? = some '[' then [] else [String.ofList name]
  points.map (fun _ => "") ++ first ++ others tail.length tail

/-! ## Children of data -/

/-- Is the datum a map or a list? -/
def isContainer : Datum → Bool
  | .map _ => true
  | .list _ => true
  | _ => false

/-- The mark of a value that is still to be given. -/
def missingMark : String := "???"

/-- Is the value still to be given? -/
def isMissing : Datum → Bool
  | .text s => s == missingMark
  | _ => false

/-- The place of an entry with a text as its key. -/
def place? (key : String) (entries : List (Datum × Datum)) : Option Nat :=
  entries.findIdx? fun e => e.1.isText key

/-! ## Putting values -/

/-- Why a value cannot be put where a path leads. -/
inductive Fault
  /-- There is no such place. -/
  | noPlace
  /-- The place of an item of a list is no integer. -/
  | noInteger (fault : Decimal.IntegerFault)
  /-- A key that is no integer leads through a list. -/
  | noIndex (key : String)
deriving DecidableEq, Repr

/-- The wording of a fault. -/
def Fault.message : Fault → String
  | .noPlace => "no such place"
  | .noInteger fault => fault.message
  | .noIndex key => "Index '" ++ key ++ "' (str) is not an int"

/-- The place of an item in a list of the given length; negative places count from the end. -/
def index? (length : Nat) (i : Int) : Option Nat :=
  if 0 ≤ i then (if i < length then some i.toNat else none)
  else if -(length : Int) ≤ i then some (i + length).toNat
  else none

/-- Put a value under a key of a map. -/
def putEntry (isClosed : Bool) (key : String) (v : Datum) (entries : List (Datum × Datum)) :
    Except Fault (List (Datum × Datum)) :=
  if isClosed && (place? key entries).isNone then .error .noPlace
  else .ok (Datum.insertEntry (.text key) v entries)

mutual

/-- Put the entries of a map into another map. -/
def mergeEntries (isClosed : Bool) (entries : List (Datum × Datum)) :
    List (Datum × Datum) → Except Fault (List (Datum × Datum))
  | [] => .ok entries
  | (k, v) :: rest => do
    let old? := (entries.find? fun e => Datum.sameKey e.1 k).map (·.2)
    if isClosed && old?.isNone then .error .noPlace
    let w ← merge isClosed (old?.getD .null) v
    mergeEntries isClosed (Datum.insertEntry k w entries) rest

/-- The datum with another one merged into it: maps are merged key by key, a map and a list do not go
together, and anything else is replaced.  A closed map takes no new keys. -/
def merge (isClosed : Bool) (old : Datum) : Datum → Except Fault Datum
  | .map new =>
    match old with
    | .map entries => (mergeEntries isClosed entries new).map .map
    | .list _ => .error .noPlace
    | _ => (mergeEntries false [] new).map .map
  | .list new =>
    match old with
    | .map _ => .error .noPlace
    | _ => .ok (.list new)
  | v => .ok v

end

/-- Put a value into the container that a path ends in.  A container is merged into the one that is
there. -/
def putLast (isClosed : Bool) (key : String) (v d : Datum) : Except Fault Datum :=
  match d with
  | .map entries => do
    let w ← merge isClosed (Datum.field key entries) v
    return .map (← putEntry isClosed key w entries)
  | .list items =>
    match Decimal.integer 10 key with
    | .error fault => .error (.noInteger fault)
    | .ok i =>
      match index? items.length i with
      | none => .error .noPlace
      | some n => .ok (.list (items.set n v))
  | _ => .error .noPlace

/-- Put a value where the keys lead.  What stands on the way and is no container becomes an empty
map. -/
def update (isClosed : Bool) (v : Datum) : List String → Datum → Except Fault Datum
  | [], _ => .error .noPlace
  | [key], d => putLast isClosed key v d
  | key :: rest, d =>
    match d with
    | .map entries => do
      let old := Datum.field key entries
      if isMissing old then .error .noPlace
      if isClosed && (place? key entries).isNone then .error .noPlace
      let w ← update isClosed v rest (if isContainer old then old else .map [])
      return .map (← putEntry isClosed key w entries)
    | .list items =>
      match Decimal.integer 10 key with
      | .error _ => .error (.noIndex key)
      | .ok i =>
        match index? items.length i with
        | none => .error .noPlace
        | some n => do
          let old := if i < 0 then .null else items.getD n .null
          if isMissing old then .error .noPlace
          let w ← update isClosed v rest (if isContainer old then old else .map [])
          return .list (items.set n w)
    | _ => .error .noPlace

/-- The datum without the entry or item to which the keys lead; nothing if there is none. -/
def remove? : List String → Datum → Option Datum
  | [], _ => none
  | key :: rest, .map entries => do
    let n ← place? key entries
    let (k, old) ← entries[n]?
    if rest.isEmpty then return .map (entries.eraseIdx n)
    let w ← remove? rest old
    return .map (entries.set n (k, w))
  | key :: rest, .list items => do
    let i ← (Decimal.integer 10 key).toOption
    let n ← if i < 0 then none else index? items.length i
    let old ← items[n]?
    if rest.isEmpty then return .list (items.eraseIdx n)
    let w ← remove? rest old
    return .list (items.set n w)
  | _, _ => none

/-- What the keys lead to. -/
def get? : List String → Datum → Option Datum
  | [], d => some d
  | key :: rest, .map entries => do
    let n ← place? key entries
    let (_, old) ← entries[n]?
    get? rest old
  | key :: rest, .list items => do
    let i ← (Decimal.integer 10 key).toOption
    let n ← if i < 0 then none else index? items.length i
    let old ← items[n]?
    get? rest old
  | _, _ => none

end CommandWrap.KeyPath
