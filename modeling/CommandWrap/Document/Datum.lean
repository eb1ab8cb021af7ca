import CommandWrap.Value

/-!
# Data of a document

What a document holds once it is read: scalars of several types, lists, and maps whose keys are data
as well.  Scalars that are neither texts nor numbers nor truth values are kept by their text.  A
container that holds itself is met again below itself, as a reference back that counts the containers
between: zero stands for the container directly around the reference.
-/
namespace CommandWrap

open Decimal (Binary64)

/-- A piece of data. -/
inductive Datum
  /-- Nothing. -/
  | null
  /-- A truth value. -/
  | bool (b : Bool)
  /-- An integer of any size. -/
  | int (i : Int)
  /-- A floating point number. -/
  | float (x : Binary64)
  /-- A text. -/
  | text (s : String)
  /-- Another scalar: its text, and whether it counts as empty. -/
  | other (text : String) (isEmpty : Bool)
  /-- A list. -/
  | list (items : List Datum)
  /-- A map; of entries with one key the last counts. -/
  | map (entries : List (Datum × Datum))
  /-- A set of scalars. -/
  | keySet (keys : List Datum)
  /-- A list that is met again inside itself, behind so many containers. -/
  | listAgain (up : Nat)
  /-- A map that is met again inside itself, behind so many containers. -/
  | mapAgain (up : Nat)
deriving Inhabited

namespace Datum

/-- Does the datum count as absent where a list is expected? -/
def isEmpty : Datum → Bool
  | .null => true
  | .bool b => !b
  | .int i => i == 0
  | .float x => x.isInt 0
  | .text s => s.isEmpty
  | .other _ e => e
  | .list items => items.isEmpty
  | .map entries => entries.isEmpty
  | .keySet keys => keys.isEmpty
  | .listAgain _ => false
  | .mapAgain _ => false

/-- Is the datum the text `key`? -/
def isText (key : String) : Datum → Bool
  | .text s => s == key
  | _ => false

/-- The value of the last entry whose key is the text `key`. -/
def lookup (key : String) : List (Datum × Datum) → Option Datum
  | [] => none
  | (k, v) :: rest =>
    match lookup key rest with
    | some w => some w
    | none => if k.isText key then some v else none

/-- The value of a key in entries; nothing when there is none. -/
def field (key : String) (entries : List (Datum × Datum)) : Datum :=
  (lookup key entries).getD .null

/-- The most decimal digits that an integer may have to be turned into a text. -/
def maxIntegerDigits : Nat := 4300

/-- Can the integer be turned into a text? -/
def isShortInteger (i : Int) : Bool :=
  i.natAbs < Nat.pow 10 maxIntegerDigits

/-- Can the scalar be turned into a text? -/
def hasText : Datum → Bool
  | .int i => isShortInteger i
  | _ => true

/-- What a reference back leads to, and the containers around that; other data leads to itself. -/
def meant (around : List Datum) : Datum → Datum × List Datum
  | .listAgain up => (around.getD up .null, around.drop (up + 1))
  | .mapAgain up => (around.getD up .null, around.drop (up + 1))
  | d => (d, around)

theorem sizeOf_lookup {key : String} {entries : List (Datum × Datum)} {v : Datum}
    (h : lookup key entries = some v) : sizeOf v < sizeOf entries := by
  induction entries with
  | nil => simp [lookup] at h
  | cons e rest ih =>
    obtain ⟨k, w⟩ := e
    simp only [lookup] at h
    split at h
    · rename_i u hu
      cases h
      have := ih hu
      simp only [List.cons.sizeOf_spec]
      omega
    · split at h
      · cases h
        simp only [List.cons.sizeOf_spec, Prod.mk.sizeOf_spec]
        omega
      · cases h

theorem sizeOf_field (key : String) (entries : List (Datum × Datum)) :
    sizeOf (field key entries) ≤ sizeOf entries := by
  unfold field
  cases h : lookup key entries with
  | none =>
    cases entries with
    | nil => simp
    | cons e rest =>
      simp only [Option.getD_none, Datum.null.sizeOf_spec, List.cons.sizeOf_spec]
      omega
  | some v =>
    have := sizeOf_lookup h
    simp only [Option.getD_some]
    omega

end Datum

end CommandWrap
