import CommandWrap.Proofs.Outcomes
import CommandWrap.Yaml.Data
import Mathlib.Data.List.Forall2

/-!
# Data found on the way

While the nodes of a document are unfolded, the data of nodes is kept and found again.  A property `ok` of the data
that is found for a node holds all along if it holds of what is kept, and steps are put together from their results
(`Yields`).
-/
namespace CommandWrap.Yaml

/-- All that was found so far has a property. -/
def FoundIn (ok : Nat → Datum → Prop) (found : Array (Option Datum)) : Prop :=
  ∀ (i : Nat) (d : Datum), found[i]? = some (some d) → ok i d

/-- **A step whose result has a property**, whatever was found before. -/
def Yields {α : Type} (ok : Nat → Datum → Prop) (P : α → Prop) (x : Found α) : Prop :=
  ∀ found, FoundIn ok found → P (x.run found).1 ∧ FoundIn ok (x.run found).2

theorem foundIn_start (ok : Nat → Datum → Prop) (size : Nat) : FoundIn ok (Array.replicate size none) := by
  intro i d hd
  rw [Array.getElem?_replicate] at hd
  split at hd
  · cases Option.some.inj hd
  · cases hd

theorem getElem?_of_getD {found : Array (Option Datum)} {number : Nat} {d : Datum}
    (h : found.getD number none = some d) : found[number]? = some (some d) := by
  rw [Array.getD_eq_getD_getElem?] at h
  rcases hopt : found[number]? with _ | (_ | e)
  · simp [hopt] at h
  · simp [hopt] at h
  · simpa [hopt] using h

section Yields

variable {α β : Type} {ok : Nat → Datum → Prop} {P : α → Prop} {Q : β → Prop} {x : Found α} {f : α → Found β}

theorem yields_pure {a : α} (ha : P a) : Yields ok P (pure a) :=
  fun _ hfound => ⟨ha, hfound⟩

theorem yields_bind (hx : Yields ok P x) (hf : ∀ a, P a → Yields ok Q (f a)) : Yields ok Q (x >>= f) := by
  intro found hfound
  obtain ⟨ha, hfound'⟩ := hx found hfound
  exact hf _ ha _ hfound'

theorem yields_get {f : Array (Option Datum) → Found β} (hf : ∀ found, FoundIn ok found → Yields ok Q (f found)) :
    Yields ok Q (get >>= f) :=
  fun found hfound => hf found hfound found hfound

theorem yields_forall₂ {R : α → β → Prop} {xs : List α} (hf : ∀ a ∈ xs, Yields ok (R a) (f a)) :
    Yields ok (List.Forall₂ R xs) (xs.mapM f) := by
  induction xs with
  | nil => exact yields_pure .nil
  | cons a xs ih =>
    rw [List.forall_mem_cons] at hf
    rw [List.mapM_cons]
    refine yields_bind hf.1 fun y hy => yields_bind (ih hf.2) fun ys hys => yields_pure ?_
    exact .cons hy hys

theorem yields_mapM {xs : List α} (hf : ∀ a ∈ xs, Yields ok Q (f a)) :
    Yields ok (fun ys => ∀ y ∈ ys, Q y) (xs.mapM f) := by
  intro found hfound
  obtain ⟨hys, hfound'⟩ := yields_forall₂ (R := fun _ => Q) hf found hfound
  refine ⟨fun y hy => ?_, hfound'⟩
  obtain ⟨-, -, hQ⟩ := exists_left_of_mem hys hy
  exact hQ

/-- What is kept is found. -/
theorem yields_keep {number : Nat} {d : Datum} (hd : ok number d) :
    Yields ok (fun _ => True) (modify fun found => found.set! number (some d) : Found PUnit) := by
  refine fun found hfound => ⟨trivial, fun i e he => ?_⟩
  change (found.set! number (some d))[i]? = some (some e) at he
  rw [Array.set!_eq_setIfInBounds, Array.getElem?_setIfInBounds] at he
  split at he
  · rename_i hi
    split at he
    · cases he
      exact hi ▸ hd
    · cases he
  · exact hfound i e he

/-- **The last step of a node**: what holds no reference back is kept. -/
theorem yields_last (ok : Nat → Datum → Prop) (number : Nat) {P : Datum × Bool → Prop} {r : Datum × Bool} (hr : P r)
    (hok : r.2 = true → ok number r.1) : Yields ok P (do
      let r ← pure r
      if r.2 = true then
        modify fun found => found.set! number (some r.1)
        return (r.1, r.2)
      else return (r.1, r.2)) := by
  rw [pure_bind]
  split
  · exact yields_bind (yields_keep (hok ‹_›)) fun _ _ => yields_pure hr
  · exact yields_pure hr

end Yields

end CommandWrap.Yaml
