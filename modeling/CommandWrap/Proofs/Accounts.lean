import CommandWrap.Command.Tree
import CommandWrap.Log
import Mathlib.Data.List.Basic

/-!
# Accounts of options

The options that a program declares become flags, or are left out with a warning.  Flags and warnings **account
for** a row of declared parameters (`Accounts`) when each parameter gives one flag, or one warning, or is one of
those that give nothing, and there are no others.  An account says which parameters give what (`Account`).

A computation that warns adds its warnings behind those that are there (`Logs`), and a chain of computations adds
those of the first and then those of the second.
-/
namespace CommandWrap

/-- The first of the names that begins with two hyphens has `name` behind them. -/
def HasLongName (names : List String) (name : String) : Prop :=
  names.find? (·.startsWith "--") = some ("--" ++ name)

instance (names : List String) (name : String) : Decidable (HasLongName names name) :=
  inferInstanceAs (Decidable (_ = _))

/-- A long name without its hyphens. -/
theorem hyphens_append_drop {name : String} (h : name.startsWith "--" = true) :
    "--" ++ (name.drop 2).toString = name := by
  obtain ⟨rest, hrest⟩ := String.startsWith_string_iff.mp h
  have hdrop : (name.drop 2).toString.toList = name.toList.drop 2 := String.toList_copy_drop
  apply String.toList_injective
  rw [String.toList_append, hdrop, ← hrest]
  rfl

theorem find?_long_eq_some_iff {names : List String} {name : String} :
    (names.find? (·.startsWith "--")).map (fun full => (full.drop 2).toString) = some name ↔
      HasLongName names name := by
  rw [HasLongName, Option.map_eq_some_iff]
  constructor
  · rintro ⟨full, hfull, rfl⟩
    have hlong : full.startsWith "--" = true := by simpa using List.find?_some hfull
    rw [hfull, hyphens_append_drop hlong]
  · intro h
    have hlong : ("--" ++ name).startsWith "--" = true := by simp
    exact ⟨_, h, (String.append_right_inj _).mp (hyphens_append_drop hlong)⟩

theorem find?_long_eq_none_iff {names : List String} :
    (names.find? (·.startsWith "--")).map (fun full => (full.drop 2).toString) = none ↔
      ∀ name ∈ names, name.startsWith "--" = false := by
  simp

theorem HasLongName.mem {names : List String} {name : String} (h : HasLongName names name) :
    "--" ++ name ∈ names :=
  List.mem_of_find?_eq_some h

/-- **What parameters give**: some nothing, some a flag, and some a warning. -/
structure Account (α : Type) where
  /-- The parameter gives nothing. -/
  Silent : α → Prop
  /-- The parameter gives the flag. -/
  Gives : α → Flag → Prop
  /-- The parameter is left out with the warning. -/
  LeavesOut : α → Log.Note → Prop

/-- **The flags and the warnings account for the parameters**, one after the other. -/
inductive Accounts {α : Type} (A : Account α) : List α → List Flag → List Log.Note → Prop
  | nil : Accounts A [] [] []
  | silent {a : α} {as : List α} {flags : List Flag} {notes : List Log.Note} (here : A.Silent a)
      (rest : Accounts A as flags notes) : Accounts A (a :: as) flags notes
  | flag {a : α} {as : List α} {f : Flag} {flags : List Flag} {notes : List Log.Note}
      (here : A.Gives a f) (rest : Accounts A as flags notes) : Accounts A (a :: as) (f :: flags) notes
  | warning {a : α} {as : List α} {flags : List Flag} {note : Log.Note} {notes : List Log.Note}
      (here : A.LeavesOut a note) (rest : Accounts A as flags notes) :
      Accounts A (a :: as) flags (note :: notes)

namespace Accounts

variable {α : Type} {A : Account α} {as : List α} {flags : List Flag} {notes : List Log.Note}

/-- Flags and warnings that are picked out one by one account for the parameters. -/
theorem of_filterMap {flag? : α → Option Flag} {note? : α → Option Log.Note}
    (h : ∀ a, (A.Silent a ∧ flag? a = none ∧ note? a = none) ∨
      (∃ f, A.Gives a f ∧ flag? a = some f ∧ note? a = none) ∨
      ∃ note, A.LeavesOut a note ∧ flag? a = none ∧ note? a = some note) (as : List α) :
    Accounts A as (as.filterMap flag?) (as.filterMap note?) := by
  induction as with
  | nil => exact .nil
  | cons a as ih =>
    rcases h a with ⟨here, hflag, hnote⟩ | ⟨f, here, hflag, hnote⟩ | ⟨note, here, hflag, hnote⟩
    · rw [List.filterMap_cons_none hflag, List.filterMap_cons_none hnote]
      exact .silent here ih
    · rw [List.filterMap_cons_some hflag, List.filterMap_cons_none hnote]
      exact .flag here ih
    · rw [List.filterMap_cons_none hflag, List.filterMap_cons_some hnote]
      exact .warning here ih

/-- What accounts for parameters does so too where each of them gives the same. -/
theorem imp {B : Account α} (h : Accounts A as flags notes) (hsilent : ∀ a ∈ as, A.Silent a → B.Silent a)
    (hgives : ∀ a ∈ as, ∀ f, A.Gives a f → B.Gives a f)
    (hleaves : ∀ a ∈ as, ∀ note, A.LeavesOut a note → B.LeavesOut a note) : Accounts B as flags notes := by
  induction h with
  | nil => exact .nil
  | silent here rest ih =>
    rw [List.forall_mem_cons] at hsilent hgives hleaves
    exact .silent (hsilent.1 here) (ih hsilent.2 hgives.2 hleaves.2)
  | flag here rest ih =>
    rw [List.forall_mem_cons] at hsilent hgives hleaves
    exact .flag (hgives.1 _ here) (ih hsilent.2 hgives.2 hleaves.2)
  | warning here rest ih =>
    rw [List.forall_mem_cons] at hsilent hgives hleaves
    exact .warning (hleaves.1 _ here) (ih hsilent.2 hgives.2 hleaves.2)

theorem exists_of_mem_flags (h : Accounts A as flags notes) {f : Flag} (hf : f ∈ flags) :
    ∃ a ∈ as, A.Gives a f := by
  induction h with
  | nil => cases hf
  | silent here rest ih | warning here rest ih =>
    obtain ⟨a, ha, hgives⟩ := ih hf
    exact ⟨a, List.mem_cons_of_mem _ ha, hgives⟩
  | flag here rest ih =>
    rcases List.mem_cons.mp hf with rfl | hf
    · exact ⟨_, List.mem_cons_self .., here⟩
    · obtain ⟨a, ha, hgives⟩ := ih hf
      exact ⟨a, List.mem_cons_of_mem _ ha, hgives⟩

/-- A parameter that gives a flag, and nothing else, gives it to the row. -/
theorem mem_flags (h : Accounts A as flags notes) {a : α} (ha : a ∈ as) {f : Flag}
    (hsilent : ¬ A.Silent a) (hgives : ∀ g, A.Gives a g → g = f) (hleaves : ∀ note, ¬ A.LeavesOut a note) :
    f ∈ flags := by
  induction h with
  | nil => cases ha
  | silent here rest ih =>
    rcases List.mem_cons.mp ha with rfl | ha
    · exact absurd here hsilent
    · exact ih ha
  | flag here rest ih =>
    rcases List.mem_cons.mp ha with rfl | ha
    · exact hgives _ here ▸ List.mem_cons_self ..
    · exact List.mem_cons_of_mem _ (ih ha)
  | warning here rest ih =>
    rcases List.mem_cons.mp ha with rfl | ha
    · exact absurd here (hleaves _)
    · exact ih ha

/-- Flags have different names when no two parameters give flags of one name. -/
theorem nodup_name (h : Accounts A as flags notes)
    (hapart : as.Pairwise fun a b => ∀ f g, A.Gives a f → A.Gives b g → f.name ≠ g.name) :
    (flags.map Flag.name).Nodup := by
  -- a flag further on with the name of the first would come from another parameter
  induction h with
  | nil => exact List.nodup_nil
  | silent here rest ih | warning here rest ih => exact ih (List.pairwise_cons.mp hapart).2
  | flag here rest ih =>
    obtain ⟨hfirst, hrest⟩ := List.pairwise_cons.mp hapart
    rw [List.map_cons, List.nodup_cons]
    refine ⟨fun hmem => ?_, ih hrest⟩
    obtain ⟨g, hg, hname⟩ := List.mem_map.mp hmem
    obtain ⟨b, hb, hgives⟩ := rest.exists_of_mem_flags hg
    exact hfirst b hb _ g here hgives hname.symm

/-- **The flags and the warnings are as many** as the parameters that do not give nothing. -/
theorem length_add_length (h : Accounts A as flags notes) {counts : α → Bool}
    (hsilent : ∀ a, A.Silent a → counts a = false) (hgives : ∀ a f, A.Gives a f → counts a = true)
    (hleaves : ∀ a note, A.LeavesOut a note → counts a = true) :
    flags.length + notes.length = as.countP counts := by
  induction h with
  | nil => rfl
  | silent here rest ih => rw [ih, List.countP_cons_of_neg (by simp [hsilent _ here])]
  | flag here rest ih => rw [List.countP_cons_of_pos (hgives _ _ here), ← ih, List.length_cons]; omega
  | warning here rest ih => rw [List.countP_cons_of_pos (hleaves _ _ here), ← ih, List.length_cons]; omega

end Accounts

/-! ## Computations that warn -/

/-- **The computation gives the result** and adds the warnings to those that are there. -/
def Logs {α : Type} (x : StateM (List Log.Note) α) (a : α) (notes : List Log.Note) : Prop :=
  ∀ before, x.run before = (a, before ++ notes)

namespace Logs

variable {α β : Type}

protected theorem pure (a : α) : Logs (pure a) a [] := by
  intro before
  rw [List.append_nil]
  rfl

protected theorem modify (notes : List Log.Note) : Logs (modify (· ++ notes)) ⟨⟩ notes :=
  fun _ => rfl

protected theorem bind {x : StateM (List Log.Note) α} {f : α → StateM (List Log.Note) β} {a : α} {b : β}
    {notes notes' : List Log.Note} (hx : Logs x a notes) (hf : Logs (f a) b notes') :
    Logs (x >>= f) b (notes ++ notes') := by
  intro before
  rw [StateT.run_bind, hx before, ← List.append_assoc]
  exact hf (before ++ notes)

end Logs

/-! ## The flags of a tree -/

namespace CommandTree

mutual

/-- The flags of all commands of the tree. -/
def allFlags : CommandTree → List Flag
  | .node info commands => info.flags ++ allFlagsIn commands

/-- The flags of all commands of a row of trees. -/
def allFlagsIn : List CommandTree → List Flag
  | [] => []
  | t :: ts => allFlags t ++ allFlagsIn ts

end

end CommandTree

end CommandWrap
