import Mathlib.Data.List.TakeWhile
import Mathlib.Data.Option.Basic
import CommandWrap.Proofs.Outcomes
import CommandWrap.Settings.Resolved

/-!
# Following references

Data without references stands for itself (`resolve_plain`).

A reference of a map of settings **leads inside** if it cannot be to the map as a whole: it follows the keys of a path,
or calls a function that does no more than that.  A function may well be asked for the whole map (`oc.dict.keys` with
no key gives its keys), and the value then shows in which order the keys come.

References that lead inside do not see that order.  Two maps are the same but for the numbers of some entries
(`Renumbered`) if what follows a reference in one finds the same in the other, or else a plain text under another
number.  Then whatever is followed, selected, called or resolved agrees in both, by induction on the fuel with one
case for each function (`agrees`).
-/
namespace CommandWrap.Settings

open Resolved

/-! ## Data at places -/

namespace Resolved

@[simp] theorem at?_nil (d : Datum) : at? d [] = some d :=
  rfl

theorem at?_cons (d : Datum) (n : Nat) (way : List Nat) : at? d (n :: way) = (children d)[n]?.bind (at? · way) :=
  rfl

@[simp] theorem at?_singleton (d : Datum) (n : Nat) : at? d [n] = (children d)[n]? := by
  rw [at?_cons]
  cases (children d)[n]? <;> rfl

theorem at?_append (d : Datum) (way way' : List Nat) : at? d (way ++ way') = (at? d way).bind (at? · way') :=
  List.foldlM_append ..

theorem at?_concat {root d : Datum} {way : List Nat} (hd : at? root way = some d) (n : Nat) :
    at? root (way ++ [n]) = (children d)[n]? := by
  rw [at?_append, hd, Option.bind_some, at?_singleton]

end Resolved

/-- **Plain data**: no text in it may be a reference. -/
def IsPlain (d : Datum) : Prop :=
  ∀ way t, at? d way = some (.text t) → hasReference t.toList = false

theorem isPlain_text {t : String} : IsPlain (.text t) ↔ hasReference t.toList = false := by
  constructor
  · intro hplain
    exact hplain [] t rfl
  · rintro hplain (_ | ⟨n, way⟩) u hu
    · cases hu
      exact hplain
    · cases hu

theorem IsPlain.at {root d : Datum} {way : List Nat} (hplain : IsPlain root) (hd : at? root way = some d) :
    IsPlain d := by
  intro way' t ht
  refine hplain (way ++ way') t ?_
  rw [at?_append, hd, Option.bind_some, ht]

/-! ## Plain data stands for itself -/

section plain

variable {s : Surroundings} {root : Datum}

theorem follow_plain {way : List Nat} {d : Datum} (hplain : IsPlain d) {fuel : Nat} {place : Place}
    (h : follow s root fuel way d = some place) : place = .node way := by
  cases fuel with
  | zero => simp [follow] at h
  | succ fuel =>
    cases d with
    | text t =>
      rw [follow] at h
      simp only [isPlain_text.mp hplain, Bool.false_eq_true, if_false] at h
      exact (Option.some.inj h).symm
    | _ =>
      rw [follow] at h
      exact (Option.some.inj h).symm
      all_goals simp

/-- Where every child stands for itself, so do all together. -/
theorem eq_of_mapM_zipIdx {α : Type} {xs ys : List α} {f : α × Nat → Option α}
    (h : xs.zipIdx.mapM f = some ys) (hf : ∀ x n, xs[n]? = some x → ∀ y, f (x, n) = some y → y = x) : ys = xs := by
  have hrow : List.Forall₂ (fun x y => x.1 = y) xs.zipIdx ys := by
    refine forall₂_imp_of_mem (mapM_eq_some_iff.mp h) ?_
    rintro ⟨x, n⟩ hx y hy
    exact (hf x n (List.mem_zipIdx_iff_getElem?.mp hx) y hy).symm
  rw [← List.forall₂_map_left_iff (f := Prod.fst) (R := Eq), List.forall₂_eq_eq_eq, List.zipIdx_map_fst] at hrow
  exact hrow.symm

/-- **Plain data stands for itself.** -/
theorem resolve_plain {fuel : Nat} {way : List Nat} {d d' : Datum} (hplain : IsPlain d) (hd : at? root way = some d)
    (h : resolve s root fuel way d = some d') : d' = d := by
  induction fuel generalizing way d d' with
  | zero => simp [resolve] at h
  | succ fuel ih =>
    rw [resolve, Option.bind_eq_bind, Option.bind_eq_some_iff] at h
    obtain ⟨place, hplace, h⟩ := h
    cases follow_plain hplain hplace
    simp only [hd, Option.bind_eq_bind, Option.bind_some] at h
    have hchild {n : Nat} {x y : Datum} (hx : (children d)[n]? = some x)
        (hy : resolve s root fuel (way ++ [n]) x = some y) : y = x := by
      have hplace : at? root (way ++ [n]) = some x := (at?_concat hd n).trans hx
      exact ih (hplain.at ((at?_singleton d n).trans hx)) hplace hy
    cases d with
    | list items =>
      simp only [Option.bind_eq_some_iff, Option.pure_def, Option.some.injEq] at h
      obtain ⟨items', hitems, rfl⟩ := h
      rw [eq_of_mapM_zipIdx hitems fun x n hx y hy => hchild hx hy]
    | map entries =>
      simp only [Option.bind_eq_some_iff, Option.pure_def, Option.some.injEq] at h
      obtain ⟨entries', hentries, rfl⟩ := h
      rw [eq_of_mapM_zipIdx hentries]
      rintro ⟨k, x⟩ n hx y hy
      obtain ⟨v, hv, rfl⟩ := Option.map_eq_some_iff.mp hy
      rw [hchild (by simp [children, hx]) hv]
    | _ => exact (Option.some.inj h).symm

end plain

/-! ## References that lead inside -/

/-- The functions that make a value of their arguments alone. -/
def makers : List String :=
  ["oc.env", "oc.create", "dw.data"]

/-- The functions that follow a path, which is their first argument. -/
def selectors : List String :=
  ["oc.select", "oc.dict.keys", "oc.dict.values"]

mutual

/-- A part of a text whose reference, if it is one, leads inside. -/
inductive Piece.LeadsInside : Piece → Prop
  /-- Plain text. -/
  | text {cs : List Char} : Piece.LeadsInside (.text cs)
  /-- A reference. -/
  | reference {r : Reference} (hr : r.LeadsInside) : Piece.LeadsInside (.reference r)

/-- **A reference that leads inside** the settings, and not to the settings as a whole: the keys of a path, a function
that makes a value of its arguments, or one that follows a written path with a key in it. -/
inductive Reference.LeadsInside : Reference → Prop
  /-- To what a path leads. -/
  | node {path : List Piece} (hpath : ∀ p ∈ path, p.LeadsInside) : Reference.LeadsInside (.node path)
  /-- To what a function makes of its arguments. -/
  | make {name : List Char} {arguments : List Element} (hname : String.ofList name ∈ makers)
    (harguments : ∀ e ∈ arguments, e.LeadsInside) : Reference.LeadsInside (.call [.text name] arguments)
  /-- To where a function follows a path. -/
  | select {name path : List Char} {arguments : List Element} (hname : String.ofList name ∈ selectors)
    (hpath : ∃ c ∈ path, c ≠ '.') (harguments : ∀ e ∈ arguments, e.LeadsInside) :
    Reference.LeadsInside (.call [.text name] (.text [.text path] :: arguments))

/-- An argument whose references lead inside. -/
inductive Element.LeadsInside : Element → Prop
  /-- A literal. -/
  | literal {d : Datum} : Element.LeadsInside (.literal d)
  /-- A text. -/
  | text {parts : List Piece} (hparts : ∀ p ∈ parts, p.LeadsInside) : Element.LeadsInside (.text parts)
  /-- The value of a reference. -/
  | value {r : Reference} (hr : r.LeadsInside) : Element.LeadsInside (.value r)
  /-- A list. -/
  | list {items : List Element} (hitems : ∀ e ∈ items, e.LeadsInside) : Element.LeadsInside (.list items)
  /-- A map. -/
  | map {entries : List (Datum × Element)} (hentries : ∀ e ∈ entries, e.2.LeadsInside) : Element.LeadsInside (.map entries)

end

theorem Piece.leadsInside_reference {r : Reference} : (Piece.reference r).LeadsInside ↔ r.LeadsInside := by
  constructor
  · intro h
    cases h with
    | reference hr => exact hr
  · exact .reference

/-- **Data whose references lead inside.** -/
def LeadsInside (d : Datum) : Prop :=
  ∀ way t, at? d way = some (.text t) → ∀ ps, pieces? t = some ps → ∀ p ∈ ps, p.LeadsInside

theorem LeadsInside.at {root d : Datum} {way : List Nat} (hinside : LeadsInside root) (hd : at? root way = some d) :
    LeadsInside d := by
  intro way' t ht
  refine hinside (way ++ way') t ?_
  rw [at?_append, hd, Option.bind_some, ht]

/-- References of plain data lead inside, as there are none. -/
theorem IsPlain.leadsInside {d : Datum} (hplain : IsPlain d) : LeadsInside d := by
  intro way t ht ps hps p hp
  rw [pieces?] at hps
  simp only [hplain way t ht, Bool.false_eq_true, if_false, Option.some.injEq] at hps
  subst hps
  rw [List.mem_singleton.mp hp]
  exact .text

/-! ## Maps that are the same but for the numbers of some entries -/

section renumbered

variable (n : Nat) (root root' : Datum)

/-- The numbers of **one child** in two maps: an old child has one number, and a new one is a plain text. -/
inductive SameChild : Nat → Nat → Prop
  /-- A child with an old number. -/
  | old {i : Nat} (hi : i < n) : SameChild i i
  /-- A plain text. -/
  | new {i i' : Nat} {t : String} (hplain : hasReference t.toList = false) (hchild : at? root [i] = some (.text t))
    (hchild' : at? root' [i'] = some (.text t)) : SameChild i i'

/-- **One place** in two maps. -/
inductive SamePlace : Place → Place → Prop
  /-- A value that a function made. -/
  | made (d : Datum) : SamePlace (.made d) (.made d)
  /-- A place in an old child. -/
  | old {i : Nat} (hi : i < n) (rest : List Nat) : SamePlace (.node (i :: rest)) (.node (i :: rest))
  /-- A new child. -/
  | new {i i' : Nat} {t : String} (hplain : hasReference t.toList = false) (hchild : at? root [i] = some (.text t))
    (hchild' : at? root' [i'] = some (.text t)) : SamePlace (.node [i]) (.node [i'])

variable {n root root'} in
theorem SamePlace.made_or_node {place place' : Place} (hplace : SamePlace n root root' place place') :
    (∃ d, place = .made d ∧ place' = .made d) ∨ ∃ way way', place = .node way ∧ place' = .node way' := by
  cases hplace with
  | made d => exact .inl ⟨d, rfl, rfl⟩
  | old => exact .inr ⟨_, _, rfl, rfl⟩
  | new => exact .inr ⟨_, _, rfl, rfl⟩

/-- **Two maps are the same but for the numbers of some entries**: the first `n` children are old, their references lead
inside, and every key leads to one child in both. -/
structure Renumbered : Prop where
  /-- The first is a map or list. -/
  container : KeyPath.isContainer root = true
  /-- The second is a map or list. -/
  container' : KeyPath.isContainer root' = true
  /-- Old children are the same. -/
  old : ∀ i < n, at? root [i] = at? root' [i]
  /-- The references of old children lead inside. -/
  inside : ∀ i < n, ∀ d, at? root [i] = some d → LeadsInside d
  /-- Every key leads to one child. -/
  number : ∀ key, Option.Rel (SameChild n root root') (childNumber? key root) (childNumber? key root')

/-- The place is the map itself or lies in an old child. -/
def IsKnown (way : List Nat) : Prop :=
  ∀ i ∈ way.head?, i < n

end renumbered

/-- A function is called for a value, or with a path that has a key in it. -/
def IsCallable (name : String) (arguments : List Datum) : Prop :=
  name ∈ makers ∨
    name ∈ selectors ∧ ∃ path rest, arguments = .text path :: rest ∧ ∃ c ∈ path.toList, c ≠ '.'

/-- **What is followed agrees** in two maps, with the given fuel. -/
structure Agrees (s : Surroundings) (n : Nat) (root root' : Datum) (fuel : Nat) : Prop where
  follow : ∀ {i rest d}, i < n → at? root (i :: rest) = some d →
    Option.Rel (SamePlace n root root') (follow s root fuel (i :: rest) d) (follow s root' fuel (i :: rest) d)
  reference : ∀ {around r}, IsKnown n around → r.LeadsInside →
    Option.Rel (SamePlace n root root') (reference s root fuel around r) (reference s root' fuel around r)
  select : ∀ {way keys}, IsKnown n way → way ≠ [] ∨ keys ≠ [] →
    Option.Rel (SamePlace n root root') (select s root fuel way keys) (select s root' fuel way keys)
  textOf : ∀ {around ps}, IsKnown n around → (∀ p ∈ ps, p.LeadsInside) →
    textOf s root fuel around ps = textOf s root' fuel around ps
  element : ∀ {around e}, IsKnown n around → e.LeadsInside →
    element s root fuel around e = element s root' fuel around e
  call : ∀ {around name arguments}, IsKnown n around → IsCallable name arguments →
    Option.Rel (SamePlace n root root') (call s root fuel around name arguments)
      (call s root' fuel around name arguments)
  resolve : ∀ {way way' d}, SamePlace n root root' (.node way) (.node way') → at? root way = some d →
    at? root' way' = some d → resolve s root fuel way d = resolve s root' fuel way' d

/-! ## Where paths start -/

theorem drop_points (cs : List Char) :
    cs.drop (cs.takeWhile (· == '.')).length = cs.dropWhile (· == '.') := by
  calc cs.drop (cs.takeWhile (· == '.')).length
      = (cs.takeWhile (· == '.') ++ cs.dropWhile (· == '.')).drop (cs.takeWhile (· == '.')).length := by
        rw [List.takeWhile_append_dropWhile]
    _ = cs.dropWhile (· == '.') := List.drop_left

/-- A path starts at a container around it, and a path with a key in it leads on from there. -/
theorem start?_eq_some {around start : List Nat} {path : String} {keys : List String}
    (h : start? around path = some (start, keys)) :
    (∃ m, start = around.take m) ∧ ((∃ c ∈ path.toList, c ≠ '.') → keys ≠ []) := by
  rw [start?, drop_points] at h
  have hstart (b : Bool) (m : Nat) : ∃ m', (if b then [] else around.take m) = around.take m' := by
    cases b
    · exact ⟨m, rfl⟩
    · exact ⟨0, rfl⟩
  split at h
  · cases h
  · split at h
    case isTrue hempty =>
      cases h
      refine ⟨hstart .., ?_⟩
      rintro ⟨c, hc, hpoint⟩
      have hpoints := List.dropWhile_eq_nil_iff.mp (List.isEmpty_iff.mp hempty) c hc
      exact absurd (eq_of_beq hpoints) hpoint
    case isFalse =>
      split at h
      · cases h
      · cases h
        exact ⟨hstart .., fun _ => by assumption⟩

/-! ## Results that go together -/

section rel

variable {α β : Type} {R : α → α → Prop} {S : β → β → Prop}

theorem rel_bind {x x' : Option α} {f f' : α → Option β} (hx : Option.Rel R x x')
    (hf : ∀ a a', R a a' → Option.Rel S (f a) (f' a')) : Option.Rel S (x.bind f) (x'.bind f') := by
  cases hx with
  | none => exact .none
  | some h => exact hf _ _ h

theorem bind_eq_of_rel {x x' : Option α} {f f' : α → Option β} (hx : Option.Rel R x x')
    (hf : ∀ a a', R a a' → f a = f' a') : x.bind f = x'.bind f' := by
  cases hx with
  | none => rfl
  | some h => exact hf _ _ h

theorem rel_bind_same {γ : Type} {x : Option γ} {f f' : γ → Option β} (hf : ∀ a, x = some a → Option.Rel S (f a) (f' a)) :
    Option.Rel S (x.bind f) (x.bind f') := by
  cases x with
  | none => exact .none
  | some a => exact hf a rfl

theorem getD_of_rel {x x' : Option α} {d d' : α} (hx : Option.Rel R x x') (hd : R d d') : R (x.getD d) (x'.getD d') := by
  cases hx with
  | none => exact hd
  | some h => exact h

end rel

/-! ## One step -/

section step

variable {s : Surroundings} {n : Nat} {root root' : Datum} (hsame : Renumbered n root root') {fuel : Nat}
  (hagrees : Agrees s n root root' fuel)

include hsame hagrees

omit hagrees in
theorem at?_of_old {i : Nat} (hi : i < n) (rest : List Nat) : at? root (i :: rest) = at? root' (i :: rest) := by
  have hchild := hsame.old i hi
  rw [at?_singleton, at?_singleton] at hchild
  rw [at?_cons, at?_cons, hchild]

omit hagrees in
theorem leadsInside_of_old {i : Nat} (hi : i < n) {rest : List Nat} {d : Datum} (hd : at? root (i :: rest) = some d) :
    LeadsInside d := by
  rw [at?_cons, Option.bind_eq_some_iff] at hd
  obtain ⟨child, hchild, hd⟩ := hd
  exact (hsame.inside i hi child ((at?_singleton root i).trans hchild)).at hd

omit hagrees in
/-- One place holds one datum in both maps. -/
theorem at?_of_same {way way' : List Nat} (hplace : SamePlace n root root' (.node way) (.node way')) :
    at? root way = at? root' way' := by
  cases hplace with
  | old hi rest => exact at?_of_old hsame hi rest
  | new _ hchild hchild' => rw [hchild, hchild']

omit hsame hagrees in
theorem isKnown_dropLast {i : Nat} (hi : i < n) (rest : List Nat) : IsKnown n (i :: rest).dropLast := by
  cases rest with
  | nil => rintro _ ⟨⟩
  | cons j rest =>
    rintro _ ⟨⟩
    exact hi

omit hsame hagrees in
theorem isKnown_take {around : List Nat} (hknown : IsKnown n around) (m : Nat) : IsKnown n (around.take m) := by
  intro i hi
  rw [List.head?_take] at hi
  split at hi
  · cases hi
  · exact hknown i hi

theorem follow_succ {i : Nat} {rest : List Nat} {d : Datum} (hi : i < n) (hd : at? root (i :: rest) = some d) :
    Option.Rel (SamePlace n root root') (follow s root (fuel + 1) (i :: rest) d)
      (follow s root' (fuel + 1) (i :: rest) d) := by
  cases d with
  | text t =>
    have hknown := isKnown_dropLast hi rest
    rw [follow, follow]
    split
    case isFalse => exact .some (.old hi rest)
    case isTrue =>
      refine rel_bind_same fun ps hps => ?_
      have hinside : ∀ p ∈ ps, p.LeadsInside := leadsInside_of_old hsame hi hd [] t rfl ps hps
      split
      · exact hagrees.reference hknown (Piece.leadsInside_reference.mp (hinside _ (List.mem_singleton_self _)))
      · rw [hagrees.textOf hknown hinside]
        exact rel_bind_same fun t _ => .some (.made _)
  | _ =>
    rw [follow, follow]
    · exact .some (.old hi rest)
    all_goals simp

/-- Where a path leads agrees, unless it leads to the map as a whole, which is refused. -/
theorem reference_node_succ {around : List Nat} {path : List Piece} (hknown : IsKnown n around)
    (hpath : ∀ p ∈ path, p.LeadsInside) :
    Option.Rel (SamePlace n root root') (reference s root (fuel + 1) around (.node path))
      (reference s root' (fuel + 1) around (.node path)) := by
  rw [reference, reference, hagrees.textOf hknown hpath]
  refine rel_bind_same fun path _ => rel_bind_same fun start hstart => ?_
  obtain ⟨start, keys⟩ := start
  obtain ⟨⟨m, rfl⟩, -⟩ := start?_eq_some hstart
  -- a reference to the whole data leads nowhere, since that is a container
  by_cases hwhole : around.take m = [] ∧ keys = []
  · obtain ⟨htake, rfl⟩ := hwhole
    rw [htake]
    cases fuel with
    | zero =>
      simp only [select]
      exact .none
    | succ fuel => simp [select, hsame.container, hsame.container']
  · refine rel_bind (hagrees.select (isKnown_take hknown m) (by simpa only [not_and_or] using hwhole)) ?_
    rintro _ _ (d | ⟨hi, rest⟩ | ⟨hplain, hchild, hchild'⟩)
    · exact .some (.made d)
    · dsimp only
      rw [at?_of_old hsame hi]
      refine rel_bind_same fun isContainer _ => ?_
      split
      · exact .none
      · exact .some (.old hi rest)
    · dsimp only
      simp only [hchild, hchild', Option.map_some, Option.bind_eq_bind, Option.bind_some, KeyPath.isContainer,
        Bool.and_false, Bool.false_eq_true, if_false]
      exact .some (.new hplain hchild hchild')

omit hsame in
theorem mapM_element {around : List Nat} {es : List Element} (hknown : IsKnown n around)
    (hes : ∀ e ∈ es, e.LeadsInside) :
    es.mapM (element s root fuel around) = es.mapM (element s root' fuel around) :=
  mapM_congr_of_mem fun e he => hagrees.element hknown (hes e he)

omit hsame hagrees in
theorem textOf_text {around : List Nat} {cs : List Char} {t : String}
    (h : textOf s root fuel around [.text cs] = some t) : t = String.ofList cs := by
  cases fuel with
  | zero => simp [textOf] at h
  | succ fuel => cases fuel <;> simp [textOf] at h; exact h.symm

omit hsame hagrees in
theorem element_text {around : List Nat} {cs : List Char} {d : Datum}
    (h : element s root fuel around (.text [.text cs]) = some d) : d = .text (String.ofList cs) := by
  cases fuel with
  | zero => simp [element] at h
  | succ fuel =>
    rw [element, Option.map_eq_some_iff] at h
    obtain ⟨t, ht, rfl⟩ := h
    rw [textOf_text ht]

theorem reference_succ {around : List Nat} {r : Reference} (hknown : IsKnown n around) (hr : r.LeadsInside) :
    Option.Rel (SamePlace n root root') (reference s root (fuel + 1) around r)
      (reference s root' (fuel + 1) around r) := by
  have hcall {name : List Char} {arguments : List Element} (harguments : ∀ e ∈ arguments, e.LeadsInside)
      (hcallable : ∀ ds, arguments.mapM (element s root' fuel around) = some ds →
        IsCallable (String.ofList name) ds) :
      Option.Rel (SamePlace n root root') (reference s root (fuel + 1) around (.call [.text name] arguments))
        (reference s root' (fuel + 1) around (.call [.text name] arguments)) := by
    have hname : ∀ p ∈ [Piece.text name], p.LeadsInside := by
      intro p hp
      rw [List.mem_singleton.mp hp]
      exact .text
    rw [reference, reference, hagrees.textOf hknown hname, mapM_element hagrees hknown harguments]
    refine rel_bind_same fun t ht => rel_bind_same fun ds hds => ?_
    rw [textOf_text ht]
    exact hagrees.call hknown (hcallable ds hds)
  cases hr with
  | node hpath => exact reference_node_succ hsame hagrees hknown hpath
  | make hname harguments => exact hcall harguments fun _ _ => .inl hname
  | @select name path arguments hname hpath harguments =>
    refine hcall (List.forall_mem_cons.mpr ⟨.text ?_, harguments⟩) fun ds hds => .inr ⟨hname, ?_⟩
    · intro p hp
      rw [List.mem_singleton.mp hp]
      exact .text
    · obtain ⟨d, rest, hd, -, rfl⟩ := List.forall₂_cons_left_iff.mp (mapM_eq_some_iff.mp hds)
      refine ⟨String.ofList path, rest, by rw [element_text hd], ?_⟩
      rw [String.toList_ofList]
      exact hpath

omit hsame hagrees in
/-- Nothing lies below a plain text, which is followed to itself. -/
theorem select_new {i i' : Nat} {t : String} (hplain : hasReference t.toList = false)
    (hchild : at? root [i] = some (.text t)) (hchild' : at? root' [i'] = some (.text t)) (keys : List String) :
    Option.Rel (SamePlace n root root') (select s root fuel [i] keys) (select s root' fuel [i'] keys) := by
  cases fuel with
  | zero =>
    simp only [select]
    exact .none
  | succ fuel =>
    cases keys with
    | nil =>
      simp only [select]
      exact .some (.new hplain hchild hchild')
    | cons key rest => simp [select, hchild, hchild', childNumber?]

omit hsame hagrees in
theorem follow_new {i i' : Nat} {t : String} (hplain : hasReference t.toList = false)
    (hchild : at? root [i] = some (.text t)) (hchild' : at? root' [i'] = some (.text t)) :
    Option.Rel (SamePlace n root root') (follow s root fuel [i] (.text t)) (follow s root' fuel [i'] (.text t)) := by
  cases fuel with
  | zero =>
    simp only [follow]
    exact .none
  | succ fuel =>
    simp only [follow, hplain, Bool.false_eq_true, if_false]
    exact .some (.new hplain hchild hchild')

omit hsame in
/-- From one place, keys lead on to one place. -/
theorem select_of_same (keys : List String) {place place' : Place} : SamePlace n root root' place place' →
    Option.Rel (SamePlace n root root')
      (match place with
        | .node way => select s root fuel way keys
        | .made d => (KeyPath.get? keys d).map .made)
      (match place' with
        | .node way => select s root' fuel way keys
        | .made d => (KeyPath.get? keys d).map .made) := by
  rintro (d | ⟨hi, rest⟩ | ⟨hplain, hchild, hchild'⟩)
  · dsimp only
    rw [Option.map_eq_bind]
    exact rel_bind_same fun d _ => .some (.made d)
  · refine hagrees.select ?_ (.inl (List.cons_ne_nil _ _))
    rintro _ ⟨⟩
    exact hi
  · exact select_new hplain hchild hchild' keys

theorem select_succ {way : List Nat} {keys : List String} (hknown : IsKnown n way) (hkeys : way ≠ [] ∨ keys ≠ []) :
    Option.Rel (SamePlace n root root') (select s root (fuel + 1) way keys) (select s root' (fuel + 1) way keys) := by
  -- one key further the rest of the keys is selected from below, where the agreement is known
  have hgo {place? place'? : Option Place} (child : Datum) (key : String) (keys : List String)
      (hplace : Option.Rel (SamePlace n root root') place? place'?) :
      Option.Rel (SamePlace n root root')
        (if KeyPath.isMissing child then none else place?.bind fun place =>
          match place with
          | .node way => select s root fuel way keys
          | .made d => (KeyPath.get? keys d).map .made)
        (if KeyPath.isMissing child then none else place'?.bind fun place =>
          match place with
          | .node way => select s root' fuel way keys
          | .made d => (KeyPath.get? keys d).map .made) := by
    split
    · exact .none
    · exact rel_bind hplace fun _ _ => select_of_same hagrees keys
  cases keys with
  | nil =>
    cases way with
    | nil => simp at hkeys
    | cons i rest =>
      rw [select, select]
      exact .some (.old (hknown i rfl) rest)
  | cons key keys =>
    rw [select, select]
    cases way with
    | nil =>
      -- at the root a new key has a number of its own on either side
      simp only [at?_nil, Option.bind_eq_bind, Option.bind_some, List.nil_append, ← at?_singleton]
      refine rel_bind (hsame.number key) ?_
      rintro _ _ (hi | ⟨hplain, hchild, hchild'⟩)
      · rw [hsame.old _ hi]
        refine rel_bind_same fun child hchild => hgo child key keys ?_
        exact hagrees.follow hi ((hsame.old _ hi).trans hchild)
      · rw [hchild, hchild']
        exact hgo _ key keys (follow_new hplain hchild hchild')
    | cons i rest =>
      have hold := at?_of_old hsame (hknown i rfl)
      rw [hold]
      refine rel_bind_same fun d hd => rel_bind_same fun m _ => rel_bind_same fun child hchild => ?_
      refine hgo child key keys (hagrees.follow (hknown i rfl) ?_)
      exact (at?_concat ((hold rest).trans hd) m).trans hchild

omit hagrees in
theorem datumAt?_of_same {place place' : Place} (hplace : SamePlace n root root' place place') :
    datumAt? root place = datumAt? root' place' := by
  cases hplace with
  | made d => rfl
  | old hi rest => exact at?_of_same hsame (.old hi rest)
  | new hplain hchild hchild' => exact at?_of_same hsame (.new hplain hchild hchild')

theorem textOf_succ {around : List Nat} {ps : List Piece} (hknown : IsKnown n around)
    (hinside : ∀ p ∈ ps, p.LeadsInside) :
    textOf s root (fuel + 1) around ps = textOf s root' (fuel + 1) around ps := by
  cases ps with
  | nil => rw [textOf, textOf]
  | cons p ps =>
    obtain ⟨hp, hps⟩ := List.forall_mem_cons.mp hinside
    have hrest := hagrees.textOf hknown hps
    cases hp with
    | text => rw [textOf, textOf, hrest]
    | reference hr =>
      rw [textOf, textOf, hrest]
      refine bind_eq_of_rel (hagrees.reference hknown hr) fun place place' hplace => ?_
      rw [datumAt?_of_same hsame hplace]

theorem element_succ {around : List Nat} {e : Element} (hknown : IsKnown n around) (he : e.LeadsInside) :
    element s root (fuel + 1) around e = element s root' (fuel + 1) around e := by
  cases he with
  | literal => rw [element, element]
  | text hparts => rw [element, element, hagrees.textOf hknown hparts]
  | value hr =>
    rw [element, element]
    refine bind_eq_of_rel (hagrees.reference hknown hr) fun place place' hplace => ?_
    rcases hplace.made_or_node with ⟨d, rfl, rfl⟩ | ⟨way, way', rfl, rfl⟩
    · rfl
    · have hdatum := at?_of_same hsame hplace
      dsimp only
      rw [hdatum]
      exact Option.bind_congr fun d hd => hagrees.resolve hplace (hdatum.trans hd) hd
  | list hitems => rw [element, element, mapM_element hagrees hknown hitems]
  | map hentries =>
    rw [element, element]
    congr 1
    refine mapM_congr_of_mem ?_
    rintro ⟨k, e⟩ he
    dsimp only
    rw [hagrees.element hknown (hentries (k, e) he)]

omit hsame hagrees in
/-- A function that makes a value of its arguments, or one with arguments that it does not take, does not see the
data. -/
theorem call_of_make {around : List Nat} {name : String} {arguments : List Datum}
    (hcall : ∀ root, call s root (fuel + 1) around name arguments = (make? s name arguments).map .made) :
    Option.Rel (SamePlace n root root') (call s root (fuel + 1) around name arguments)
      (call s root' (fuel + 1) around name arguments) := by
  rw [hcall, hcall, Option.map_eq_bind]
  exact rel_bind_same fun d _ => .some (.made d)

section selectors

variable {around : List Nat} {path : String} {rest : List Datum}
  (hselect : ∀ {start : List Nat} {keys : List String}, start? around path = some (start, keys) →
    Option.Rel (SamePlace n root root') (select s root fuel start keys) (select s root' fuel start keys))

include hselect

omit hsame hagrees in
theorem call_select :
    Option.Rel (SamePlace n root root') (call s root (fuel + 1) around "oc.select" (.text path :: rest))
      (call s root' (fuel + 1) around "oc.select" (.text path :: rest)) := by
  rcases rest with _ | ⟨default, _ | ⟨d, rest⟩⟩
  · rw [call, call]
    exact rel_bind_same fun _ hstart => .some (getD_of_rel (hselect hstart) (.made _))
  · rw [call, call]
    exact rel_bind_same fun _ hstart => .some (getD_of_rel (hselect hstart) (.made _))
  · refine call_of_make fun root => ?_
    rw [call] <;> simp

omit hagrees in
/-- The keys are those of the map that is found, as it stands. -/
theorem call_keys :
    Option.Rel (SamePlace n root root') (call s root (fuel + 1) around "oc.dict.keys" (.text path :: rest))
      (call s root' (fuel + 1) around "oc.dict.keys" (.text path :: rest)) := by
  rcases rest with _ | ⟨d, rest⟩
  · rw [call, call]
    refine rel_bind_same fun _ hstart => rel_bind (hselect hstart) fun place place' hplace => ?_
    rcases hplace.made_or_node with ⟨d, rfl, rfl⟩ | ⟨way, way', rfl, rfl⟩
    · exact .none
    · simp only [wayOf?, Option.bind_eq_bind, Option.bind_some]
      rw [at?_of_same hsame hplace]
      refine rel_bind_same fun d _ => ?_
      cases d with
      | map entries => exact .some (.made _)
      | _ => exact .none
  · refine call_of_make fun root => ?_
    rw [call] <;> simp

/-- The values are those of the map that is found, with its references resolved. -/
theorem call_values :
    Option.Rel (SamePlace n root root') (call s root (fuel + 1) around "oc.dict.values" (.text path :: rest))
      (call s root' (fuel + 1) around "oc.dict.values" (.text path :: rest)) := by
  rcases rest with _ | ⟨d, rest⟩
  · rw [call, call]
    refine rel_bind_same fun _ hstart => ?_
    dsimp only
    split
    · exact .none
    · refine rel_bind (hselect hstart) fun place place' hplace => ?_
      rcases hplace.made_or_node with ⟨d, rfl, rfl⟩ | ⟨way, way', rfl, rfl⟩
      · exact .none
      · have hdatum := at?_of_same hsame hplace
        simp only [wayOf?, Option.bind_eq_bind, Option.bind_some]
        rw [hdatum]
        refine rel_bind_same fun d hd => ?_
        rw [hagrees.resolve hplace (hdatum.trans hd) hd]
        refine rel_bind_same fun d _ => ?_
        cases d with
        | map entries => exact .some (.made _)
        | _ => exact .none
  · refine call_of_make fun root => ?_
    rw [call] <;> simp

end selectors

theorem call_succ {around : List Nat} {name : String} {arguments : List Datum} (hknown : IsKnown n around)
    (hcallable : IsCallable name arguments) :
    Option.Rel (SamePlace n root root') (call s root (fuel + 1) around name arguments)
      (call s root' (fuel + 1) around name arguments) := by
  rcases hcallable with hmaker | ⟨hselector, path, rest, rfl, hpath⟩
  · have hother : name ≠ "oc.select" ∧ name ≠ "oc.dict.keys" ∧ name ≠ "oc.dict.values" ∧ name ≠ "oc.decode" := by
      revert name
      decide
    refine call_of_make fun root => ?_
    rw [call] <;> simp [hother]
  · have hselect {start : List Nat} {keys : List String} (hstart : start? around path = some (start, keys)) :
        Option.Rel (SamePlace n root root') (select s root fuel start keys) (select s root' fuel start keys) := by
      obtain ⟨⟨m, rfl⟩, hkeys⟩ := start?_eq_some hstart
      exact hagrees.select (isKnown_take hknown m) (.inr (hkeys hpath))
    simp only [selectors, List.mem_cons, List.not_mem_nil, or_false] at hselector
    rcases hselector with rfl | rfl | rfl
    · exact call_select hselect
    · exact call_keys hsame hselect
    · exact call_values hsame hagrees hselect

theorem resolve_succ {way way' : List Nat} {d : Datum} (hplace : SamePlace n root root' (.node way) (.node way'))
    (hd : at? root way = some d) (hd' : at? root' way' = some d) :
    resolve s root (fuel + 1) way d = resolve s root' (fuel + 1) way' d := by
  -- a reference is followed to one place in both; what is there has the same children
  have hfollow : Option.Rel (SamePlace n root root') (follow s root fuel way d) (follow s root' fuel way' d) := by
    cases hplace with
    | old hi rest => exact hagrees.follow hi hd
    | new hplain hchild hchild' =>
      cases hd.symm.trans hchild
      exact follow_new hplain hchild hchild'
  rw [resolve, resolve]
  refine bind_eq_of_rel hfollow fun place place' hplace => ?_
  have hdatum := datumAt?_of_same hsame hplace
  cases hplace with
  | made d => rfl
  | @old i hi rest =>
    have hchild {d : Datum} (hd : at? root' (i :: rest) = some d) {m : Nat} {child : Datum}
        (hm : (children d)[m]? = some child) : resolve s root fuel (i :: rest ++ [m]) child =
          resolve s root' fuel (i :: rest ++ [m]) child :=
      hagrees.resolve (.old hi (rest ++ [m])) ((at?_concat (hdatum.trans hd) m).trans hm) ((at?_concat hd m).trans hm)
    dsimp only [datumAt?] at hdatum ⊢
    rw [hdatum]
    refine Option.bind_congr fun d hd => ?_
    cases d with
    | list items =>
      dsimp only
      congr 1
      refine mapM_congr_of_mem ?_
      rintro ⟨x, m⟩ hx
      exact hchild hd (List.mem_zipIdx_iff_getElem?.mp hx)
    | map entries =>
      dsimp only
      congr 1
      refine mapM_congr_of_mem ?_
      rintro ⟨⟨k, x⟩, m⟩ hx
      dsimp only
      rw [hchild hd (by simp [children, List.mem_zipIdx_iff_getElem?.mp hx])]
    | _ => rfl
  | new hplain hchild hchild' =>
    dsimp only
    rw [hchild, hchild']
    rfl

end step

/-! ## Any number of steps -/

/-- **What is followed agrees** in two maps that are the same but for the numbers of some entries. -/
theorem agrees {s : Surroundings} {n : Nat} {root root' : Datum} (hsame : Renumbered n root root') (fuel : Nat) :
    Agrees s n root root' fuel := by
  induction fuel with
  | zero =>
    constructor <;> intros
    · simp only [follow]
      exact .none
    · simp only [reference]
      exact .none
    · simp only [select]
      exact .none
    · simp only [textOf]
    · simp only [element]
    · simp only [call]
      exact .none
    · simp only [resolve]
  | succ fuel ih =>
    exact {
      follow := follow_succ hsame ih
      reference := reference_succ hsame ih
      select := select_succ hsame ih
      textOf := textOf_succ hsame ih
      element := element_succ hsame ih
      call := call_succ hsame ih
      resolve := resolve_succ hsame ih }

end CommandWrap.Settings
