import CommandWrap.Proofs.GrownLists
import CommandWrap.Proofs.RecordHistory

/-!
# Snapshots and shared lists

What happens in a session (`Event`) is a step, or something that its caller does to a list of its own, such as one with
positional arguments.  Whatever happens, new cells are added, names are given to records, and lists grow; no other value
changes (`Traced`).

So an invocation that a builder has returned is a **snapshot**: its record holds a text and a fixed sequence, in cells
that never change, and its attributes are fixed (`Record.Shows`, `Record.Shows.after_events`).

A list is **shared** by two attributes of named records where replacing has carried it from one record to the other.
Every event says from which attribute the value of an attribute is, unless the value is new (`Event.origin`), and what is
shared is told from that alone (`Session.sharing`); it is exactly what lies in one cell (`wellShared_afterEvents`).  A
list that grows in a cell changes what is rendered from the records that have the cell in an attribute with a flag, and
from no others (`render_grown_iff`).
-/
namespace CommandWrap

/-! ## What happens in a session -/

/-- **What may happen** in a session. -/
inductive Event
  /-- A step. -/
  | step (st : Step)
  /-- The caller makes a list of its own. -/
  | list (items : List Value)
  /-- The caller appends to a list that it has in its hands. -/
  | extend (cell : Nat) (v : Value)

namespace Event

/-- The name that is given to a new record. -/
def naming? : Event → Option String
  | .step (.make var _ _ _) => some var
  | .step (.replace _ target _) => some target
  | .step (.build _ _ _ target) => target
  | _ => none

/-- **Where the value of an attribute is from**: the name and the attribute that had it before, unless it is new.  Making
and building give new values, assigning gives one to its attribute, or new ones to all attributes of the record, and
replacing gives new values to the attributes it is given for and takes all others from the record that is replaced. -/
def origin : Event → String × String → Option (String × String)
  | .step (.make var _ _ _), h => if h.1 = var then none else some h
  | .step (.assign var attr _), h => if h.1 = var ∧ (h.2 = attr ∨ attr = "__dict__") then none else some h
  | .step (.replace var target given), h =>
    if h.1 = target then if (given.lookup h.2).isSome then none else some (var, h.2) else some h
  | .step (.build _ _ _ (some var)), h => if h.1 = var then none else some h
  | _, h => some h

/-- What is shared after the event, when `R` was shared before. -/
def share (e : Event) (R : String × String → String × String → Prop) (h k : String × String) : Prop :=
  h = k ∨ ∃ h' k', e.origin h = some h' ∧ e.origin k = some k' ∧ R h' k'

end Event

namespace Session

variable (ws : List Wrapper)

/-- The store after an event. -/
def happen (s : Store) : Event → Except SessionError Store
  | .step st => (step ws s st).map Prod.snd
  | .list items => .ok (s.allocate (.list items)).1
  | .extend cell v => appendTo s cell v

/-- The store after events; an event that fails changes nothing. -/
def afterEvents (s : Store) : List Event → Store
  | [] => s
  | e :: rest =>
    match happen ws s e with
    | .ok s => afterEvents s rest
    | .error _ => afterEvents s rest

/-- **What events have shared**, when `R` was shared before them. -/
def sharing (s : Store) (R : String × String → String × String → Prop) :
    List Event → String × String → String × String → Prop
  | [] => R
  | e :: rest =>
    match happen ws s e with
    | .ok s => sharing s (e.share R) rest
    | .error _ => sharing s R rest

end Session

/-! ## Stores that grow -/

namespace Store

/-- The cell of an attribute of a named record. -/
def held? (s : Store) (h : String × String) : Option Nat :=
  (s.named.lookup h.1).bind (·.cell? h.2)

/-- A store **extends** another if it has more cells and is the same otherwise. -/
structure Extends (s s' : Store) : Prop where
  named : s'.named = s.named
  size : s.cells.size ≤ s'.cells.size
  value : ∀ cell < s.cells.size, s'.value cell = s.value cell

variable {s : Store}

theorem named_allocateAll (s : Store) (values : List (String × Value)) : (s.allocateAll values).1.named = s.named := by
  induction values generalizing s with
  | nil => rfl
  | cons entry rest ih => exact ih (s.allocate entry.2).1

theorem extends_allocateAll (s : Store) (values : List (String × Value)) : s.Extends (s.allocateAll values).1 where
  named := s.named_allocateAll values
  size := s.size_le_allocateAll values
  value _ h := s.value_allocateAll_of_lt values h

theorem extends_allocate (s : Store) (v : Value) : s.Extends (s.allocate v).1 :=
  s.extends_allocateAll [("", v)]

/-- New cells are not in the store before. -/
theorem size_le_of_lookup_allocateAll (s : Store) (values : List (String × Value)) {attr : String} {cell : Nat}
    (h : (s.allocateAll values).2.lookup attr = some cell) : s.cells.size ≤ cell := by
  induction values generalizing s with
  | nil => cases h
  | cons entry rest ih =>
    obtain ⟨key, v⟩ := entry
    rw [allocateAll_cons, List.lookup_cons] at h
    cases hkey : attr == key with
    | true =>
      rw [hkey] at h
      obtain rfl : s.cells.size = cell := Option.some.inj h
      exact Nat.le_refl _
    | false =>
      rw [hkey] at h
      have := ih _ h
      rw [size_allocate] at this
      omega

/-- Different attributes have different new cells. -/
theorem lookup_allocateAll_inj (s : Store) (values : List (String × Value)) {attr other : String} {cell : Nat}
    (h : (s.allocateAll values).2.lookup attr = some cell) (hother : (s.allocateAll values).2.lookup other = some cell) :
    attr = other := by
  induction values generalizing s with
  | nil => cases h
  | cons entry rest ih =>
    obtain ⟨key, v⟩ := entry
    rw [allocateAll_cons, List.lookup_cons] at h hother
    -- cells are given out in order, so what comes later has another cell
    have hlater {a : String} (ha : ((s.allocate v).1.allocateAll rest).2.lookup a = some cell) :
        cell ≠ s.cells.size := by
      have := size_le_of_lookup_allocateAll _ _ ha
      rw [size_allocate] at this
      omega
    cases hkey : attr == key with
    | true =>
      rw [hkey] at h
      cases hkey' : other == key with
      | true => rw [eq_of_beq hkey, eq_of_beq hkey']
      | false =>
        rw [hkey'] at hother
        exact absurd (Option.some.inj h).symm (hlater hother)
    | false =>
      rw [hkey] at h
      cases hkey' : other == key with
      | true =>
        rw [hkey'] at hother
        exact absurd (Option.some.inj hother).symm (hlater h)
      | false =>
        rw [hkey'] at hother
        exact ih _ h hother

theorem lookup_named_bind (s : Store) (var : String) (r : Record) (x : String) :
    (s.bind var r).named.lookup x = if x = var then some r else s.named.lookup x := by
  rw [bind, List.lookup_cons]
  by_cases hx : x = var
  · subst hx
    simp
  · have hfirst : (x == var) = false := by simpa using hx
    rw [hfirst, if_neg hx]
    dsimp only
    generalize s.named = named
    induction named with
    | nil => rfl
    | cons e rest ih =>
      obtain ⟨name, r'⟩ := e
      by_cases hname : name = var
      · subst hname
        simp [List.lookup_cons, hfirst, ih]
      · simp [List.lookup_cons, hname, ih]

theorem find_eq_ok_iff {x : String} {r : Record} : s.find x = .ok r ↔ s.named.lookup x = some r := by
  rw [find]
  cases s.named.lookup x <;> simp

theorem held?_bind (s : Store) (var : String) (r : Record) (h : String × String) :
    (s.bind var r).held? h = if h.1 = var then r.cell? h.2 else s.held? h := by
  rw [held?, lookup_named_bind, held?]
  split <;> rfl

theorem held?_of_find {x : String} {r : Record} (hfind : s.find x = .ok r) (attr : String) :
    s.held? (x, attr) = r.cell? attr := by
  rw [held?, find_eq_ok_iff.mp hfind]
  rfl

/-- No named record declares the attribute that stands for all of its attributes. -/
def Plain (s : Store) : Prop :=
  ∀ x r, s.find x = .ok r → r.type.declares "__dict__" = false

/-- A cell that holds something is in the store. -/
theorem lt_size_of_value {cell : Nat} (h : s.value cell ≠ .none) : cell < s.cells.size := by
  by_contra hge
  refine h ?_
  rw [value, Array.getD_eq_getD_getElem?, Array.getElem?_eq_none (by omega)]
  rfl

end Store

/-! ## What an event changes -/

/-- The list in a cell, before and after it grows; all other cells stay. -/
theorem Session.appendTo_eq_ok {s s' : Store} {cell : Nat} {v : Value} (happend : Session.appendTo s cell v = .ok s') :
    s'.named = s.named ∧ s'.cells.size = s.cells.size ∧
      (∃ items, s.value cell = .list items ∧ s'.value cell = .list (items ++ [v])) ∧
      ∀ other, other ≠ cell → s'.value other = s.value other := by
  rw [appendTo] at happend
  split at happend
  · rename_i items hitems
    cases happend
    have hlt : cell < s.cells.size := Store.lt_size_of_value (by simp [hitems])
    refine ⟨rfl, by simp, ⟨items, hitems, ?_⟩, ?_⟩
    · simp [Store.value, hlt]
    · intro other hother
      simp [Store.value, Ne.symm hother]
  · cases happend

/-- **What an event may change.**  Cells are added, and lists in cells grow; an attribute of a named record has the cell
that its origin had, or a new one of its own; a record with fixed attributes keeps its name unless this is given anew; and
types of records are from the wrappers or from invocations. -/
structure Traced (ws : List Wrapper) (s s' : Store) (e : Event) : Prop where
  size : s.cells.size ≤ s'.cells.size
  value : ∀ cell < s.cells.size, s'.value cell = s.value cell ∨
    ∃ items v, s.value cell = .list items ∧ s'.value cell = .list (items ++ [v])
  old : ∀ h c, s'.held? h = some c → ∀ o, e.origin h = some o → s.held? o = some c
  new : ∀ h c, s'.held? h = some c → e.origin h = none → s.cells.size ≤ c ∧ c < s'.cells.size
  distinct : ∀ h k c, s'.held? h = some c → s'.held? k = some c → e.origin h = none → e.origin k = none → h = k
  fixed : ∀ x r, s.find x = .ok r → r.type.frozen = true → e.naming? ≠ some x → s'.find x = .ok r
  types : ∀ x r, s'.find x = .ok r → (∃ y q, s.find y = .ok q ∧ q.type = r.type) ∨
    Wrapper.record r.type ∈ ws ∨ r.type = Invocation.recordType

namespace Traced

variable {ws : List Wrapper} {s s' : Store} {e : Event}

theorem of_origin_eq (hnamed : s'.named = s.named) (hsize : s.cells.size ≤ s'.cells.size)
    (hvalue : ∀ cell < s.cells.size, s'.value cell = s.value cell ∨
      ∃ items v, s.value cell = .list items ∧ s'.value cell = .list (items ++ [v]))
    (horigin : ∀ h, e.origin h = some h) : Traced ws s s' e := by
  have hheld (h : String × String) : s'.held? h = s.held? h := by rw [Store.held?, Store.held?, hnamed]
  have hfind (x : String) : s'.find x = s.find x := by rw [Store.find, Store.find, hnamed]
  refine ⟨hsize, hvalue, ?_, ?_, ?_, ?_, ?_⟩
  · intro h c hc o ho
    obtain rfl := Option.some.inj ((horigin h).symm.trans ho)
    rw [← hheld, hc]
  · intro h c _ hnone
    cases (horigin h).symm.trans hnone
  · intro h k c _ _ hnone
    cases (horigin h).symm.trans hnone
  · intro x r hr _ _
    rw [hfind, hr]
  · intro x r hr
    exact .inl ⟨x, r, (hfind x).symm.trans hr, rfl⟩

theorem of_extends (hext : s.Extends s') (horigin : ∀ h, e.origin h = some h) : Traced ws s s' e :=
  of_origin_eq hext.named hext.size (fun cell hcell => .inl (hext.value cell hcell)) horigin

theorem refl (horigin : ∀ h, e.origin h = some h) : Traced ws s s e :=
  of_extends ⟨rfl, Nat.le_refl _, fun _ _ => rfl⟩ horigin

/-- What appending to the list in a cell changes. -/
theorem of_grown {cell : Nat} {v : Value} (happend : Session.appendTo s cell v = .ok s')
    (horigin : ∀ h, e.origin h = some h) : Traced ws s s' e := by
  obtain ⟨hnamed, hsize, ⟨items, hbefore, hafter⟩, hothers⟩ := Session.appendTo_eq_ok happend
  refine of_origin_eq hnamed (Nat.le_of_eq hsize.symm) ?_ horigin
  intro other _
  by_cases hsame : other = cell
  · subst hsame
    exact .inr ⟨items, v, hbefore, hafter⟩
  · exact .inl (hothers other hsame)

/-- What naming a record changes in a store to which cells were added. -/
theorem of_bind {s₁ : Store} {x : String} {q : Record} (hext : s.Extends s₁)
    (horigin : ∀ h, h.1 ≠ x → e.origin h = some h)
    (hold : ∀ a c, q.cell? a = some c → ∀ o, e.origin (x, a) = some o → s.held? o = some c)
    (hnew : ∀ a c, q.cell? a = some c → e.origin (x, a) = none → s.cells.size ≤ c ∧ c < s₁.cells.size)
    (hdistinct : ∀ a b c, q.cell? a = some c → q.cell? b = some c → e.origin (x, a) = none →
      e.origin (x, b) = none → a = b)
    (hfixed : ∀ r, s.find x = .ok r → r.type.frozen = true → e.naming? = some x)
    (htype : (∃ y r, s.find y = .ok r ∧ r.type = q.type) ∨ Wrapper.record q.type ∈ ws ∨
      q.type = Invocation.recordType) : Traced ws s (s₁.bind x q) e := by
  have hheld (h : String × String) (c : Nat) (hc : (s₁.bind x q).held? h = some c) :
      h.1 = x ∧ q.cell? h.2 = some c ∨ h.1 ≠ x ∧ s.held? h = some c := by
    rw [Store.held?_bind] at hc
    split at hc
    · exact .inl ⟨‹_›, hc⟩
    · refine .inr ⟨‹_›, ?_⟩
      rw [← hc, Store.held?, Store.held?, hext.named]
  -- what another name has is from there
  have hown {h : String × String} (hnone : e.origin h = none) : h.1 = x := by
    by_contra hne
    cases (horigin h hne).symm.trans hnone
  refine ⟨hext.size, fun cell hcell => .inl (hext.value cell hcell), ?_, ?_, ?_, ?_, ?_⟩
  · rintro ⟨y, a⟩ c hc o ho
    rcases hheld _ c hc with ⟨rfl, hcell⟩ | ⟨hne, hcell⟩
    · exact hold a c hcell o ho
    · obtain rfl := Option.some.inj ((horigin _ hne).symm.trans ho)
      exact hcell
  · rintro ⟨y, a⟩ c hc hnone
    obtain rfl : y = x := hown hnone
    rcases hheld _ c hc with ⟨-, hcell⟩ | ⟨hne, -⟩
    · exact hnew a c hcell hnone
    · exact absurd rfl hne
  · rintro ⟨y, a⟩ ⟨z, b⟩ c hc hc' hnone hnone'
    obtain rfl : y = x := hown hnone
    obtain rfl : z = y := hown hnone'
    rcases hheld _ c hc with ⟨-, hcell⟩ | ⟨hne, -⟩
    · rcases hheld _ c hc' with ⟨-, hcell'⟩ | ⟨hne, -⟩
      · rw [hdistinct a b c hcell hcell' hnone hnone']
      · exact absurd rfl hne
    · exact absurd rfl hne
  · intro y r hr hfrozen hother
    have hne : y ≠ x := by
      rintro rfl
      exact hother (hfixed r hr hfrozen)
    rw [Store.find_eq_ok_iff] at hr ⊢
    rw [Store.lookup_named_bind, if_neg hne, hext.named, hr]
  · intro y r hr
    rw [Store.find_eq_ok_iff, Store.lookup_named_bind] at hr
    split at hr
    · cases hr
      exact htype
    · rw [hext.named] at hr
      exact .inl ⟨y, r, Store.find_eq_ok_iff.mpr hr, rfl⟩

/-- What naming a record changes all of whose attributes have new cells. -/
theorem of_fresh {x : String} {q : Record} (values : List (String × Value)) (hslots : q.slots = (s.allocateAll values).2)
    (horigin : ∀ h, e.origin h = if h.1 = x then none else some h)
    (hfixed : ∀ r, s.find x = .ok r → r.type.frozen = true → e.naming? = some x)
    (htype : (∃ y r, s.find y = .ok r ∧ r.type = q.type) ∨ Wrapper.record q.type ∈ ws ∨
      q.type = Invocation.recordType) : Traced ws s ((s.allocateAll values).1.bind x q) e := by
  have hcell (a : String) : q.cell? a = (s.allocateAll values).2.lookup a := by rw [Record.cell?, hslots]
  refine of_bind (s.extends_allocateAll values) ?_ ?_ ?_ ?_ hfixed htype
  · intro h hne
    rw [horigin, if_neg hne]
  · intro a c _ o ho
    rw [horigin, if_pos rfl] at ho
    cases ho
  · intro a c hc _
    rw [hcell] at hc
    exact ⟨s.size_le_of_lookup_allocateAll values hc, s.lt_of_lookup_allocateAll values hc⟩
  · intro a b c ha hb _ _
    rw [hcell] at ha hb
    exact s.lookup_allocateAll_inj values ha hb

theorem of_toRecord (c : Invocation) {x : String} (horigin : ∀ h, e.origin h = if h.1 = x then none else some h)
    (hnaming : e.naming? = some x) : Traced ws s ((c.toRecord s).1.bind x (c.toRecord s).2) e :=
  of_fresh [("program", .text c.program), ("args", .tuple (c.args.map .text))] rfl horigin (fun _ _ _ => hnaming)
    (.inr (.inr rfl))

/-- No event makes a record that declares the attribute that stands for all of its attributes. -/
theorem plain (hdict : ∀ t, Wrapper.record t ∈ ws → t.declares "__dict__" = false) (htraced : Traced ws s s' e)
    (hplain : s.Plain) : s'.Plain := by
  intro x r hr
  rcases htraced.types x r hr with ⟨y, q, hq, htype⟩ | hmem | hcommand
  · rw [← htype]
    exact hplain y q hq
  · exact hdict _ hmem
  · rw [hcommand]
    decide

end Traced

namespace Session

variable {ws : List Wrapper} {s s' : Store}

theorem mem_of_wrapper {name : String} {w : Wrapper} (h : wrapper ws name = .ok w) : w ∈ ws := by
  rw [wrapper] at h
  split at h
  · cases h
    exact List.mem_of_find?_eq_some ‹_›
  · cases h

/-- What making a record gives: new cells for all its attributes. -/
theorem make_fresh {t : RecordType} {given : List (String × Value)} {positional : Nat} {r : Record}
    (hmake : make s t given positional = .ok (s', r)) :
    s' = (s.allocateAll (initialValues t given)).1 ∧ r.slots = (s.allocateAll (initialValues t given)).2 ∧ r.type = t := by
  rw [make] at hmake
  split at hmake
  · cases hmake
  · obtain ⟨-, -, hmake⟩ := bind_eq_ok_iff.mp hmake
    dsimp only at hmake
    split at hmake
    · cases hmake
    · split at hmake
      · cases hmake
      · cases hmake
        exact ⟨rfl, rfl, rfl⟩

theorem traced_make {var name : String} {given : List (String × Value)} {positional : List Value} {answer : Answer}
    (hstep : step ws s (.make var name given positional) = .ok (answer, s')) :
    Traced ws s s' (.step (.make var name given positional)) := by
  rw [step] at hstep
  obtain ⟨w, hw, hstep⟩ := bind_eq_ok_iff.mp hstep
  cases w with
  | record t =>
    obtain ⟨⟨s₁, r⟩, hmake, hstep⟩ := bind_eq_ok_iff.mp hstep
    cases hstep
    obtain ⟨rfl, hslots, rfl⟩ := make_fresh hmake
    exact .of_fresh _ hslots (fun _ => rfl) (fun _ _ _ => rfl) (.inr (.inl (mem_of_wrapper hw)))
  | builder b =>
    dsimp only at hstep
    split at hstep
    · cases hstep
    · obtain ⟨c, -, hstep⟩ := bind_eq_ok_iff.mp hstep
      cases hstep
      exact .of_toRecord c (fun _ => rfl) rfl

/-- What setting an attribute gives: a new cell for it or, where a map takes the place of all attributes, new cells for
these. -/
theorem assign_eq_ok {r q : Record} {attr : String} {v : Value} (hassign : assign s r attr v = .ok (s', q)) :
    r.type.frozen = false ∧ q.type = r.type ∧
      ((attr = "__dict__" ∧ ∃ values, s' = (s.allocateAll values).1 ∧ q.slots = (s.allocateAll values).2) ∨
        (attr = "__dict__" → r.type.declares "__dict__" = true) ∧ s' = (s.allocate v).1 ∧
          q = r.point attr s.cells.size) := by
  rw [assign] at hassign
  split at hassign
  · cases hassign
  rename_i hopen
  refine ⟨Bool.eq_false_iff.mpr hopen, ?_⟩
  split at hassign
  · unfold setGuarded at hassign
    split at hassign
    · cases hassign
    split at hassign
    · cases hassign
    rename_i hguarded hclass hweak
    -- the one guarded attribute that can be set stands for all attributes
    have hdict : attr = "__dict__" := by
      rw [Bool.and_eq_true, List.contains_iff_mem] at hguarded
      simpa [Attribute.guarded, hclass, hweak] using hguarded.1
    cases v with
    | map entries =>
      cases hassign
      exact ⟨rfl, .inl ⟨hdict, _, rfl, rfl⟩⟩
    | _ => cases hassign
  · rename_i hfree
    cases hassign
    refine ⟨rfl, .inr ⟨?_, rfl, rfl⟩⟩
    rintro rfl
    simpa [Attribute.guarded] using hfree

theorem traced_assign (hplain : s.Plain) {var attr : String}
    {v : Value} {answer : Answer} (hstep : step ws s (.assign var attr v) = .ok (answer, s')) :
    Traced ws s s' (.step (.assign var attr v)) := by
  rw [step] at hstep
  obtain ⟨r, hfind, hstep⟩ := bind_eq_ok_iff.mp hstep
  obtain ⟨⟨s₁, q⟩, hassign, hstep⟩ := bind_eq_ok_iff.mp hstep
  cases hstep
  obtain ⟨hopen, htype, hassigned⟩ := assign_eq_ok hassign
  have hfixed (r' : Record) (hr' : s.find var = .ok r') (hfrozen : r'.type.frozen = true) :
      (Event.step (.assign var attr v)).naming? = some var := by
    cases hfind.symm.trans hr'
    cases hopen.symm.trans hfrozen
  -- all attributes are replaced, and have new cells, or one attribute has a new cell
  rcases hassigned with ⟨rfl, values, rfl, hslots⟩ | ⟨hdeclared, rfl, rfl⟩
  · refine .of_fresh values hslots ?_ hfixed (.inl ⟨var, r, hfind, htype.symm⟩)
    intro h
    simp [Event.origin]
  · have hattr : attr ≠ "__dict__" := by
      intro hdict
      cases (hplain var r hfind).symm.trans (hdeclared hdict)
    have horigin (h : String × String) : (Event.step (.assign var attr v)).origin h =
        if h.1 = var ∧ h.2 = attr then none else some h := by
      simp [Event.origin, hattr]
    have hself {a : String} (hnone : (Event.step (.assign var attr v)).origin (var, a) = none) : a = attr := by
      simpa [horigin] using hnone
    refine .of_bind (s.extends_allocate v) ?_ ?_ ?_ ?_ hfixed (.inl ⟨var, r, hfind, rfl⟩)
    · intro h hne
      rw [horigin, if_neg fun hvar => hne hvar.1]
    · intro a c hc o ho
      rw [horigin] at ho
      split at ho
      · cases ho
      · rename_i hother
        cases ho
        rw [Store.held?_of_find hfind, ← Record.cell?_point_ne _ fun ha => hother ⟨rfl, ha⟩]
        exact hc
    · intro a c hc hnone
      obtain rfl := hself hnone
      rw [Record.cell?_point, Option.some.injEq] at hc
      rw [← hc]
      exact ⟨Nat.le_refl _, by simp⟩
    · intro a b c _ _ hnone hnone'
      rw [hself hnone, hself hnone']

/-- In a row of cells by attribute, an attribute has a cell of a field with that attribute. -/
theorem exists_of_lookup_filterMap {fields : List RecordField} {cell : RecordField → Option Nat} {attr : String} {c : Nat}
    (h : (fields.filterMap fun f => (cell f).map (f.attr, ·)).lookup attr = some c) :
    ∃ f ∈ fields, f.attr = attr ∧ cell f = some c := by
  induction fields with
  | nil => cases h
  | cons f fields ih =>
    have hlater (h : (fields.filterMap fun f => (cell f).map (f.attr, ·)).lookup attr = some c) :
        ∃ f' ∈ f :: fields, f'.attr = attr ∧ cell f' = some c := by
      obtain ⟨f', hf', hcell⟩ := ih h
      exact ⟨f', List.mem_cons_of_mem _ hf', hcell⟩
    cases hcell : cell f with
    | none =>
      rw [List.filterMap_cons, hcell] at h
      exact hlater h
    | some c' =>
      rw [List.filterMap_cons, hcell, Option.map_some, List.lookup_cons] at h
      cases hattr : attr == f.attr with
      | true =>
        rw [hattr] at h
        exact ⟨f, List.mem_cons_self .., (eq_of_beq hattr).symm, hcell.trans h⟩
      | false =>
        rw [hattr] at h
        exact hlater h

/-- What replacing gives: new cells for the given values, and no other cells than the record had. -/
theorem replace_eq_ok {r q : Record} {given : List (String × Value)} (hreplace : replace s r given = .ok (s', q)) :
    s' = (s.allocateAll given).1 ∧ q.type = r.type ∧
      ∀ attr c, q.cell? attr = some c → replacedCell s r given attr = some c := by
  rw [replace] at hreplace
  obtain ⟨kept, -, hreplace⟩ := bind_eq_ok_iff.mp hreplace
  obtain ⟨-, -, hreplace⟩ := bind_eq_ok_iff.mp hreplace
  cases hreplace
  refine ⟨rfl, rfl, fun attr c hc => ?_⟩
  obtain ⟨f, -, rfl, hcell⟩ := exists_of_lookup_filterMap hc
  rw [replacedCell, Option.or_eq_some_iff]
  refine (Option.or_eq_some_iff.mp hcell).imp_right fun hold => ⟨hold.1, ?_⟩
  have hold := hold.2
  split at hold
  · exact hold
  · cases hold

/-- Replacing gives new values to the attributes that get new cells. -/
theorem origin_replace_of_some {var target attr : String} {given : List (String × Value)} {c : Nat}
    (hnew : (s.allocateAll given).2.lookup attr = some c) :
    (Event.step (.replace var target given)).origin (target, attr) = none := by
  refine (if_pos rfl).trans (if_pos ?_)
  rw [← s.lookup_allocateAll given attr, hnew]
  rfl

/-- Replacing takes all other attributes from the record that is replaced. -/
theorem origin_replace_of_none {var target attr : String} {given : List (String × Value)}
    (hnone : (s.allocateAll given).2.lookup attr = none) :
    (Event.step (.replace var target given)).origin (target, attr) = some (var, attr) := by
  refine (if_pos rfl).trans (if_neg ?_)
  rw [← s.lookup_allocateAll given attr, hnone]
  exact Bool.false_ne_true

theorem traced_replace {var target : String} {given : List (String × Value)} {answer : Answer}
    (hstep : step ws s (.replace var target given) = .ok (answer, s')) :
    Traced ws s s' (.step (.replace var target given)) := by
  rw [step] at hstep
  obtain ⟨r, hfind, hstep⟩ := bind_eq_ok_iff.mp hstep
  obtain ⟨⟨s₁, q⟩, hreplace, hstep⟩ := bind_eq_ok_iff.mp hstep
  cases hstep
  obtain ⟨rfl, htype, hcells⟩ := replace_eq_ok hreplace
  -- a cell whose attribute has no origin is new
  have hfresh {attr : String} {c : Nat} (hc : q.cell? attr = some c)
      (horigin : (Event.step (.replace var target given)).origin (target, attr) = none) :
      (s.allocateAll given).2.lookup attr = some c := by
    rcases Option.or_eq_some_iff.mp (hcells attr c hc) with hnew | ⟨hnone, -⟩
    · exact hnew
    · cases (origin_replace_of_none hnone).symm.trans horigin
  refine .of_bind (s.extends_allocateAll given) (fun h hne => if_neg hne) ?_ ?_ ?_ (fun _ _ _ => rfl)
    (.inl ⟨var, r, hfind, htype.symm⟩)
  · intro attr c hc o ho
    rcases Option.or_eq_some_iff.mp (hcells attr c hc) with hnew | ⟨hnone, hold⟩
    · cases (origin_replace_of_some hnew).symm.trans ho
    · cases (origin_replace_of_none hnone).symm.trans ho
      rw [Store.held?_of_find hfind, hold]
  · intro attr c hc horigin
    have hnew := hfresh hc horigin
    exact ⟨s.size_le_of_lookup_allocateAll _ hnew, s.lt_of_lookup_allocateAll _ hnew⟩
  · intro attr other c hc hc' horigin horigin'
    exact s.lookup_allocateAll_inj _ (hfresh hc horigin) (hfresh hc' horigin')

/-- What building an invocation under a name gives. -/
theorem build_eq_ok {name var : String} {record : Option (Option String)} {args : Option WordsGiven} {answer : Answer}
    (hstep : step ws s (.build name record args (some var)) = .ok (answer, s')) :
    ∃ c : Invocation, answer = .invocation c ∧ s' = (c.toRecord s).1.bind var (c.toRecord s).2 := by
  rw [step] at hstep
  obtain ⟨w, hw, hstep⟩ := bind_eq_ok_iff.mp hstep
  cases w with
  | record t => cases hstep
  | builder b =>
    obtain ⟨c, -, hstep⟩ := bind_eq_ok_iff.mp hstep
    cases hstep
    exact ⟨c, rfl, rfl⟩

theorem traced_build {name : String} {record : Option (Option String)} {args : Option WordsGiven}
    {target : Option String} {answer : Answer} (hstep : step ws s (.build name record args target) = .ok (answer, s')) :
    Traced ws s s' (.step (.build name record args target)) := by
  rw [step] at hstep
  obtain ⟨w, hw, hstep⟩ := bind_eq_ok_iff.mp hstep
  cases w with
  | record t => cases hstep
  | builder b =>
    obtain ⟨c, -, hstep⟩ := bind_eq_ok_iff.mp hstep
    cases target with
    | none =>
      cases hstep
      exact .refl fun _ => rfl
    | some var =>
      cases hstep
      exact .of_toRecord c (fun _ => rfl) rfl

/-- What appending through a record gives. -/
theorem append_eq_ok {var attr : String} {v : Value} {answer : Answer}
    (hstep : step ws s (.append var attr v) = .ok (answer, s')) :
    ∃ r cell, s.find var = .ok r ∧ r.cell? attr = some cell ∧ appendTo s cell v = .ok s' := by
  rw [step] at hstep
  obtain ⟨r, hfind, hstep⟩ := bind_eq_ok_iff.mp hstep
  split at hstep
  · cases hstep
  · rename_i cell hcell
    obtain ⟨s₁, happend, hstep⟩ := bind_eq_ok_iff.mp hstep
    cases hstep
    exact ⟨r, cell, hfind, hcell, happend⟩

/-- The steps that only read. -/
def IsReading : Step → Prop
  | .names | .fields _ | .doc _ | .equal _ _ | .describe _ | .render _ => True
  | .make .. | .assign .. | .append .. | .replace .. | .build .. => False

/-- A step that only reads leaves the store as it is. -/
theorem eq_of_isReading {st : Step} (hreading : IsReading st) {answer : Answer}
    (hstep : step ws s st = .ok (answer, s')) : s' = s := by
  cases st with
  | names =>
    cases hstep
    rfl
  | fields name =>
    obtain ⟨w, -, hstep⟩ := bind_eq_ok_iff.mp hstep
    cases w with
    | record t =>
      cases hstep
      rfl
    | builder b => cases hstep
  | doc name =>
    obtain ⟨w, -, hstep⟩ := bind_eq_ok_iff.mp hstep
    cases hstep
    rfl
  | equal first second =>
    obtain ⟨r, -, hstep⟩ := bind_eq_ok_iff.mp hstep
    obtain ⟨q, -, hstep⟩ := bind_eq_ok_iff.mp hstep
    cases hstep
    rfl
  | describe var =>
    obtain ⟨r, -, hstep⟩ := bind_eq_ok_iff.mp hstep
    cases hstep
    rfl
  | render var =>
    obtain ⟨r, -, hstep⟩ := bind_eq_ok_iff.mp hstep
    obtain ⟨args, -, hstep⟩ := bind_eq_ok_iff.mp hstep
    cases hstep
    rfl
  | _ => cases hreading

theorem traced_of_isReading {st : Step} (hreading : IsReading st) {answer : Answer}
    (hstep : step ws s st = .ok (answer, s')) : Traced ws s s' (.step st) := by
  obtain rfl := eq_of_isReading hreading hstep
  refine .refl fun h => ?_
  cases st with
  | make | assign | append | replace | build => cases hreading
  | _ => rfl

theorem traced_append {var attr : String} {v : Value} {answer : Answer}
    (hstep : step ws s (.append var attr v) = .ok (answer, s')) : Traced ws s s' (.step (.append var attr v)) := by
  obtain ⟨r, cell, -, -, happend⟩ := append_eq_ok hstep
  exact .of_grown happend fun _ => rfl

/-- **What any event changes**, where no record declares the attribute that stands for all of its attributes. -/
theorem traced_of_happen (hplain : s.Plain) {e : Event}
    (h : happen ws s e = .ok s') : Traced ws s s' e := by
  cases e with
  | list items =>
    cases h
    exact .of_extends (s.extends_allocate _) fun _ => rfl
  | extend cell v => exact .of_grown h fun _ => rfl
  | step st =>
    obtain ⟨⟨answer, s₁⟩, hstep, rfl⟩ := map_eq_ok_iff.mp h
    cases st with
    | make var name given positional => exact traced_make hstep
    | assign var attr v => exact traced_assign hplain hstep
    | replace var target given => exact traced_replace hstep
    | build name record args target => exact traced_build hstep
    | append var attr v => exact traced_append hstep
    | _ => exact traced_of_isReading trivial hstep

end Session

/-! ## What lies in one cell -/

/-- **The invariant of sharing**: cells that are held are in the store, no record declares the attribute that stands for
all of its attributes, and two attributes hold one cell exactly if `R` says that they share it. -/
structure WellShared (s : Store) (R : String × String → String × String → Prop) : Prop where
  stored : ∀ h c, s.held? h = some c → c < s.cells.size
  plain : s.Plain
  shared : ∀ h k c d, s.held? h = some c → s.held? k = some d → (c = d ↔ R h k)

namespace WellShared

variable {ws : List Wrapper} {s s' : Store} {R : String × String → String × String → Prop} {e : Event}

theorem empty : WellShared {} Eq where
  stored := by rintro h c ⟨⟩
  plain := by rintro x r ⟨⟩
  shared := by rintro h k c d ⟨⟩

/-- **An event keeps the invariant.** -/
theorem happen (hdict : ∀ t, Wrapper.record t ∈ ws → t.declares "__dict__" = false) (hshared : WellShared s R)
    (hevent : Session.happen ws s e = .ok s') : WellShared s' (e.share R) := by
  have htraced := Session.traced_of_happen hshared.plain hevent
  refine ⟨?_, htraced.plain hdict hshared.plain, ?_⟩
  · intro h c hc
    cases ho : e.origin h with
    | none => exact (htraced.new h c hc ho).2
    | some o => exact Nat.lt_of_lt_of_le (hshared.stored o c (htraced.old h c hc o ho)) htraced.size
  · intro h k c d hc hd
    have hsame (heq : h = k) : c = d := by
      subst heq
      exact Option.some.inj (hc.symm.trans hd)
    cases ho : e.origin h with
    | none =>
      constructor
      · rintro rfl
        cases ho' : e.origin k with
        | none => exact .inl (htraced.distinct h k c hc hd ho ho')
        | some o' =>
          -- a new cell is not one that was held before
          have hnew := (htraced.new h c hc ho).1
          have hold := hshared.stored o' c (htraced.old k c hd o' ho')
          omega
      · rintro (heq | ⟨o, o', ho', -⟩)
        · exact hsame heq
        · cases ho.symm.trans ho'
    | some o =>
      have hold := htraced.old h c hc o ho
      constructor
      · rintro rfl
        cases ho' : e.origin k with
        | none =>
          have hnew := (htraced.new k c hd ho').1
          have hlt := hshared.stored o c hold
          omega
        | some o' => exact .inr ⟨o, o', ho, ho', (hshared.shared o o' c c hold (htraced.old k c hd o' ho')).mp rfl⟩
      · rintro (heq | ⟨o₁, o', ho₁, ho', hR⟩)
        · exact hsame heq
        · obtain rfl := Option.some.inj (ho.symm.trans ho₁)
          exact (hshared.shared o o' c d hold (htraced.old k d hd o' ho')).mpr hR

/-- **Events keep the invariant**: what they have shared is what lies in one cell. -/
theorem afterEvents (hdict : ∀ t, Wrapper.record t ∈ ws → t.declares "__dict__" = false) (hshared : WellShared s R)
    (events : List Event) : WellShared (Session.afterEvents ws s events) (Session.sharing ws s R events) := by
  induction events generalizing s R with
  | nil => exact hshared
  | cons e events ih =>
    rw [Session.afterEvents, Session.sharing]
    cases hevent : Session.happen ws s e with
    | ok s' => exact ih (hshared.happen hdict hevent)
    | error fault => exact ih hshared

end WellShared

/-! ## Snapshots -/

/-- **The record of an invocation**: its attributes are fixed, and hold the program and the arguments. -/
structure Record.Shows (r : Record) (s : Store) (c : Invocation) : Prop where
  type : r.type = Invocation.recordType
  program : r.get s "program" = .text c.program
  args : r.get s "args" = .tuple (c.args.map .text)

namespace Record.Shows

variable {ws : List Wrapper} {r : Record} {s s' : Store} {c : Invocation} {e : Event}

theorem of_toRecord (c : Invocation) (s : Store) : (c.toRecord s).2.Shows (c.toRecord s).1 c := by
  have hget (attr : String) : (c.toRecord s).2.get (c.toRecord s).1 attr =
      (([("program", .text c.program), ("args", .tuple (c.args.map .text))] : List (String × Value)).lookup attr).getD
        .none := by
    rw [Record.get_eq, ← s.lookup_allocateAll]
    rfl
  exact ⟨rfl, hget "program", hget "args"⟩

theorem bind (hshows : r.Shows s c) (var : String) : r.Shows (s.bind var r) c :=
  ⟨hshows.type, hshows.program, hshows.args⟩

/-- A record shows one invocation. -/
theorem unique {c' : Invocation} (hshows : r.Shows s c) (hshows' : r.Shows s c') : c = c' := by
  obtain ⟨program, args⟩ := c
  obtain ⟨program', args'⟩ := c'
  have hprogram := hshows.program.symm.trans hshows'.program
  have hargs := hshows.args.symm.trans hshows'.args
  simp only [Value.text.injEq, Value.tuple.injEq] at hprogram hargs
  have hinj : Function.Injective Value.text := fun _ _ h => Value.text.inj h
  rw [hprogram, List.map_injective_iff.mpr hinj hargs]

theorem assign_eq (hshows : r.Shows s c) (attr : String) (v : Value) :
    Session.assign s r attr v = .error (.fixedAttribute attr) := by
  rw [Session.assign, hshows.type]
  rfl

/-- What is no list is not changed by any event. -/
theorem happen (hshows : r.Shows s c) (htraced : Traced ws s s' e) : r.Shows s' c := by
  have hget {attr : String} {v : Value} (hv : r.get s attr = v) (hnone : v ≠ .none) (hlist : ∀ items, v ≠ .list items) :
      r.get s' attr = v := by
    rw [Record.get] at hv ⊢
    cases hcell : r.cell? attr with
    | none =>
      rw [hcell] at hv
      exact absurd hv.symm hnone
    | some cell =>
      rw [hcell] at hv
      dsimp only at hv ⊢
      have hlt : cell < s.cells.size := Store.lt_size_of_value (hv ▸ hnone)
      rcases htraced.value cell hlt with hsame | ⟨items, _, hitems, -⟩
      · rw [hsame, hv]
      · exact absurd (hv.symm.trans hitems) (hlist items)
  exact ⟨hshows.type, hget hshows.program (by simp) (by simp), hget hshows.args (by simp) (by simp)⟩

/-- **A snapshot**: whatever happens, the record shows the invocation. -/
theorem afterEvents (hdict : ∀ t, Wrapper.record t ∈ ws → t.declares "__dict__" = false) (hplain : s.Plain)
    (hshows : r.Shows s c) (events : List Event) : r.Shows (Session.afterEvents ws s events) c := by
  induction events generalizing s with
  | nil => exact hshows
  | cons e events ih =>
    rw [Session.afterEvents]
    cases hevent : Session.happen ws s e with
    | ok s' =>
      have htraced := Session.traced_of_happen hplain hevent
      exact ih (htraced.plain hdict hplain) (hshows.happen htraced)
    | error fault => exact ih hplain hshows

end Record.Shows

/-- A record with fixed attributes keeps its name until this is given anew. -/
theorem Session.find_afterEvents {ws : List Wrapper} (hdict : ∀ t, Wrapper.record t ∈ ws → t.declares "__dict__" = false)
    {s : Store} (hplain : s.Plain) {x : String} {r : Record} (hfind : s.find x = .ok r) (hfrozen : r.type.frozen = true)
    {events : List Event} (hnaming : ∀ e ∈ events, e.naming? ≠ some x) :
    (Session.afterEvents ws s events).find x = .ok r := by
  induction events generalizing s with
  | nil => exact hfind
  | cons e events ih =>
    rw [List.forall_mem_cons] at hnaming
    rw [Session.afterEvents]
    cases hevent : Session.happen ws s e with
    | ok s' =>
      have htraced := Session.traced_of_happen hplain hevent
      exact ih (htraced.plain hdict hplain) (htraced.fixed x r hfind hfrozen hnaming.1) hnaming.2
    | error fault => exact ih hplain hfind hnaming.2

/-! ## What a list that grows changes -/

/-- What differs where arguments lengthen. -/
theorem Render.Lengthens.ne_iff {isTheirs : Prop} {before after : Except RenderError (List String)}
    (h : Render.Lengthens isTheirs before after) : after ≠ before ↔ (∃ args, before = .ok args) ∧ isTheirs := by
  cases before with
  | error e => simp [h.refused e rfl]
  | ok args =>
    obtain ⟨args', rfl, hstays, hlonger⟩ := h.rendered args rfl
    constructor
    · intro hne
      refine ⟨⟨args, rfl⟩, ?_⟩
      by_contra hnot
      rw [hstays hnot] at hne
      exact hne rfl
    · rintro ⟨-, htheirs⟩ heq
      have := hlonger htheirs
      rw [Except.ok.inj heq] at this
      omega

namespace Session

variable {s s' : Store} {cell : Nat} {v : Value}

/-- A list that grows does not change by which fields a record is read. -/
theorem fields_grown (happend : appendTo s cell v = .ok s') (q : Record) : q.fields s' = q.fields s := by
  obtain ⟨-, -, ⟨items, hbefore, hafter⟩, hothers⟩ := appendTo_eq_ok happend
  rw [Record.fields, Record.fields]
  cases htable : q.cell? Attribute.fieldTable with
  | none => rfl
  | some other =>
    by_cases hsame : other = cell
    · subst hsame
      simp only [Option.map_some, hbefore, hafter]
      rfl
    · simp only [Option.map_some, hothers other hsame]

/-- **A list that grows changes what is rendered** from the records that have its cell in an attribute with a flag, as
far as anything is, and from no others. -/
theorem render_grown_iff (happend : appendTo s cell v = .ok s') (q : Record) :
    q.render s' ≠ q.render s ↔ (∃ args, q.render s = .ok args) ∧
      ∃ fields, q.fields s = .ok fields ∧ ∃ f ∈ fields, f.flag?.isSome ∧ q.cell? f.attr = some cell := by
  obtain ⟨-, -, ⟨items, hbefore, hafter⟩, hothers⟩ := appendTo_eq_ok happend
  rw [Record.render, Record.render, fields_grown happend]
  cases hfields : q.fields s with
  | error e =>
    constructor
    · intro hne
      exact absurd rfl hne
    · rintro ⟨-, fields, ⟨⟩, -⟩
  | ok fields =>
    have hlengthens : Render.Lengthens (∃ f ∈ fields, f.flag?.isSome ∧ q.cell? f.attr = some cell)
        (renderFields (fields.map fun f => (f.flag?, q.get s f.attr)))
        (renderFields (fields.map fun f => (f.flag?, q.get s' f.attr))) := by
      refine renderFields_grown fields RecordField.flag? (v := v) (fun f => q.cell? f.attr = some cell) ?_ ?_
      · intro f _ hother
        rw [Record.get_eq, Record.get_eq]
        cases hcell : q.cell? f.attr with
        | none => rfl
        | some other =>
          have hne : other ≠ cell := fun heq => hother (heq ▸ hcell)
          simp only [Option.map_some, hothers other hne]
      · intro f _ hcell
        refine ⟨items, ?_, ?_⟩
        · rw [Record.get_eq, hcell, Option.map_some, hbefore]
          rfl
        · rw [Record.get_eq, hcell, Option.map_some, hafter]
          rfl
    have hinj : ∀ e e', SessionError.render e = .render e' → e = e' := fun _ _ h => SessionError.render.inj h
    simp only [bind_ok, Except.ok.injEq, exists_eq_left', mapError_eq_ok_iff]
    rw [← hlengthens.ne_iff, ne_eq, ne_eq, mapError_inj hinj]

end Session

namespace CommandGraph

variable {g : CommandGraph} {exclude : List String} {ws : List Wrapper}

/-- The types of option records are those of planned commands, which can be declared. -/
theorem exists_plan_of_record (hws : g.wrappers exclude = .ok ws) {t : RecordType} (ht : Wrapper.record t ∈ ws) :
    ∃ (p : CommandPlan) (name : String), p.declarationFault? = none ∧ t = p.recordType name := by
  cases hplan : g.plan exclude with
  | error e =>
    rw [wrappers, hplan] at hws
    cases hws
  | ok plans =>
    obtain ⟨hfault, rfl⟩ := (wrappers_eq_ok hplan).mp hws
    obtain ⟨p, hp, hw⟩ := List.mem_flatMap.mp ht
    rcases CommandPlan.mem_wrappers.mp hw with ⟨name, -, hrecord⟩ | hbuilder
    · exact ⟨p, name, hfault p hp, Wrapper.record.inj hrecord⟩
    · cases hbuilder

theorem dict_of_record (hws : g.wrappers exclude = .ok ws) {t : RecordType} (ht : Wrapper.record t ∈ ws) :
    t.declares "__dict__" = false := by
  obtain ⟨p, name, hfault, rfl⟩ := exists_plan_of_record hws ht
  rw [Bool.eq_false_iff]
  intro hdeclares
  exact CommandPlan.dict_not_mem hfault (CommandPlan.declares_recordType.mp hdeclares)

/-- A field of an option record has a flag unless its type answers for the attribute itself. -/
theorem flag_isSome_iff (hws : g.wrappers exclude = .ok ws) {t : RecordType} (ht : Wrapper.record t ∈ ws)
    {f : RecordField} (hf : f ∈ t.fields) : f.flag?.isSome ↔ f.attr ∉ Attribute.answered := by
  obtain ⟨p, name, -, rfl⟩ := exists_plan_of_record hws ht
  obtain ⟨planned, -, rfl⟩ := List.mem_map.mp hf
  rw [Field.declaration]
  by_cases hanswered : planned.attr ∈ Attribute.answered <;> simp [hanswered]

end CommandGraph

end CommandWrap
