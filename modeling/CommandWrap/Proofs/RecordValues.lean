import CommandWrap.Session
import Mathlib.Data.List.Basic

/-!
# The values of a record

The cells of a store only grow in number, so a record keeps its values while other values are stored.
What a record holds is said by one invariant (`Record.Holds`): every declared attribute has a known
value, every cell of the record is in the store, and the record has nothing of its own in the place of
the table of its fields.  Making a record establishes it (`make_holds`), and giving an attribute a value
and replacing attributes preserve it (`setAttribute_holds`, `replace_holds`); what they change is the one value
or the values that are given.  A record whose values are known is rendered from them alone
(`Record.Holds.render_eq`).
-/
namespace CommandWrap

/-! ## Cells -/

namespace Store

variable (s : Store)

@[simp] theorem value_bind (var : String) (r : Record) (cell : Nat) :
    (s.bind var r).value cell = s.value cell := rfl

@[simp] theorem find_bind (var : String) (r : Record) : (s.bind var r).find var = .ok r := by
  simp [bind, find]

theorem value_allocate_of_lt {cell : Nat} (v : Value) (h : cell < s.cells.size) :
    (s.allocate v).1.value cell = s.value cell := by
  simp [allocate, value, Array.getElem?_push, Nat.ne_of_lt h]

@[simp] theorem value_allocate_new (v : Value) : (s.allocate v).1.value (s.allocate v).2 = v := by
  simp [allocate, value]

@[simp] theorem size_allocate (v : Value) : (s.allocate v).1.cells.size = s.cells.size + 1 := by
  simp [allocate]

@[simp] theorem cell_allocate (v : Value) : (s.allocate v).2 = s.cells.size := rfl

theorem allocateAll_cons (attr : String) (v : Value) (rest : List (String × Value)) :
    s.allocateAll ((attr, v) :: rest) =
      (((s.allocate v).1.allocateAll rest).1,
        (attr, s.cells.size) :: ((s.allocate v).1.allocateAll rest).2) := rfl

theorem size_le_allocateAll (values : List (String × Value)) :
    s.cells.size ≤ (s.allocateAll values).1.cells.size := by
  induction values generalizing s with
  | nil => exact Nat.le_refl _
  | cons entry rest ih =>
    obtain ⟨attr, v⟩ := entry
    rw [allocateAll_cons]
    have := ih (s.allocate v).1
    rw [size_allocate] at this
    exact Nat.le_of_succ_le this

/-- Storing more values leaves the cells that are there as they are. -/
theorem value_allocateAll_of_lt {cell : Nat} (values : List (String × Value))
    (h : cell < s.cells.size) : (s.allocateAll values).1.value cell = s.value cell := by
  induction values generalizing s with
  | nil => rfl
  | cons entry rest ih =>
    obtain ⟨attr, v⟩ := entry
    rw [allocateAll_cons, ih, value_allocate_of_lt s v h]
    rw [size_allocate]
    omega

/-- The new cells are in the store. -/
theorem lt_of_lookup_allocateAll (values : List (String × Value)) {attr : String} {cell : Nat}
    (h : (s.allocateAll values).2.lookup attr = some cell) :
    cell < (s.allocateAll values).1.cells.size := by
  induction values generalizing s with
  | nil => cases h
  | cons entry rest ih =>
    obtain ⟨key, v⟩ := entry
    rw [allocateAll_cons, List.lookup_cons] at h
    rw [allocateAll_cons]
    cases hkey : attr == key with
    | true =>
      rw [hkey] at h
      obtain rfl : s.cells.size = cell := Option.some.inj h
      have := size_le_allocateAll (s.allocate v).1 rest
      rw [size_allocate] at this
      exact Nat.lt_of_succ_le this
    | false =>
      rw [hkey] at h
      exact ih _ h

/-- The new cell of an attribute holds the value that is given for it. -/
theorem lookup_allocateAll (values : List (String × Value)) (attr : String) :
    ((s.allocateAll values).2.lookup attr).map (s.allocateAll values).1.value =
      values.lookup attr := by
  induction values generalizing s with
  | nil => rfl
  | cons entry rest ih =>
    obtain ⟨key, v⟩ := entry
    rw [allocateAll_cons, List.lookup_cons, List.lookup_cons]
    cases hkey : attr == key with
    | true =>
      have hlt : s.cells.size < (s.allocate v).1.cells.size := by simp
      have hnew : (s.allocate v).1.value s.cells.size = v := value_allocate_new s v
      simp only [Option.map_some]
      rw [value_allocateAll_of_lt _ rest hlt, hnew]
    | false => exact ih _

end Store

/-! ## Attributes of records -/

namespace RecordType

theorem declares_iff {t : RecordType} {attr : String} :
    t.declares attr = true ↔ ∃ f ∈ t.fields, f.attr = attr := by
  simp [declares]

theorem declares_of_mem {t : RecordType} {f : RecordField} (h : f ∈ t.fields) :
    t.declares f.attr = true :=
  declares_iff.mpr ⟨f, h, rfl⟩

/-- Arguments by name are fine when each names a declared attribute. -/
theorem checkArguments_of_declared {t : RecordType} {given : List (String × Value)}
    (h : ∀ e ∈ given, t.declares e.1 = true) : t.checkArguments (given.map Prod.fst) 0 = .ok () := by
  have hfind : (given.map Prod.fst).find? (fun attr => !t.declares attr) = none := by
    rw [List.find?_eq_none]
    intro attr hattr
    obtain ⟨e, he, rfl⟩ := List.mem_map.mp hattr
    simp [h e he]
  rw [checkArguments, hfind]
  rfl

end RecordType

namespace Record

variable {r : Record} {s : Store}

theorem lookup_filter_ne (slots : List (String × Nat)) {attr other : String} (h : other ≠ attr) :
    (slots.filter (·.1 != attr)).lookup other = slots.lookup other := by
  induction slots with
  | nil => rfl
  | cons slot rest ih =>
    obtain ⟨key, cell⟩ := slot
    by_cases hkey : key = attr
    · subst hkey
      have hne : (other == key) = false := by simpa using h
      simp [List.lookup_cons, hne, ih]
    · simp [List.lookup_cons, hkey, ih]

@[simp] theorem cell?_point (attr : String) (cell : Nat) : (r.point attr cell).cell? attr = some cell := by
  simp [point, cell?]

theorem cell?_point_ne {attr other : String} (cell : Nat) (h : other ≠ attr) :
    (r.point attr cell).cell? other = r.cell? other := by
  have hne : (other == attr) = false := by simpa using h
  rw [cell?, point, List.lookup_cons, hne]
  exact lookup_filter_ne r.slots h

@[simp] theorem type_point (attr : String) (cell : Nat) : (r.point attr cell).type = r.type := rfl

theorem get_eq (attr : String) : r.get s attr = ((r.cell? attr).map s.value).getD .none := by
  rw [get]
  cases r.cell? attr <;> rfl

/-- A record is read by the fields of its type where nothing stands in their place. -/
theorem fields_eq (hgetter : r.type.declares Attribute.getter = false)
    (htable : r.cell? Attribute.fieldTable = none) : r.fields s = .ok r.type.fields := by
  simp [Record.fields, hgetter, htable]

/-- **The record holds the values**, as far as its attributes are declared. -/
structure Holds (r : Record) (s : Store) (values : String → Value) : Prop where
  value : ∀ f ∈ r.type.fields, r.get s f.attr = values f.attr
  stored : ∀ attr cell, r.cell? attr = some cell → cell < s.cells.size
  table : r.cell? Attribute.fieldTable = none

namespace Holds

variable {values : String → Value}

/-- A record whose values are known is rendered from them. -/
theorem render_eq (h : r.Holds s values) (hgetter : r.type.declares Attribute.getter = false) :
    r.render s =
      (renderFields (r.type.fields.map fun f => (f.flag?, values f.attr))).mapError .render := by
  have hfields : r.fields s = .ok r.type.fields := fields_eq hgetter h.table
  have hmap : (r.type.fields.map fun f => (f.flag?, r.get s f.attr)) =
      r.type.fields.map fun f => (f.flag?, values f.attr) := by
    refine List.map_congr_left fun f hf => ?_
    rw [h.value f hf]
  rw [render, hfields, ← hmap]
  rfl

theorem bind (h : r.Holds s values) (var : String) : r.Holds (s.bind var r) values :=
  ⟨h.value, h.stored, h.table⟩

end Holds

end Record

/-! ## Making and changing records -/

/-- The attributes of a type neither make records nor read them. -/
structure RecordType.Plain (t : RecordType) : Prop where
  makers : ∀ attr ∈ Attribute.makers, t.declares attr = false
  readers : ∀ attr ∈ Attribute.readers, t.declares attr = false
  open_ : t.frozen = false

namespace Session

variable {s : Store} {t : RecordType}

theorem lookup_initialValues (given : List (String × Value)) {f : RecordField} (hf : f ∈ t.fields) :
    (initialValues t given).lookup f.attr = some ((given.lookup f.attr).getD .none) := by
  rw [initialValues]
  generalize t.fields = fields at hf ⊢
  induction fields with
  | nil => cases hf
  | cons d rest ih =>
    rw [List.map_cons, List.lookup_cons]
    by_cases hattr : f.attr = d.attr
    · simp [hattr]
    · have hne : (f.attr == d.attr) = false := by simpa using hattr
      rcases List.mem_cons.mp hf with rfl | hf
      · exact absurd rfl hattr
      · rw [hne]
        exact ih hf

theorem lookup_initialValues_eq_none (given : List (String × Value)) {attr : String}
    (h : t.declares attr = false) : (initialValues t given).lookup attr = none := by
  rw [List.lookup_eq_none_iff]
  intro entry hentry
  obtain ⟨f, hf, rfl⟩ := List.mem_map.mp hentry
  have : t.declares f.attr = true := RecordType.declares_of_mem hf
  have hne : attr ≠ f.attr := by
    rintro rfl
    rw [h] at this
    cases this
  simpa using hne

/-- A record can be made when no field stands in the place of what makes it.  Its attributes are the
declared ones with their initial values. -/
theorem make_ok (hmakers : ∀ attr ∈ Attribute.makers, t.declares attr = false)
    {given : List (String × Value)} (hgiven : ∀ e ∈ given, t.declares e.1 = true) :
    ∃ s' r, make s t given 0 = .ok (s', r) ∧ r.type = t ∧
      (∀ attr, (r.cell? attr).map s'.value = (initialValues t given).lookup attr) ∧
      ∀ attr cell, r.cell? attr = some cell → cell < s'.cells.size := by
  have halloc : Attribute.allocators.any t.declares = false := by
    rw [List.any_eq_false]
    intro attr hattr
    simp [hmakers attr (List.mem_append_left _ hattr)]
  have hsetter : t.declares Attribute.setter = false := hmakers _ (by simp [Attribute.makers])
  have hfinisher : (initialValues t given).lookup Attribute.finisher = none :=
    lookup_initialValues_eq_none given (hmakers _ (by simp [Attribute.makers]))
  have hargs : t.checkArguments (given.map Prod.fst) 0 = .ok () := RecordType.checkArguments_of_declared hgiven
  refine ⟨(s.allocateAll (initialValues t given)).1,
    { type := t, slots := (s.allocateAll (initialValues t given)).2 }, ?_, rfl, ?_, ?_⟩
  · simp only [make, halloc, hargs, hsetter, hfinisher]
    rfl
  · exact Store.lookup_allocateAll s _
  · intro attr cell hcell
    exact Store.lt_of_lookup_allocateAll s _ hcell

/-- No record can be made when a field stands in the place of what makes it. -/
theorem make_error {attr : String} (hattr : attr ∈ Attribute.makers) (hd : t.declares attr = true)
    (given : List (String × Value)) (positional : Nat) :
    ∃ e, make s t given positional = .error e := by
  rw [make]
  by_cases halloc : Attribute.allocators.any t.declares = true
  · exact ⟨_, by rw [if_pos halloc]; rfl⟩
  rw [if_neg halloc]
  cases hargs : t.checkArguments (given.map Prod.fst) positional with
  | error e => exact ⟨e, rfl⟩
  | ok _ =>
    by_cases hsetter : t.declares Attribute.setter = true
    · exact ⟨_, by rw [if_pos hsetter]; rfl⟩
    rw [if_neg hsetter]
    -- what remains is the attribute that is called last, which has a value by now
    have hfinisher : attr = Attribute.finisher := by
      rcases List.mem_append.mp hattr with hmem | hmem
      · exact absurd (List.any_eq_true.mpr ⟨attr, hmem, hd⟩) halloc
      rcases List.mem_cons.mp hmem with rfl | hmem
      · exact absurd hd hsetter
      · exact List.mem_singleton.mp hmem
    obtain ⟨f, hf, hfattr⟩ := RecordType.declares_iff.mp (hfinisher ▸ hd)
    have hlookup := lookup_initialValues given hf
    rw [hfattr] at hlookup
    exact ⟨.notCallable ((given.lookup Attribute.finisher).getD .none).kind, by
      simp only [bind, Except.bind, hlookup]⟩

/-- **A new record holds the given values**, and nothing for the attributes that are not given. -/
theorem make_holds (hplain : t.Plain) {given : List (String × Value)}
    (hgiven : ∀ e ∈ given, t.declares e.1 = true) :
    ∃ s' r, make s t given 0 = .ok (s', r) ∧ r.type = t ∧
      r.Holds s' fun attr => (given.lookup attr).getD .none := by
  obtain ⟨s', r, hmake, hr, hvalues, hstored⟩ := make_ok (s := s) hplain.makers hgiven
  refine ⟨s', r, hmake, hr, ?_, hstored, ?_⟩
  · intro f hf
    rw [hr] at hf
    rw [Record.get_eq, hvalues, lookup_initialValues given hf]
    rfl
  · have hnone := hvalues Attribute.fieldTable
    rw [lookup_initialValues_eq_none given (hplain.readers _ (by simp [Attribute.readers]))] at hnone
    exact Option.map_eq_none_iff.mp hnone

/-- **An attribute that is given a value holds it**, and the others hold what they held. -/
theorem setAttribute_holds {r : Record} {values : String → Value} (h : r.Holds s values)
    {attr : String} (v : Value) (hattr : attr ≠ Attribute.fieldTable) :
    (setAttribute s r attr v).2.Holds (setAttribute s r attr v).1
      fun a => if a = attr then v else values a := by
  have hlt {cell : Nat} (hcell : cell < s.cells.size) : cell < (s.allocate v).1.cells.size := by
    rw [Store.size_allocate]
    omega
  refine ⟨?_, ?_, ?_⟩
  · intro f hf
    show (r.point attr s.cells.size).get (s.allocate v).1 f.attr = _
    rw [Record.get_eq]
    -- the attribute that is set has the new cell, and the others keep theirs
    by_cases ha : f.attr = attr
    · rw [if_pos ha, ha, Record.cell?_point]
      exact Store.value_allocate_new s v
    · rw [if_neg ha, Record.cell?_point_ne _ ha, ← h.value f hf, Record.get_eq]
      cases hcell : r.cell? f.attr with
      | none => rfl
      | some cell => exact Store.value_allocate_of_lt s v (h.stored _ _ hcell)
  · intro a cell hcell
    by_cases ha : a = attr
    · subst ha
      obtain rfl : s.cells.size = cell := by simpa [setAttribute] using hcell
      show s.cells.size < (s.allocate v).1.cells.size
      simp
    · have hold : r.cell? a = some cell := by
        rw [← hcell]
        exact (Record.cell?_point_ne _ ha).symm
      exact hlt (h.stored _ _ hold)
  · show (r.point attr s.cells.size).cell? Attribute.fieldTable = none
    rw [Record.cell?_point_ne _ hattr.symm]
    exact h.table

/-- Attributes are set freely unless they are guarded and not declared. -/
theorem assign_eq {r : Record} (hopen : r.type.frozen = false) {attr : String} (v : Value)
    (hattr : attr ∈ Attribute.guarded → r.type.declares attr = true) :
    assign s r attr v = .ok (setAttribute s r attr v) := by
  have hfree : (Attribute.guarded.contains attr && !r.type.declares attr) = false := by
    by_cases hg : attr ∈ Attribute.guarded
    · simp [hattr hg]
    · simp [hg]
  rw [assign, hopen, hfree]
  rfl

/-- A guarded attribute that is not declared takes no value, unless it stands for all attributes. -/
theorem assign_guarded {r : Record} {attr : String} (v : Value) (hmem : attr ∈ Attribute.guarded)
    (hdeclared : r.type.declares attr = false) (hdict : attr ≠ "__dict__") :
    ∃ e, assign s r attr v = .error e := by
  rw [assign]
  split
  · exact ⟨_, rfl⟩
  have hguarded : (Attribute.guarded.contains attr && !r.type.declares attr) = true := by
    simp [hmem, hdeclared]
  rw [if_pos hguarded]
  unfold setGuarded
  by_cases hclass : attr = "__class__"
  · rw [if_pos hclass]
    exact ⟨_, rfl⟩
  by_cases hweak : attr = "__weakref__"
  · rw [if_neg hclass, if_pos hweak]
    exact ⟨_, rfl⟩
  · simp [Attribute.guarded, hclass, hweak, hdict] at hmem

theorem lookup_filterMap_eq_none (fields : List RecordField) (cell : String → Option Nat)
    {attr : String} (h : ∀ f ∈ fields, f.attr ≠ attr) :
    (fields.filterMap fun f => (cell f.attr).map (f.attr, ·)).lookup attr = none := by
  rw [List.lookup_eq_none_iff]
  intro slot hslot
  obtain ⟨f, hf, hslot⟩ := List.mem_filterMap.mp hslot
  obtain ⟨c, -, rfl⟩ := Option.map_eq_some_iff.mp hslot
  simpa using (h f hf).symm

/-- In a row of cells by attribute, each attribute has its own cell. -/
theorem lookup_filterMap (fields : List RecordField) (cell : String → Option Nat) {attr : String}
    (h : ∃ f ∈ fields, f.attr = attr) :
    (fields.filterMap fun f => (cell f.attr).map (f.attr, ·)).lookup attr = cell attr := by
  induction fields with
  | nil => simp at h
  | cons d rest ih =>
    by_cases hd : d.attr = attr
    · subst hd
      cases hcell : cell d.attr with
      | some c => simp [hcell]
      | none =>
        -- a later field of the same attribute has no cell either
        rw [List.filterMap_cons, hcell]
        by_cases hrest : ∃ f ∈ rest, f.attr = d.attr
        · exact (ih hrest).trans hcell
        · exact lookup_filterMap_eq_none rest cell fun f hf he => hrest ⟨f, hf, he⟩
    · have hrest : ∃ f ∈ rest, f.attr = attr := by
        obtain ⟨f, hf, hattr⟩ := h
        rcases List.mem_cons.mp hf with rfl | hf
        · exact absurd hattr hd
        · exact ⟨f, hf, hattr⟩
      have hne : (attr == d.attr) = false := by simpa using Ne.symm hd
      rw [List.filterMap_cons]
      cases hcell : cell d.attr with
      | none => exact ih hrest
      | some c =>
        rw [Option.map_some, List.lookup_cons, hne]
        exact ih hrest

/-! ### Replacing attributes -/

/-- The cell of an attribute after a replacement: a new one for a given value, or else the one that it had. -/
def replacedCell (s : Store) (r : Record) (given : List (String × Value)) (attr : String) : Option Nat :=
  ((s.allocateAll given).2.lookup attr).or (r.cell? attr)

/-- The record with the given values in cells of their own. -/
def replaced (s : Store) (r : Record) (given : List (String × Value)) : Record :=
  { type := r.type
    slots := r.type.fields.filterMap fun f => (replacedCell s r given f.attr).map (f.attr, ·) }

section replaced

variable {r : Record} {given : List (String × Value)} {attr : String}

theorem cell?_replaced (hd : r.type.declares attr = true) :
    (replaced s r given).cell? attr = replacedCell s r given attr :=
  lookup_filterMap _ (replacedCell s r given) (RecordType.declares_iff.mp hd)

theorem cell?_replaced_eq_none (hd : r.type.declares attr = false) : (replaced s r given).cell? attr = none := by
  refine lookup_filterMap_eq_none _ (replacedCell s r given) fun f hf hattr => ?_
  rw [← hattr, RecordType.declares_of_mem hf] at hd
  cases hd

/-- The cell of an attribute holds the given value, or else the one that the attribute had. -/
theorem value_replacedCell (hstored : ∀ cell, r.cell? attr = some cell → cell < s.cells.size) :
    (replacedCell s r given attr).map (s.allocateAll given).1.value =
      (given.lookup attr).or ((r.cell? attr).map s.value) := by
  have hlookup := Store.lookup_allocateAll s given attr
  rw [replacedCell]
  cases hnew : (s.allocateAll given).2.lookup attr with
  | some cell =>
    rw [hnew] at hlookup
    rw [← hlookup, Option.some_or, Option.map_some, Option.some_or]
  | none =>
    rw [hnew] at hlookup
    rw [← hlookup, Option.none_or, Option.map_none, Option.none_or]
    cases hold : r.cell? attr with
    | none => rfl
    | some cell => exact congrArg some (Store.value_allocateAll_of_lt s given (hstored cell hold))

theorem lt_of_replacedCell (hstored : ∀ cell, r.cell? attr = some cell → cell < s.cells.size) {cell : Nat}
    (hcell : replacedCell s r given attr = some cell) : cell < (s.allocateAll given).1.cells.size := by
  rcases Option.or_eq_some_iff.mp hcell with hnew | ⟨-, hold⟩
  · exact Store.lt_of_lookup_allocateAll s given hnew
  · exact Nat.lt_of_lt_of_le (hstored cell hold) (Store.size_le_allocateAll s given)

/-- Declared attributes are replaced where nothing stands in the place of the fields. -/
theorem replace_eq (hfields : r.fields s = .ok r.type.fields) (hgiven : ∀ e ∈ given, r.type.declares e.1 = true) :
    replace s r given = .ok ((s.allocateAll given).1, replaced s r given) := by
  have hargs : r.type.checkArguments (given.map Prod.fst) 0 = .ok () := RecordType.checkArguments_of_declared hgiven
  have hslots : (r.type.fields.filterMap fun f =>
      (((s.allocateAll given).2.lookup f.attr).or
        (if r.type.fields.contains f then r.cell? f.attr else none)).map (f.attr, ·)) =
      (replaced s r given).slots := by
    refine List.filterMap_congr fun f hf => ?_
    rw [if_pos (by simpa using hf)]
    rfl
  rw [replace, hfields]
  simp only [hargs, bind, Except.bind, hslots]
  rfl

end replaced

/-- **A record made by replacing holds the given values**, and those of the other record where none is
given. -/
theorem replace_holds {r : Record} {values : String → Value} (h : r.Holds s values)
    (hplain : r.type.Plain) {given : List (String × Value)}
    (hgiven : ∀ e ∈ given, r.type.declares e.1 = true) :
    ∃ s' q, replace s r given = .ok (s', q) ∧ q.type = r.type ∧
      q.Holds s' fun attr => (given.lookup attr).getD (values attr) := by
  have hgetter : r.type.declares Attribute.getter = false :=
    hplain.readers _ (by simp [Attribute.readers])
  have htable : r.type.declares Attribute.fieldTable = false :=
    hplain.readers _ (by simp [Attribute.readers])
  refine ⟨_, _, replace_eq (Record.fields_eq hgetter h.table) hgiven, rfl, ?_, ?_, cell?_replaced_eq_none htable⟩
  · intro f (hf : f ∈ r.type.fields)
    rw [Record.get_eq, cell?_replaced (RecordType.declares_of_mem hf), value_replacedCell (h.stored f.attr),
      ← h.value f hf, Record.get_eq]
    cases given.lookup f.attr <;> rfl
  · intro attr cell hcell
    cases hd : r.type.declares attr with
    | false => cases (cell?_replaced_eq_none hd).symm.trans hcell
    | true => exact lt_of_replacedCell (h.stored attr) ((cell?_replaced hd).symm.trans hcell)

end Session

end CommandWrap
