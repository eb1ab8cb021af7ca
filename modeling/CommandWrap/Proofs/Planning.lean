import CommandWrap.Plan
import CommandWrap.Proofs.Outcomes
import Mathlib.Data.List.Nodup

/-!
# Planning succeeds on well-formed walks and blames the first fault

Planning runs three loops inside one another: over the events of the walk, over the flags of a visited
command, and over what was seen before.  Each of them stops at the first fault it meets.

What is right is said here without the loops.  The flags of a command **fit** (`FlagsFit`) when none of
them is empty and no two take one attribute; a row of events is **well formed** (`WellFormed`) when no
command lies below itself, the flags of every visited command fit, every visited path makes an
identifier, and no two paths make the same one.  What is wrong is said of one position and the row
before it (`FlagFault`, `EventFault`).

Both levels have one shape, a **first fault** (`FirstFault`): the row before the position is right, and
the position is faulty behind it.  Since what is right stays right for every shorter row and a fault
makes it wrong, there is at most one first fault (`FirstFault.unique`).  The invariant of the loop over
flags is that the fields collected so far are those of fitting flags (`FieldsOf`), and the invariant of
the loop over events is that the plans collected so far are those of a well-formed row (`PlansOf`).
-/
namespace CommandWrap

/-! ## First faults -/

section FirstFault

variable {α ε : Type}

/-- **The first fault of a row**: the row before some position is right, and behind it the position has
the fault `e`. -/
def FirstFault (Right : List α → Prop) (Fault : List α → α → ε → Prop) (row : List α) (e : ε) : Prop :=
  ∃ before x after, row = before ++ x :: after ∧ Right before ∧ Fault before x e

variable {Right : List α → Prop} {Fault : List α → α → ε → Prop}

/-- Of two ways to cut a row before a position, one cuts before the other or both cut alike. -/
theorem cut_cases {before₁ before₂ after₁ after₂ : List α} {x₁ x₂ : α}
    (h : before₁ ++ x₁ :: after₁ = before₂ ++ x₂ :: after₂) :
    before₁ ++ [x₁] <+: before₂ ∨ before₂ ++ [x₂] <+: before₁ ∨ (before₁ = before₂ ∧ x₁ = x₂) := by
  rcases List.append_eq_append_iff.mp h with ⟨mid, hb, ha⟩ | ⟨mid, hb, ha⟩
  · cases mid with
    | nil =>
      obtain ⟨hx, -⟩ := List.cons.inj (by simpa using ha)
      exact .inr (.inr ⟨by simpa using hb.symm, hx⟩)
    | cons y mid =>
      obtain ⟨rfl, -⟩ := List.cons.inj (by simpa using ha)
      exact .inl ⟨mid, by simp [hb]⟩
  · cases mid with
    | nil =>
      obtain ⟨hx, -⟩ := List.cons.inj (by simpa using ha)
      exact .inr (.inr ⟨by simpa using hb, hx.symm⟩)
    | cons y mid =>
      obtain ⟨rfl, -⟩ := List.cons.inj (by simpa using ha)
      exact .inr (.inl ⟨mid, by simp [hb]⟩)

/-- A row that has a first fault is not right. -/
theorem FirstFault.not_right (closed : ∀ {xs ys}, xs <+: ys → Right ys → Right xs)
    (breaks : ∀ {before x e}, Fault before x e → ¬ Right (before ++ [x])) {row : List α} {e : ε}
    (h : FirstFault Right Fault row e) : ¬ Right row := by
  obtain ⟨before, x, after, rfl, -, hfault⟩ := h
  intro hright
  exact breaks hfault (closed ⟨after, by simp⟩ hright)

/-- A row has at most one first fault. -/
theorem FirstFault.unique (closed : ∀ {xs ys}, xs <+: ys → Right ys → Right xs)
    (breaks : ∀ {before x e}, Fault before x e → ¬ Right (before ++ [x]))
    (one : ∀ {before x e₁ e₂}, Right before → Fault before x e₁ → Fault before x e₂ → e₁ = e₂)
    {row : List α} {e₁ e₂ : ε} (h₁ : FirstFault Right Fault row e₁)
    (h₂ : FirstFault Right Fault row e₂) : e₁ = e₂ := by
  obtain ⟨before₁, x₁, after₁, rfl, hright₁, hfault₁⟩ := h₁
  obtain ⟨before₂, x₂, after₂, hrow, hright₂, hfault₂⟩ := h₂
  rcases cut_cases hrow with hle | hle | ⟨rfl, rfl⟩
  · exact absurd (closed hle hright₂) (breaks hfault₁)
  · exact absurd (closed hle hright₁) (breaks hfault₂)
  · exact one hright₁ hfault₁ hfault₂

end FirstFault

/-! ## The flags of a command -/

/-- **The flags of a command fit**: none is empty, and no two take one attribute. -/
structure FlagsFit (flags : List Flag) : Prop where
  named : ∀ f ∈ flags, f.name ≠ ""
  apart : (flags.map fun f => Name.field? f.name).Nodup

/-- **What is wrong with a flag** behind the flags `earlier` of the command at `path`.  A name that came
before is found first, then an empty name, then an attribute that is taken. -/
inductive FlagFault (path : List String) (earlier : List Flag) (flag : Flag) : PlanError → Prop
  | duplicate (other : Flag) (mem : other ∈ earlier) (same : other.name = flag.name) :
      FlagFault path earlier flag (.duplicateFlag path flag.name)
  | empty (new : ∀ f ∈ earlier, f.name ≠ flag.name) (empty : flag.name = "") :
      FlagFault path earlier flag (.emptyFlagName path)
  | taken (new : ∀ f ∈ earlier, f.name ≠ flag.name) (other : Flag) (mem : other ∈ earlier)
      (attr : String) (first : Name.field? other.name = some attr)
      (second : Name.field? flag.name = some attr) :
      FlagFault path earlier flag (.sameField path other.name flag.name attr)

/-- The fields are those of the flags, one for one and in order. -/
def FieldsOf (flags : List Flag) (fields : List Field) : Prop :=
  List.Forall₂ (fun flag field => Field.ofFlag? flag = some field) flags fields

namespace Name

theorem field?_eq_none {flagName : String} : field? flagName = none ↔ flagName = "" := by
  simp [field?]

end Name

namespace Field

theorem ofFlag?_eq_none {flag : Flag} : ofFlag? flag = none ↔ flag.name = "" := by
  simp [ofFlag?, Name.field?_eq_none]

theorem ofFlag?_eq_some {flag : Flag} {field : Field} (h : ofFlag? flag = some field) :
    field.flag = flag ∧ Name.field? flag.name = some field.attr := by
  obtain ⟨attr, hattr, rfl⟩ := Option.map_eq_some_iff.mp h
  exact ⟨rfl, hattr⟩

end Field

namespace FlagsFit

theorem nil : FlagsFit [] :=
  ⟨by simp, by simp⟩

theorem of_prefix {xs ys : List Flag} (h : xs <+: ys) (fit : FlagsFit ys) : FlagsFit xs := by
  refine ⟨fun f hf => fit.named f (h.subset hf), ?_⟩
  exact fit.apart.sublist (h.sublist.map _)

/-- One more flag fits when it is not empty and its attribute is not taken. -/
theorem snoc {flags : List Flag} {flag : Flag} (fit : FlagsFit flags) (hname : flag.name ≠ "")
    (hnew : ∀ f ∈ flags, Name.field? f.name ≠ Name.field? flag.name) :
    FlagsFit (flags ++ [flag]) := by
  refine ⟨?_, ?_⟩
  · intro f hf
    rcases List.mem_append.mp hf with hf | hf
    · exact fit.named f hf
    · rw [List.mem_singleton.mp hf]
      exact hname
  · rw [List.map_append, List.nodup_append]
    refine ⟨fit.apart, by simp, ?_⟩
    intro a ha b hb
    obtain ⟨f, hf, rfl⟩ := List.mem_map.mp ha
    obtain rfl : b = Name.field? flag.name := by simpa using hb
    exact hnew f hf

/-- Two flags of a fitting row that take one attribute are one flag. -/
theorem name_eq {flags : List Flag} (fit : FlagsFit flags) {f₁ f₂ : Flag} (h₁ : f₁ ∈ flags)
    (h₂ : f₂ ∈ flags) (h : Name.field? f₁.name = Name.field? f₂.name) : f₁ = f₂ :=
  List.inj_on_of_nodup_map fit.apart h₁ h₂ h

end FlagsFit

namespace FlagFault

variable {path : List String} {earlier : List Flag} {flag : Flag} {e : PlanError}

theorem breaks (h : FlagFault path earlier flag e) : ¬ FlagsFit (earlier ++ [flag]) := by
  intro fit
  have apart : ∀ f ∈ earlier, Name.field? f.name ≠ Name.field? flag.name := by
    intro f hf
    have := fit.apart
    rw [List.map_append, List.nodup_append] at this
    exact this.2.2 _ (List.mem_map_of_mem hf) _ (by simp)
  cases h with
  | duplicate other mem same => exact apart other mem (by rw [same])
  | empty new empty => exact fit.named flag (by simp) empty
  | taken new other mem attr first second => exact apart other mem (first.trans second.symm)

theorem unique {e' : PlanError} (fit : FlagsFit earlier) (h : FlagFault path earlier flag e)
    (h' : FlagFault path earlier flag e') : e = e' := by
  cases h with
  | duplicate other mem same =>
    cases h' with
    | duplicate => rfl
    | empty new _ => exact absurd same (new other mem)
    | taken new _ _ _ _ _ => exact absurd same (new other mem)
  | empty new empty =>
    cases h' with
    | duplicate other mem same => exact absurd same (new other mem)
    | empty => rfl
    | taken _ _ _ attr _ second => simp [Name.field?_eq_none.mpr empty] at second
  | taken new other mem attr first second =>
    cases h' with
    | duplicate other mem same => exact absurd same (new other mem)
    | empty _ empty => simp [Name.field?_eq_none.mpr empty] at second
    | taken _ other' mem' attr' first' second' =>
      obtain rfl : attr = attr' := Option.some.inj (second.symm.trans second')
      rw [fit.name_eq mem mem' (first.trans first'.symm)]

end FlagFault

namespace FieldsOf

variable {flags : List Flag} {fields : List Field}

theorem snoc {flag : Flag} {field : Field} (h : FieldsOf flags fields)
    (hf : Field.ofFlag? flag = some field) : FieldsOf (flags ++ [flag]) (fields ++ [field]) :=
  List.rel_append h (.cons hf .nil)

/-- Flags have one row of fields. -/
theorem unique {fields' : List Field} (h : FieldsOf flags fields) (h' : FieldsOf flags fields') :
    fields = fields' := by
  induction h generalizing fields' with
  | nil => exact (List.forall₂_nil_left_iff.mp h').symm
  | cons hf _ ih =>
    obtain ⟨field, rest, hf', hrest, rfl⟩ := List.forall₂_cons_left_iff.mp h'
    rw [Option.some.inj (hf.symm.trans hf'), ih hrest]

theorem flags_eq (h : FieldsOf flags fields) : fields.map Field.flag = flags := by
  induction h with
  | nil => rfl
  | cons hf _ ih => rw [List.map_cons, ih, (Field.ofFlag?_eq_some hf).1]

theorem mem_flags (h : FieldsOf flags fields) {field : Field} (hf : field ∈ fields) :
    field.flag ∈ flags := by
  rw [← h.flags_eq]
  exact List.mem_map_of_mem hf

theorem field?_name (h : FieldsOf flags fields) {field : Field} (hf : field ∈ fields) :
    Name.field? field.flag.name = some field.attr := by
  obtain ⟨flag, -, hof⟩ := exists_left_of_mem h hf
  obtain ⟨hflag, hattr⟩ := Field.ofFlag?_eq_some hof
  rw [hflag, hattr]

theorem any_name (h : FieldsOf flags fields) (name : String) :
    fields.any (·.flag.name == name) = true ↔ ∃ f ∈ flags, f.name = name := by
  rw [← h.flags_eq]
  simp

/-- No field has the attribute exactly when no flag takes it. -/
theorem attr_free (h : FieldsOf flags fields) {attr : String}
    (hnone : fields.find? (·.attr == attr) = none) :
    ∀ f ∈ flags, Name.field? f.name ≠ some attr := by
  intro f hf
  rw [← h.flags_eq] at hf
  obtain ⟨field, hfield, rfl⟩ := List.mem_map.mp hf
  rw [h.field?_name hfield]
  have := List.find?_eq_none.mp hnone field hfield
  simpa using this

/-- The fields of fitting flags have different attributes. -/
theorem nodup_attr (h : FieldsOf flags fields) (fit : FlagsFit flags) : (fields.map Field.attr).Nodup := by
  have hmap : flags.map (fun f => Name.field? f.name) = (fields.map Field.attr).map some := by
    rw [List.map_map, ← List.forall₂_eq_eq_eq, List.forall₂_map_left_iff, List.forall₂_map_right_iff]
    exact h.imp fun _ _ hf => (Field.ofFlag?_eq_some hf).2
  have hnodup := fit.apart
  rw [hmap] at hnodup
  exact hnodup.of_map _

/-- The flags of the fields of fitting flags have different names. -/
theorem nodup_name (h : FieldsOf flags fields) (fit : FlagsFit flags) :
    (fields.map (·.flag.name)).Nodup := by
  refine List.Nodup.of_map Name.field? ?_
  have hnodup := fit.apart
  rw [← h.flags_eq, List.map_map] at hnodup
  rwa [List.map_map]

end FieldsOf

/-- **One flag.**  Behind fitting flags `done` with the fields `earlier` it is faulty, or it fits and has a field. -/
theorem planFields_cons (path : List String) (flag : Flag) (rest : List Flag) {done : List Flag}
    {earlier : List Field} (fit : FlagsFit done) (of : FieldsOf done earlier) :
    (∃ e, planFields path earlier (flag :: rest) = .error e ∧ FlagFault path done flag e) ∨
    ∃ field, Field.ofFlag? flag = some field ∧ FlagsFit (done ++ [flag]) ∧
      planFields path earlier (flag :: rest) = (planFields path (earlier ++ [field]) rest).map (field :: ·) := by
  rw [planFields]
  by_cases hdup : earlier.any (·.flag.name == flag.name) = true
  · obtain ⟨other, mem, same⟩ := (of.any_name flag.name).mp hdup
    rw [if_pos hdup]
    exact .inl ⟨_, rfl, .duplicate other mem same⟩
  have hnew : ∀ f ∈ done, f.name ≠ flag.name := by
    intro f hf hname
    exact hdup ((of.any_name flag.name).mpr ⟨f, hf, hname⟩)
  rw [if_neg hdup]
  cases hfield : Field.ofFlag? flag with
  | none => exact .inl ⟨_, rfl, .empty hnew (Field.ofFlag?_eq_none.mp hfield)⟩
  | some field =>
    obtain ⟨-, hattr⟩ := Field.ofFlag?_eq_some hfield
    cases hfind : earlier.find? (·.attr == field.attr) with
    | some other =>
      have mem : other ∈ earlier := List.mem_of_find?_eq_some hfind
      have same : other.attr = field.attr := by simpa using List.find?_some hfind
      have first : Name.field? other.flag.name = some field.attr := by
        rw [of.field?_name mem, same]
      simp only [hfind]
      exact .inl ⟨_, rfl, .taken hnew other.flag (of.mem_flags mem) field.attr first hattr⟩
    | none =>
      have hname : flag.name ≠ "" := by
        intro hempty
        rw [Field.ofFlag?_eq_none.mpr hempty] at hfield
        cases hfield
      have hfree : ∀ f ∈ done, Name.field? f.name ≠ Name.field? flag.name := by
        rw [hattr]
        exact of.attr_free hfind
      simp only [hfind]
      refine .inr ⟨field, rfl, fit.snoc hname hfree, ?_⟩
      cases planFields path (earlier ++ [field]) rest <;> rfl

/-- **The loop over the flags of a command.**  Behind fitting flags `done` with the fields `earlier` it
gives the fields of all further flags if they fit too, and the first fault otherwise. -/
theorem planFields_cases (path : List String) (flags : List Flag) {done : List Flag}
    {earlier : List Field} (fit : FlagsFit done) (of : FieldsOf done earlier) :
    (∃ fields, planFields path earlier flags = .ok fields ∧ FieldsOf flags fields ∧
      FlagsFit (done ++ flags)) ∨
    (∃ before flag after e, planFields path earlier flags = .error e ∧
      flags = before ++ flag :: after ∧ FlagsFit (done ++ before) ∧
      FlagFault path (done ++ before) flag e) := by
  -- the invariant: the flags before fit, and `earlier` are their fields
  induction flags generalizing done earlier with
  | nil => exact .inl ⟨[], rfl, .nil, by simpa using fit⟩
  | cons flag rest ih =>
    rcases planFields_cons path flag rest fit of with ⟨e, hrun, hfault⟩ | ⟨field, hfield, fit', hrun⟩
    · -- a fault of this flag is the first one, with nothing before it
      exact .inr ⟨[], flag, rest, e, hrun, rfl, by simpa using fit, by simpa using hfault⟩
    · rw [hrun]
      rcases ih fit' (of.snoc hfield) with ⟨fields, hrest, hfields, hfit⟩ | ⟨before, x, after, e, hrest, rfl, hfit, hfault⟩
      · rw [hrest]
        exact .inl ⟨field :: fields, rfl, .cons hfield hfields, by simpa using hfit⟩
      · rw [hrest]
        exact .inr ⟨flag :: before, x, after, e, rfl, rfl, by simpa using hfit, by simpa using hfault⟩

theorem planFields_ok {path : List String} {flags : List Flag} {fields : List Field}
    (h : planFields path [] flags = .ok fields) : FieldsOf flags fields ∧ FlagsFit flags := by
  rcases planFields_cases path flags .nil .nil with ⟨fields', hrun, hof, hfit⟩ | ⟨_, _, _, e, hrun, _⟩
  · obtain rfl : fields' = fields := Except.ok.inj (hrun.symm.trans h)
    exact ⟨hof, by simpa using hfit⟩
  · rw [hrun] at h
    cases h

theorem planFields_error {path : List String} {flags : List Flag} {e : PlanError}
    (h : planFields path [] flags = .error e) : FirstFault FlagsFit (FlagFault path) flags e := by
  rcases planFields_cases path flags .nil .nil with ⟨fields, hrun, -⟩ |
      ⟨before, flag, after, e', hrun, hcut, hfit, hfault⟩
  · rw [hrun] at h
    cases h
  · obtain rfl : e' = e := Except.error.inj (hrun.symm.trans h)
    exact ⟨before, flag, after, hcut, by simpa using hfit, by simpa using hfault⟩

/-! ## The events of a walk -/

/-- The command and the path of a visit. -/
def WalkEvent.visit? {n : Nat} : WalkEvent n → Option (Fin n × List String)
  | .visit node path => some (node, path)
  | .skip _ => none
  | .loop _ => none

/-- The commands that are visited, with their paths, in order. -/
def visits {n : Nat} (events : List (WalkEvent n)) : List (Fin n × List String) :=
  events.filterMap WalkEvent.visit?

namespace CommandGraph

variable (g : CommandGraph)

/-- **A row of events is well formed**: no command lies below itself, the flags of every visited command
fit, every visited path makes an identifier, and no two visited paths make the same one. -/
structure WellFormed (events : List (WalkEvent g.size)) : Prop where
  noLoop : ∀ path, .loop path ∉ events
  flags : ∀ v ∈ visits events, FlagsFit (g.info v.1).flags
  named : ∀ v ∈ visits events, (Name.base? v.2).isSome
  apart : ((visits events).map fun v => Name.base? v.2).Nodup

/-- **What is wrong with an event** behind the events `earlier`.  A visited command is looked at in its
flags in order, then in its base name, then against the base names of earlier commands. -/
inductive EventFault (earlier : List (WalkEvent g.size)) : WalkEvent g.size → PlanError → Prop
  | loop (path : List String) : EventFault earlier (.loop path) (.insideItself path)
  | flag (node : Fin g.size) (path : List String) (e : PlanError)
      (first : FirstFault FlagsFit (FlagFault path) (g.info node).flags e) :
      EventFault earlier (.visit node path) e
  | noName (node : Fin g.size) (path : List String) (fit : FlagsFit (g.info node).flags)
      (none : Name.base? path = none) : EventFault earlier (.visit node path) (.noIdentifier path)
  | taken (node : Fin g.size) (path : List String) (fit : FlagsFit (g.info node).flags) (base : String)
      (some : Name.base? path = some base) (owner : Fin g.size × List String)
      (mem : owner ∈ visits earlier) (same : Name.base? owner.2 = Option.some base) :
      EventFault earlier (.visit node path) (.nameTaken path base (pathTitle owner.2))

/-- The plan is that of the visited command. -/
structure PlanOf (v : Fin g.size × List String) (p : CommandPlan) : Prop where
  info : p.info = g.info v.1
  path : p.path = v.2
  base : Name.base? v.2 = some p.base
  fields : FieldsOf (g.info v.1).flags p.fields

/-- The plans are those of the visited commands, one for one and in order. -/
def PlansOf (events : List (WalkEvent g.size)) (plans : List CommandPlan) : Prop :=
  List.Forall₂ g.PlanOf (visits events) plans

end CommandGraph

section Visits

variable {n : Nat} (events : List (WalkEvent n))

@[simp] theorem visits_nil : visits ([] : List (WalkEvent n)) = [] := rfl

@[simp] theorem visits_append (more : List (WalkEvent n)) :
    visits (events ++ more) = visits events ++ visits more :=
  List.filterMap_append

@[simp] theorem visits_visit (node : Fin n) (path : List String) :
    visits (.visit node path :: events) = (node, path) :: visits events := rfl

@[simp] theorem visits_skip (path : List String) : visits (.skip path :: events) = visits events := rfl

@[simp] theorem visits_loop (path : List String) : visits (.loop path :: events) = visits events := rfl

end Visits

namespace CommandGraph

variable {g : CommandGraph}

namespace WellFormed

theorem nil : g.WellFormed [] :=
  ⟨by simp, by simp, by simp, by simp⟩

theorem of_prefix {xs ys : List (WalkEvent g.size)} (h : xs <+: ys) (wf : g.WellFormed ys) :
    g.WellFormed xs := by
  have hsub : (visits xs).Sublist (visits ys) := h.sublist.filterMap _
  refine ⟨fun path hp => wf.noLoop path (h.subset hp), fun v hv => wf.flags v (hsub.subset hv),
    fun v hv => wf.named v (hsub.subset hv), ?_⟩
  exact wf.apart.sublist (hsub.map _)

theorem snoc_skip {events : List (WalkEvent g.size)} (wf : g.WellFormed events) (path : List String) :
    g.WellFormed (events ++ [.skip path]) := by
  refine ⟨?_, ?_, ?_, ?_⟩
  · simpa using wf.noLoop
  · simpa using wf.flags
  · simpa using wf.named
  · simpa using wf.apart

/-- One more visit is well formed when its flags fit and its path makes a new identifier. -/
theorem snoc_visit {events : List (WalkEvent g.size)} (wf : g.WellFormed events) {node : Fin g.size}
    {path : List String} {base : String} (fit : FlagsFit (g.info node).flags)
    (hbase : Name.base? path = some base)
    (hnew : ∀ v ∈ visits events, Name.base? v.2 ≠ some base) :
    g.WellFormed (events ++ [.visit node path]) := by
  refine ⟨?_, ?_, ?_, ?_⟩
  · simpa using wf.noLoop
  · intro v hv
    rcases List.mem_append.mp (by simpa only [visits_append] using hv) with hv | hv
    · exact wf.flags v hv
    · obtain rfl : v = (node, path) := by simpa using hv
      exact fit
  · intro v hv
    rcases List.mem_append.mp (by simpa only [visits_append] using hv) with hv | hv
    · exact wf.named v hv
    · obtain rfl : v = (node, path) := by simpa using hv
      rw [hbase]
      rfl
  · rw [visits_append, List.map_append, List.nodup_append]
    refine ⟨wf.apart, by simp, ?_⟩
    intro a ha b hb
    obtain ⟨v, hv, rfl⟩ := List.mem_map.mp ha
    obtain rfl : b = some base := by simpa [hbase] using hb
    exact hnew v hv

/-- Visits of a well-formed row that make one base name are one visit. -/
theorem visit_eq {events : List (WalkEvent g.size)} (wf : g.WellFormed events)
    {v₁ v₂ : Fin g.size × List String} (h₁ : v₁ ∈ visits events) (h₂ : v₂ ∈ visits events)
    (h : Name.base? v₁.2 = Name.base? v₂.2) : v₁ = v₂ :=
  List.inj_on_of_nodup_map wf.apart h₁ h₂ h

end WellFormed

/-- The first fault of the flags of a command is one fault. -/
theorem flagFault_unique {path : List String} {flags : List Flag} {e e' : PlanError}
    (h : FirstFault FlagsFit (FlagFault path) flags e)
    (h' : FirstFault FlagsFit (FlagFault path) flags e') : e = e' :=
  h.unique FlagsFit.of_prefix FlagFault.breaks FlagFault.unique h'

theorem not_fit_of_fault {path : List String} {flags : List Flag} {e : PlanError}
    (h : FirstFault FlagsFit (FlagFault path) flags e) : ¬ FlagsFit flags :=
  h.not_right FlagsFit.of_prefix FlagFault.breaks

namespace EventFault

variable {earlier : List (WalkEvent g.size)} {event : WalkEvent g.size} {e : PlanError}

theorem breaks (h : g.EventFault earlier event e) : ¬ g.WellFormed (earlier ++ [event]) := by
  intro wf
  cases h with
  | loop path => exact wf.noLoop path (by simp)
  | flag node path _ first =>
    exact not_fit_of_fault first (wf.flags (node, path) (by simp))
  | noName node path _ none =>
    have := wf.named (node, path) (by simp)
    simp [none] at this
  | taken node path _ base some owner mem same =>
    have hnodup := wf.apart
    rw [visits_append, List.map_append, List.nodup_append] at hnodup
    refine hnodup.2.2 _ (List.mem_map_of_mem mem) _ ?_ (same.trans some.symm)
    simp

theorem unique {e' : PlanError} (wf : g.WellFormed earlier) (h : g.EventFault earlier event e)
    (h' : g.EventFault earlier event e') : e = e' := by
  -- the faults of a visit exclude each other: each comes after what the one before it breaks
  cases h with
  | loop path => cases h'; rfl
  | flag node path _ first =>
    cases h' with
    | flag _ _ _ first' => exact flagFault_unique first first'
    | noName _ _ fit _ => exact absurd fit (not_fit_of_fault first)
    | taken _ _ fit _ _ _ _ _ => exact absurd fit (not_fit_of_fault first)
  | noName node path fit none =>
    cases h' with
    | flag _ _ _ first => exact absurd fit (not_fit_of_fault first)
    | noName => rfl
    | taken _ _ _ base some _ _ _ => simp [none] at some
  | taken node path fit base some owner mem same =>
    cases h' with
    | flag _ _ _ first => exact absurd fit (not_fit_of_fault first)
    | noName _ _ _ none => simp [none] at some
    | taken _ _ _ base' some' owner' mem' same' =>
      obtain rfl : base = base' := Option.some.inj (some.symm.trans some')
      rw [wf.visit_eq mem mem' (same.trans same'.symm)]

end EventFault

namespace PlansOf

variable {events : List (WalkEvent g.size)} {plans : List CommandPlan}

theorem snoc_skip (h : g.PlansOf events plans) (path : List String) :
    g.PlansOf (events ++ [.skip path]) plans := by
  simpa [PlansOf] using h

theorem snoc_visit {node : Fin g.size} {path : List String} {p : CommandPlan}
    (h : g.PlansOf events plans) (hp : g.PlanOf (node, path) p) :
    g.PlansOf (events ++ [.visit node path]) (plans ++ [p]) := by
  rw [PlansOf, visits_append]
  exact List.rel_append h (.cons hp .nil)

/-- Every plan is that of a visited command. -/
theorem exists_visit (h : g.PlansOf events plans) {p : CommandPlan} (hp : p ∈ plans) :
    ∃ v ∈ visits events, g.PlanOf v p :=
  exists_left_of_mem h hp

/-- Every visited command has a plan. -/
theorem exists_plan (h : g.PlansOf events plans) {v : Fin g.size × List String}
    (hv : v ∈ visits events) : ∃ p ∈ plans, g.PlanOf v p :=
  exists_right_of_mem h hv

end PlansOf

/-! ## The loop over the events -/

/-- Planning one command: its plan, or the first fault of its flags, or no base name. -/
theorem planCommand_cases (info : CommandInfo) (path : List String) :
    (∃ base fields, planCommand info path = .ok { info, path, base, fields } ∧
      Name.base? path = some base ∧ FieldsOf info.flags fields ∧ FlagsFit info.flags) ∨
    (∃ e, planCommand info path = .error e ∧
      FirstFault FlagsFit (FlagFault path) info.flags e) ∨
    (planCommand info path = .error (.noIdentifier path) ∧ FlagsFit info.flags ∧
      Name.base? path = none) := by
  cases hfields : planFields path [] info.flags with
  | error e =>
    refine .inr (.inl ⟨e, ?_, planFields_error hfields⟩)
    rw [planCommand, hfields]
    rfl
  | ok fields =>
    obtain ⟨hof, hfit⟩ := planFields_ok hfields
    cases hbase : Name.base? path with
    | none =>
      refine .inr (.inr ⟨?_, hfit, rfl⟩)
      rw [planCommand, hfields, hbase]
      rfl
    | some base =>
      refine .inl ⟨base, fields, ?_, rfl, hof, hfit⟩
      rw [planCommand, hfields, hbase]
      rfl

/-- A planned command has the fields of its flags, and the flags fit. -/
theorem planCommand_ok {info : CommandInfo} {path : List String} {p : CommandPlan}
    (h : planCommand info path = .ok p) : FieldsOf info.flags p.fields ∧ FlagsFit info.flags := by
  rcases planCommand_cases info path with
    ⟨base, fields, hok, -, hof, hfit⟩ | ⟨e, herror, -⟩ | ⟨herror, -⟩
  · obtain rfl : _ = p := Except.ok.inj (hok.symm.trans h)
    exact ⟨hof, hfit⟩
  · cases herror.symm.trans h
  · cases herror.symm.trans h

/-- Planning one command behind the plans of a well-formed row: its plan, under a new base name, or the
fault of the visit. -/
theorem planNext_cases {done : List (WalkEvent g.size)} {earlier : List CommandPlan}
    (of : g.PlansOf done earlier) (node : Fin g.size) (path : List String) :
    (∃ p, planNext earlier (g.info node) path = .ok p ∧ g.PlanOf (node, path) p ∧
      FlagsFit (g.info node).flags ∧ ∀ v ∈ visits done, Name.base? v.2 ≠ some p.base) ∨
    (∃ e, planNext earlier (g.info node) path = .error e ∧
      g.EventFault done (.visit node path) e) := by
  rcases planCommand_cases (g.info node) path with ⟨base, fields, hrun, hbase, hof, hfit⟩ |
      ⟨e, hrun, hfault⟩ | ⟨hrun, hfit, hnone⟩
  · -- the base name is free, or an earlier command has it
    cases hfind : earlier.find? (·.base == base) with
    | some owner =>
      have mem : owner ∈ earlier := List.mem_of_find?_eq_some hfind
      have same : owner.base = base := by simpa using List.find?_some hfind
      obtain ⟨v, hv, hplan⟩ := of.exists_visit mem
      refine .inr ⟨.nameTaken path base (pathTitle v.2), ?_, .taken node path hfit base hbase v hv ?_⟩
      · rw [planNext, hrun, ← hplan.path]
        simp only [bind, Except.bind, hfind]
        rfl
      · rw [hplan.base, same]
    | none =>
      refine .inl ⟨{ info := g.info node, path, base, fields }, ?_, ⟨rfl, rfl, hbase, hof⟩, hfit, ?_⟩
      · rw [planNext, hrun]
        simp only [bind, Except.bind, hfind]
        rfl
      · intro v hv hsame
        obtain ⟨p, hp, hplan⟩ := of.exists_plan hv
        have hne := List.find?_eq_none.mp hfind p hp
        rw [hplan.base] at hsame
        exact hne (by simpa using hsame)
  · refine .inr ⟨e, ?_, .flag node path e hfault⟩
    rw [planNext, hrun]
    rfl
  · refine .inr ⟨.noIdentifier path, ?_, .noName node path hfit hnone⟩
    rw [planNext, hrun]
    rfl

/-- **The loop over the events of a walk.**  Behind a well-formed row `done` with the plans `earlier` it
gives the plans of all further visits if the longer row is well formed, and the first fault
otherwise. -/
theorem planEvents_cases (events : List (WalkEvent g.size)) {done : List (WalkEvent g.size)}
    {earlier : List CommandPlan} (wf : g.WellFormed done) (of : g.PlansOf done earlier) :
    (∃ plans, g.planEvents earlier events = .ok plans ∧ g.PlansOf events plans ∧
      g.WellFormed (done ++ events)) ∨
    (∃ before event after e, g.planEvents earlier events = .error e ∧
      events = before ++ event :: after ∧ g.WellFormed (done ++ before) ∧
      g.EventFault (done ++ before) event e) := by
  -- the invariant: the events before are well formed, and `earlier` are the plans of their visits
  induction events generalizing done earlier with
  | nil => exact .inl ⟨[], rfl, .nil, by simpa using wf⟩
  | cons event rest ih =>
    cases event with
    | loop path =>
      exact .inr ⟨[], .loop path, rest, _, rfl, rfl, by simpa using wf, by simpa using .loop path⟩
    | skip path =>
      rcases ih (wf.snoc_skip path) (of.snoc_skip path) with ⟨plans, hrun, hplans, hwf⟩ |
          ⟨before, event, after, e, hrun, rfl, hwf, hfault⟩
      · exact .inl ⟨plans, hrun, hplans, by simpa using hwf⟩
      · exact .inr ⟨.skip path :: before, event, after, e, hrun, rfl, by simpa using hwf,
          by simpa using hfault⟩
    | visit node path =>
      rw [planEvents]
      rcases planNext_cases of node path with ⟨p, hnext, hplan, hfit, hnew⟩ | ⟨e, hnext, hfault⟩
      · rw [hnext]
        rcases ih (wf.snoc_visit hfit hplan.base hnew) (of.snoc_visit hplan) with
            ⟨plans, hrun, hplans, hwf⟩ | ⟨before, event, after, e, hrun, rfl, hwf, hfault⟩
        · refine .inl ⟨p :: plans, ?_, .cons hplan hplans, by simpa using hwf⟩
          simp only [bind, Except.bind, hrun]
          rfl
        · refine .inr ⟨.visit node path :: before, event, after, e, ?_, rfl, by simpa using hwf,
            by simpa using hfault⟩
          simp only [bind, Except.bind, hrun]
      · rw [hnext]
        exact .inr ⟨[], .visit node path, rest, e, rfl, rfl, by simpa using wf, by simpa using hfault⟩

/-- The plans of a graph are those of its visited commands, which are well formed. -/
theorem plan_ok {exclude : List String} {plans : List CommandPlan}
    (h : g.plan exclude = .ok plans) :
    g.PlansOf (g.walk exclude) plans ∧ g.WellFormed (g.walk exclude) := by
  rcases planEvents_cases (g.walk exclude) WellFormed.nil .nil with ⟨plans', hrun, hof, hwf⟩ |
      ⟨_, _, _, e, hrun, -⟩
  · obtain rfl : plans' = plans := Except.ok.inj (hrun.symm.trans h)
    exact ⟨hof, by simpa using hwf⟩
  · cases hrun.symm.trans h

/-- A graph whose walk is well formed has plans. -/
theorem exists_plan_of_wellFormed {exclude : List String} (wf : g.WellFormed (g.walk exclude)) :
    ∃ plans, g.plan exclude = .ok plans := by
  rcases planEvents_cases (g.walk exclude) WellFormed.nil .nil with ⟨plans, hrun, -⟩ |
      ⟨before, event, after, e, hrun, hcut, -, hfault⟩
  · exact ⟨plans, hrun⟩
  · have hprefix : before ++ [event] <+: g.walk exclude := ⟨after, by simp [hcut]⟩
    have hbreaks : ¬ g.WellFormed (before ++ [event]) := by simpa using hfault.breaks
    exact absurd (wf.of_prefix hprefix) hbreaks

/-- Planning fails with the first fault of the walk. -/
theorem plan_error {exclude : List String} {e : PlanError} (h : g.plan exclude = .error e) :
    FirstFault g.WellFormed g.EventFault (g.walk exclude) e := by
  rcases planEvents_cases (g.walk exclude) WellFormed.nil .nil with ⟨plans, hrun, -⟩ |
      ⟨before, event, after, e', hrun, hcut, hwf, hfault⟩
  · cases hrun.symm.trans h
  · obtain rfl : e' = e := Except.error.inj (hrun.symm.trans h)
    exact ⟨before, event, after, hcut, by simpa using hwf, by simpa using hfault⟩

/-- The plan of a visited command is the one that the command alone has. -/
theorem PlanOf.planCommand_eq {v : Fin g.size × List String} {p : CommandPlan} (h : g.PlanOf v p)
    (fit : FlagsFit (g.info v.1).flags) : planCommand (g.info v.1) v.2 = .ok p := by
  rcases planCommand_cases (g.info v.1) v.2 with ⟨base, fields, hrun, hbase, hof, -⟩ |
      ⟨e, -, hfault⟩ | ⟨-, -, hnone⟩
  · obtain rfl : base = p.base := Option.some.inj (hbase.symm.trans h.base)
    obtain rfl : fields = p.fields := hof.unique h.fields
    rw [hrun, ← h.info, ← h.path]
  · exact absurd fit (not_fit_of_fault hfault)
  · cases hnone.symm.trans h.base

/-- **Planning succeeds on well-formed walks and blames the first fault.**  There are plans exactly when
the walk is well formed.  The plans are then those of the visited commands in order, each planned by
itself, and the fields of each are those of the command's flags, one for one.  Otherwise the error is
the first fault of the walk. -/
theorem plan_iff_wellFormed (g : CommandGraph) (exclude : List String) :
    ((∃ plans, g.plan exclude = .ok plans) ↔ g.WellFormed (g.walk exclude)) ∧
    (∀ plans, g.plan exclude = .ok plans →
      (visits (g.walk exclude)).map (fun v => planCommand (g.info v.1) v.2) = plans.map .ok ∧
      List.Forall₂ (fun v p => FieldsOf (g.info v.1).flags p.fields)
        (visits (g.walk exclude)) plans) ∧
    ∀ e, g.plan exclude = .error e ↔
      FirstFault g.WellFormed g.EventFault (g.walk exclude) e := by
  refine ⟨⟨fun ⟨_, h⟩ => (plan_ok h).2, exists_plan_of_wellFormed⟩, ?_, fun e => ⟨plan_error, ?_⟩⟩
  · intro plans h
    obtain ⟨hof, hwf⟩ := plan_ok h
    have hplans : List.Forall₂ (fun v p => planCommand (g.info v.1) v.2 = .ok p)
        (visits (g.walk exclude)) plans :=
      forall₂_imp_of_mem hof fun v hv p hp => hp.planCommand_eq (hwf.flags v hv)
    refine ⟨?_, hof.imp fun _ _ hp => hp.fields⟩
    rw [← List.forall₂_eq_eq_eq, List.forall₂_map_left_iff, List.forall₂_map_right_iff]
    exact hplans
  · intro hfirst
    cases hplan : g.plan exclude with
    | ok plans =>
      exact absurd (plan_ok hplan).2 (hfirst.not_right WellFormed.of_prefix EventFault.breaks)
    | error e' =>
      rw [(plan_error hplan).unique WellFormed.of_prefix EventFault.breaks EventFault.unique hfirst]

end CommandGraph

end CommandWrap
