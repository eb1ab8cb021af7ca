import CommandWrap.Proofs.ModuleReading
import CommandWrap.Proofs.NormalNames
import CommandWrap.Proofs.Outcomes

/-!
# What a generated module means

The text of a module is meant to say what the plans say: the program and the route of every call, the name
of every flag, the attributes of every record, and the names of the wrappers.  It does so exactly for
faithful plans (`text_says_plans_iff`): a literal gives the code units of its string and not its characters,
so nothing may lie beyond `U+FFFF`; an attribute of a class is known in normal form, and under a longer name
if it is private; and the text has to be readable at all.

The wrappers of a readable text are then those of the graph, as long as the names of wrappers are in normal
form and no field stands in the place of the name of the module (`moduleWrappers_eq_iff`).
-/
namespace CommandWrap

open Source

/-! ## Strings -/

/-- No character lies beyond `U+FFFF`. -/
def IsBasic (s : String) : Prop :=
  ∀ c ∈ s.toList, c.toNat < 0x10000

instance (s : String) : Decidable (IsBasic s) :=
  inferInstanceAs (Decidable (∀ _ ∈ _, _))

theorem length_utf16 (n : Nat) : 1 ≤ (Text.AsciiLiteral.utf16 n).length := by
  rw [Text.AsciiLiteral.utf16]
  split <;> simp

theorem utf16_eq_iff (n : Nat) : Text.AsciiLiteral.utf16 n = [n] ↔ n < 0x10000 := by
  rw [Text.AsciiLiteral.utf16]
  split
  · rename_i h
    simp [h]
  · rename_i h
    simp [h]

/-- **A literal gives the characters of its string** if all of them are written by one code unit. -/
theorem unitsOf_eq_iff (s : String) : unitsOf s = codesOf s ↔ IsBasic s := by
  rw [unitsOf, codesOf, IsBasic]
  induction s.toList with
  | nil => simp
  | cons c cs ih =>
    rw [List.flatMap_cons, List.map_cons, List.forall_mem_cons, ← ih]
    constructor
    · intro h
      -- no character has less than one code unit, so none has more
      have hlength (cs : List Char) :
          cs.length ≤ (cs.flatMap fun c => Text.AsciiLiteral.utf16 c.toNat).length := by
        induction cs with
        | nil => exact Nat.le_refl _
        | cons d ds ih =>
          have := length_utf16 d.toNat
          rw [List.flatMap_cons, List.length_append, List.length_cons]
          omega
      have hsum := congrArg List.length h
      rw [List.length_append, List.length_cons, List.length_map] at hsum
      have hone : (Text.AsciiLiteral.utf16 c.toNat).length = [c.toNat].length := by
        have := length_utf16 c.toNat
        have := hlength cs
        rw [List.length_singleton]
        omega
      rw [← List.singleton_append] at h
      obtain ⟨hfirst, hrest⟩ := List.append_inj h hone
      exact ⟨(utf16_eq_iff _).mp hfirst, hrest⟩
    · rintro ⟨hc, hrest⟩
      rw [(utf16_eq_iff _).mpr hc, hrest]
      rfl

theorem IsBasic.append_iff {s t : String} (ht : IsBasic t) : IsBasic (s ++ t) ↔ IsBasic s := by
  rw [IsBasic, String.toList_append, List.forall_mem_append]
  exact and_iff_left ht

theorem codesOf_inj {s t : String} : codesOf s = codesOf t ↔ s = t := by
  constructor
  · intro h
    have hinj : Function.Injective Char.toNat := fun c d hcd => by
      rw [← Char.ofNat_toNat c, hcd, Char.ofNat_toNat]
    exact String.toList_inj.mp (List.map_injective_iff.mpr hinj h)
  · exact congrArg codesOf

/-! ## Sayings -/

/-- What is said of a command. -/
inductive Saying
  /-- The attributes of its records, with the names of their flags. -/
  | attributes (fields : List (String × List Nat))
  /-- The words of its call. -/
  | call (program : List Nat) (route : List (List Nat))
deriving DecidableEq

/-- What a definition says, by the rules of the language: attributes as their class knows them, and literals
as they are read. -/
def Source.Definition.saying : Definition → Saying
  | .record name _ fields => .attributes (fields.map fun f => (f.target (Attribute.known name), f.flag))
  | .builder _ _ _ program route => .call program route

namespace CommandPlan

variable (p : CommandPlan)

/-- What the plan of a command says. -/
def sayings : List Saying :=
  (p.optionName?.map fun _ =>
    Saying.attributes (p.fields.map fun f => (f.attr, codesOf f.flag.name))).toList ++
    [.call (codesOf p.program) (p.route.map codesOf)]

/-- **The text of a command says what its plan says**: it can be read, every attribute is known as it is
written, and every string is one of code units. -/
structure Faithful : Prop where
  readable : p.Readable
  normal : ∀ f ∈ p.fields, Attribute.known f.attr = f.attr
  notPrivate : ∀ f ∈ p.fields, ¬ IsPrivate f.attr
  basic : ∀ s ∈ p.base :: p.path ++ p.fields.map (·.flag.name), IsBasic s

end CommandPlan

/-- **A module says what the plans say**: of every command, and of the names that it exports. -/
def Source.ModuleSource.Says (m : ModuleSource) (plans : List CommandPlan) : Prop :=
  m.definitions.map Definition.saying = plans.flatMap CommandPlan.sayings ∧
    m.exports = (plans.flatMap CommandPlan.names).map codesOf

/-- Parts of equal lengths are equal one by one. -/
theorem flatMap_eq_flatMap_iff {α β : Type} {f g : α → List β} {xs : List α}
    (h : ∀ x ∈ xs, (f x).length = (g x).length) :
    xs.flatMap f = xs.flatMap g ↔ ∀ x ∈ xs, f x = g x := by
  induction xs with
  | nil => simp
  | cons x xs ih =>
    rw [List.forall_mem_cons] at h
    rw [List.flatMap_cons, List.flatMap_cons, List.forall_mem_cons, ← ih h.2]
    constructor
    · exact fun heq => List.append_inj heq h.1
    · rintro ⟨hfirst, hrest⟩
      rw [hfirst, hrest]

namespace CommandPlan

variable {p : CommandPlan}

/-- The class of the records has a name that is not only made of low lines. -/
theorem optionName_stem {name : String} (h : p.optionName? = some name) :
    ∃ c ∈ (Attribute.known name).toList, c ≠ '_' := by
  obtain rfl : p.base ++ Name.optionSuffix = name := by
    rw [optionName?] at h
    split at h
    · cases h
    · exact Option.some.inj h
  rw [Attribute.known_append _ (by decide), String.toList_append]
  exact ⟨'O', List.mem_append_right _ (by decide), by decide⟩

/-- **A record says what its plan says** for attributes that are known as they are written and flags whose
names are literals of their characters. -/
theorem saying_record_iff {name : String} (h : p.optionName? = some name) (doc : List Nat) :
    (Definition.record name doc (p.fields.map Field.source)).saying =
        .attributes (p.fields.map fun f => (f.attr, codesOf f.flag.name)) ↔
      ∀ f ∈ p.fields, (Attribute.known f.attr = f.attr ∧ ¬ IsPrivate f.attr) ∧ IsBasic f.flag.name := by
  rw [Definition.saying, Saying.attributes.injEq, List.map_map, List.map_inj_left]
  refine forall₂_congr fun f _ => ?_
  rw [Prod.mk.injEq]
  exact and_congr (target_eq_iff (optionName_stem h) f.source) (unitsOf_eq_iff _)

theorem saying_builder_iff :
    p.builderDefinition.saying = .call (codesOf p.program) (p.route.map codesOf) ↔
      IsBasic p.program ∧ ∀ w ∈ p.route, IsBasic w := by
  rw [builderDefinition, Definition.saying, Saying.call.injEq, List.map_inj_left]
  exact and_congr (unitsOf_eq_iff _) (forall₂_congr fun w _ => unitsOf_eq_iff w)

/-- **The definitions of a command say what its plan says** under the same conditions. -/
theorem sayings_iff :
    p.definitions.map Definition.saying = p.sayings ↔
      (∀ f ∈ p.fields, (Attribute.known f.attr = f.attr ∧ ¬ IsPrivate f.attr) ∧ IsBasic f.flag.name) ∧
        IsBasic p.program ∧ ∀ w ∈ p.route, IsBasic w := by
  rw [definitions, sayings]
  cases hname : p.optionName? with
  | none =>
    have hfields : ∀ f ∈ p.fields, False := by
      intro f hf
      rw [optionName?, if_neg] at hname
      · cases hname
      · rw [List.isEmpty_iff]
        exact List.ne_nil_of_mem hf
    have hall : ∀ f ∈ p.fields,
        (Attribute.known f.attr = f.attr ∧ ¬ IsPrivate f.attr) ∧ IsBasic f.flag.name :=
      fun f hf => (hfields f hf).elim
    rw [and_iff_right hall, ← saying_builder_iff]
    simp
  | some name =>
    rw [← saying_builder_iff, ← saying_record_iff hname (codesOf (p.recordType name).doc)]
    simp

theorem exported_iff : (∀ name ∈ p.names, unitsOf name = codesOf name) ↔ IsBasic p.base := by
  constructor
  · intro h
    have hbuilder := (unitsOf_eq_iff _).mp (h p.builderName (mem_names.mpr (.inr rfl)))
    exact (IsBasic.append_iff (by decide)).mp hbuilder
  · intro h name hname
    rw [unitsOf_eq_iff]
    rcases mem_names.mp hname with ⟨-, rfl⟩ | rfl
    · exact (IsBasic.append_iff (by decide)).mpr h
    · exact (IsBasic.append_iff (by decide)).mpr h

theorem path_eq (hpath : p.path ≠ []) : p.path = p.program :: p.route := by
  rw [program, route]
  cases hp : p.path with
  | nil => exact absurd hp hpath
  | cons first rest => rfl

theorem faithful_iff (hpath : p.path ≠ []) :
    p.Faithful ↔
      p.Readable ∧ p.definitions.map Definition.saying = p.sayings ∧
        ∀ name ∈ p.names, unitsOf name = codesOf name := by
  have hroute := path_eq hpath
  rw [sayings_iff, exported_iff]
  constructor
  · intro h
    have hbasic := h.basic
    rw [List.cons_append, List.forall_mem_cons, List.forall_mem_append, hroute, List.forall_mem_cons,
      List.forall_mem_map] at hbasic
    obtain ⟨hbase, ⟨hprogram, hwords⟩, hflags⟩ := hbasic
    exact ⟨h.readable, ⟨fun f hf => ⟨⟨h.normal f hf, h.notPrivate f hf⟩, hflags f hf⟩, hprogram, hwords⟩,
      hbase⟩
  · rintro ⟨hread, ⟨hfields, hprogram, hwords⟩, hbase⟩
    refine ⟨hread, fun f hf => (hfields f hf).1.1, fun f hf => (hfields f hf).1.2, ?_⟩
    rw [List.cons_append, List.forall_mem_cons, List.forall_mem_append, hroute, List.forall_mem_cons,
      List.forall_mem_map]
    exact ⟨hbase, ⟨hprogram, hwords⟩, fun f hf => (hfields f hf).2⟩

theorem length_sayings (p : CommandPlan) :
    (p.definitions.map Definition.saying).length = p.sayings.length := by
  rw [definitions, sayings]
  cases p.optionName? <;> rfl

end CommandPlan

/-! ## Texts -/

namespace ModuleText

/-- A module says what the plans say exactly if each command does. -/
theorem says_iff {first : CommandPlan} {rest : List CommandPlan} :
    (source first rest).Says (first :: rest) ↔
      ∀ p ∈ first :: rest, p.definitions.map Definition.saying = p.sayings ∧
        ∀ name ∈ p.names, unitsOf name = codesOf name := by
  have hdefinitions : (source first rest).definitions.map Definition.saying =
      (first :: rest).flatMap fun p => p.definitions.map Definition.saying := by
    rw [source, List.map_flatMap]
  rw [ModuleSource.Says, hdefinitions, flatMap_eq_flatMap_iff fun p _ => p.length_sayings, source,
    List.map_inj_left, List.forall_mem_flatMap]
  exact forall₂_and.symm

end ModuleText

namespace CommandGraph

variable {g : CommandGraph} {exclude : List String} {plans : List CommandPlan} {text : String}

/-- A generated text is that of its plans, of which there is one at least. -/
theorem generate_eq_ok (hplan : g.plan exclude = .ok plans)
    (htext : g.generate { exclude } = .ok text) :
    ∃ first rest, plans = first :: rest ∧
      text = ModuleText.joinLines (ModuleText.moduleLines ModuleText.defaultRuntime none first rest) := by
  rw [generate, hplan] at htext
  cases plans with
  | nil => cases htext
  | cons first rest =>
    refine ⟨first, rest, rfl, ?_⟩
    cases htext
    rfl

/-- **The module of plans**, if it can be read, and nothing otherwise. -/
theorem module?_generate (hplan : g.plan exclude = .ok plans)
    (htext : g.generate { exclude } = .ok text) {m : ModuleSource} :
    module? text = some m ↔
      (∀ p ∈ plans, p.Readable) ∧
        ∃ first rest, plans = first :: rest ∧ m = ModuleText.source first rest := by
  obtain ⟨first, rest, rfl, rfl⟩ := generate_eq_ok hplan htext
  have hsound : ∀ p ∈ first :: rest, p.Sound := fun p hp => sound_of_plan hplan hp
  by_cases hread : ∀ p ∈ first :: rest, p.Readable
  · rw [ModuleText.module?_eq_source hsound hread, Option.some.injEq]
    constructor
    · rintro rfl
      exact ⟨hread, first, rest, rfl, rfl⟩
    · rintro ⟨-, _, _, h, rfl⟩
      cases h
      rfl
  · rw [ModuleText.module?_eq_none hsound hread]
    constructor
    · intro h
      cases h
    · exact fun h => absurd h.1 hread

theorem path_ne_nil (hplan : g.plan exclude = .ok plans) {p : CommandPlan} (hp : p ∈ plans) :
    p.path ≠ [] := by
  obtain ⟨-, -, -, -, hpath⟩ := plan_visit hplan hp
  rw [hpath]
  exact List.cons_ne_nil _ _

theorem says_generate_iff (hplan : g.plan exclude = .ok plans)
    (htext : g.generate { exclude } = .ok text) :
    (∃ m, module? text = some m ∧ m.Says plans) ↔ ∀ p ∈ plans, p.Faithful := by
  have hfaithful : (∀ p ∈ plans, p.Faithful) ↔
      (∀ p ∈ plans, p.Readable) ∧ ∀ p ∈ plans, p.definitions.map Definition.saying = p.sayings ∧
        ∀ name ∈ p.names, unitsOf name = codesOf name := by
    rw [← forall₂_and]
    exact forall₂_congr fun p hp => CommandPlan.faithful_iff (path_ne_nil hplan hp)
  rw [hfaithful]
  constructor
  · rintro ⟨m, hm, hmeaning⟩
    obtain ⟨hread, first, rest, rfl, rfl⟩ := (module?_generate hplan htext).mp hm
    exact ⟨hread, ModuleText.says_iff.mp hmeaning⟩
  · rintro ⟨hread, hmeaning⟩
    obtain ⟨first, rest, rfl, -⟩ := generate_eq_ok hplan htext
    exact ⟨_, (module?_generate hplan htext).mpr ⟨hread, first, rest, rfl, rfl⟩,
      ModuleText.says_iff.mpr hmeaning⟩

end CommandGraph

/-! ## Wrappers of a module -/

theorem charsOf_map (cs : List Char) : charsOf (cs.map Char.toNat) = cs := by
  induction cs with
  | nil => rfl
  | cons c cs ih =>
    cases cs with
    | nil =>
      rw [List.map_singleton, charsOf, Char.ofNat_toNat]
    | cons d ds =>
      -- no character is half of another
      have hvalid : c.toNat < 0xD800 ∨ 0xDFFF < c.toNat ∧ c.toNat < 0x110000 := c.valid
      rw [List.map_cons, List.map_cons, charsOf, if_neg (by omega), Char.ofNat_toNat, ← List.map_cons, ih]

theorem textOf_codesOf (s : String) : textOf (codesOf s) = s := by
  rw [textOf, codesOf, charsOf_map, String.ofList_toList]

theorem textOf_unitsOf {s : String} (h : IsBasic s) : textOf (unitsOf s) = s := by
  rw [(unitsOf_eq_iff s).mpr h, textOf_codesOf]

/-- The wrapper under the name by which the language knows it. -/
def Wrapper.known : Wrapper → Wrapper
  | .record t => .record { t with name := Attribute.known t.name }
  | .builder b => .builder { b with name := Attribute.known b.name }

theorem putField_of_new {f : RecordField} {fs : List RecordField}
    (h : f.attr ∉ fs.map RecordField.attr) : putField f fs = fs ++ [f] := by
  induction fs with
  | nil => rfl
  | cons e rest ih =>
    rw [List.map_cons, List.mem_cons, not_or] at h
    have hne : (e.attr == f.attr) = false := by simpa using fun he => h.1 he.symm
    rw [putField, hne, ih h.2]
    rfl

namespace CommandPlan

variable {p : CommandPlan}

/-- What can be declared at once can be run as the body of a class, but for the name of the module. -/
theorem bodyFault?_of_fault {attrs : List String} (h : Attribute.fault? attrs = none) :
    Attribute.bodyFault? attrs = Attribute.checkModuleName attrs := by
  rw [Attribute.fault?, List.findSome?_eq_none_iff] at h
  have htypes := h Attribute.checkTypeNames (by simp)
  have hdefaults := h Attribute.checkDefaults (by simp)
  have hself := h Attribute.checkSelf (by simp)
  rw [Attribute.bodyFault?]
  cases hmodule : Attribute.checkModuleName attrs with
  | none => simp [List.findSome?, htypes, hmodule, hdefaults, hself]
  | some fault => simp [List.findSome?, htypes, hmodule]

theorem runFault?_eq_none {className : String} {fields : List SourceField} {bound : List String}
    (hbound : ∀ h ∈ Name.helpers, h ∉ bound)
    (hfields : ∀ f ∈ fields, f.target className ∉ Name.helpers ∧ f.target className ≠ "__annotations__") :
    runFault? className bound fields = none := by
  induction fields generalizing bound with
  | nil => rfl
  | cons f rest ih =>
    rw [List.forall_mem_cons] at hfields
    have hhelper : helperOf f.shape ∈ Name.helpers := by
      cases f.shape <;> decide
    have hfree : bound.contains (helperOf f.shape) = false := by
      rw [Bool.eq_false_iff, Ne, List.contains_iff_mem]
      exact hbound _ hhelper
    rw [runFault?, hfree, if_neg (by simp), if_neg hfields.1.2]
    refine ih (fun h hh => ?_) hfields.2
    rw [List.mem_cons, not_or]
    exact ⟨fun heq => hfields.1.1 (heq ▸ hh), hbound h hh⟩

theorem target_eq (hfaithful : p.Faithful) {f : Field} (hf : f ∈ p.fields) (className : String) :
    f.source.target className = f.attr := by
  change privateName className (Attribute.known f.attr) = f.attr
  rw [hfaithful.normal f hf, privateName_of_not (hfaithful.notPrivate f hf)]

/-- The fields of a faithful record are those of its plan. -/
theorem declarations_eq (hfaithful : p.Faithful) (className : String) :
    (p.fields.map Field.source).map (SourceField.declaration className) =
      p.fields.map Field.declaration := by
  rw [List.map_map]
  refine List.map_congr_left fun f hf => ?_
  have hflag : textOf f.source.flag = f.flag.name :=
    textOf_unitsOf (hfaithful.basic _ (List.mem_append_right _ (List.mem_map_of_mem hf)))
  rw [Function.comp_apply, SourceField.declaration, target_eq hfaithful hf, hflag]
  rfl

/-- **The class of records** can be run exactly if no field has the name of the module, and makes the type
of records of the plan. -/
theorem wrapper_record (hsound : p.Sound) (hfaithful : p.Faithful)
    (hnodup : (p.fields.map Field.attr).Nodup) (hfault : p.declarationFault? = none) (name : String) :
    (Definition.record name (codesOf (p.recordType name).doc) (p.fields.map Field.source)).wrapper =
      if "__module__" ∈ p.fields.map Field.attr then .error .moduleName
      else .ok (Wrapper.record (p.recordType name)).known := by
  have hattrs : (p.fields.map Field.declaration).map RecordField.attr = p.fields.map Field.attr := by
    rw [List.map_map]
    rfl
  have hfields : (p.fields.map Field.declaration).foldl (fun fs f => putField f fs) [] =
      p.fields.map Field.declaration :=
    foldl_put putField_of_new (by rwa [List.nil_append, hattrs])
  have hrun : runFault? (Attribute.known name) [] (p.fields.map Field.source) = none := by
    refine runFault?_eq_none (by simp) fun f hf => ?_
    obtain ⟨e, he, rfl⟩ := List.mem_map.mp hf
    rw [target_eq hfaithful he]
    have hfree : "__annotations__" ∉ p.fields.map Field.attr := Attribute.not_mem_of_fault hfault (by decide)
    refine ⟨(Name.field?_spec (hsound.fields e he)).2.2.2, ?_⟩
    intro h
    exact hfree (h ▸ List.mem_map_of_mem he)
  rw [Definition.wrapper]
  simp only [declarations_eq hfaithful, hfields, hrun, hattrs, Option.none_or,
    bodyFault?_of_fault hfault, textOf_codesOf]
  rw [Attribute.checkModuleName]
  by_cases hmodule : "__module__" ∈ p.fields.map Field.attr
  · rw [if_pos hmodule, if_pos (List.contains_iff_mem.mpr hmodule)]
  · rw [if_neg hmodule, if_neg (fun h => hmodule (List.contains_iff_mem.mp h))]
    rfl

theorem wrapper_builder (hfaithful : p.Faithful) (hpath : p.path ≠ []) :
    p.builderDefinition.wrapper = .ok (Wrapper.builder p.builder).known := by
  have hbasic : ∀ w ∈ p.program :: p.route, IsBasic w := by
    rw [← path_eq hpath]
    exact fun w hw => hfaithful.basic w (List.mem_append_left _ (List.mem_cons_of_mem _ hw))
  rw [List.forall_mem_cons] at hbasic
  have hroute : (p.route.map unitsOf).map textOf = p.route := by
    rw [List.map_map]
    exact (List.map_congr_left fun w hw => textOf_unitsOf (hbasic.2 w hw)).trans (List.map_id _)
  rw [builderDefinition, Definition.wrapper, textOf_unitsOf hbasic.1, hroute, textOf_codesOf]
  rfl

/-- The definitions of a faithful command make its wrappers, if no field has the name of the module. -/
theorem mapM_definitions (hsound : p.Sound) (hfaithful : p.Faithful) (hpath : p.path ≠ [])
    (hnodup : (p.fields.map Field.attr).Nodup) (hfault : p.declarationFault? = none)
    (hmodule : "__module__" ∉ p.fields.map Field.attr) :
    p.definitions.mapM Definition.wrapper = .ok (p.wrappers.map Wrapper.known) := by
  have hbuilder := wrapper_builder hfaithful hpath
  rw [definitions, wrappers, mapM_eq_ok_iff]
  cases p.optionName? with
  | none => exact .cons hbuilder .nil
  | some name =>
    have hrecord := wrapper_record hsound hfaithful hnodup hfault name
    rw [if_neg hmodule] at hrecord
    exact .cons hrecord (.cons hbuilder .nil)

end CommandPlan

theorem mapM_flatMap {α β γ ε : Type} {f : α → List β} {h : β → Except ε γ} {k : α → List γ}
    {xs : List α} (hxs : ∀ x ∈ xs, (f x).mapM h = .ok (k x)) :
    (xs.flatMap f).mapM h = .ok (xs.flatMap k) := by
  induction xs with
  | nil => rfl
  | cons x xs ih =>
    rw [List.forall_mem_cons] at hxs
    rw [List.flatMap_cons, List.mapM_append, hxs.1, ih hxs.2, List.flatMap_cons]
    rfl

/-- A command of a module can be taken from it: no field has the name of the module, and its wrappers have
the names that they are exported by. -/
structure CommandPlan.Importable (p : CommandPlan) : Prop where
  noModule : ∀ f ∈ p.fields, f.attr ≠ "__module__"
  normal : Attribute.known p.base = p.base

namespace CommandGraph

variable {g : CommandGraph} {exclude : List String} {plans : List CommandPlan} {text : String}
  {ws : List Wrapper}

/-- Running a readable text gives the wrappers that its module exports. -/
theorem moduleWrappers_eq (htext : g.generate { exclude } = .ok text) {m : ModuleSource}
    (hm : module? text = some m) :
    g.moduleWrappers exclude = m.wrappers.mapError .badAttribute := by
  have hnull : text.toList.any (·.toNat == 0) = false := by
    rw [Bool.eq_false_iff]
    intro h
    obtain ⟨c, hc, hcode⟩ := List.any_eq_true.mp h
    have hnone : lines? text.toList = none := lines?_of_null ⟨c, hc, by simpa using hcode⟩
    rw [module?, hnone] at hm
    cases hm
  rw [moduleWrappers, htext]
  simp only [wrappersOfText, hnull, hm, Bool.false_eq_true, if_false]

theorem known_eq_of_name {w : Wrapper} (h : Attribute.known w.name = w.name) : w.known = w := by
  cases w with
  | record t =>
    change Wrapper.record { t with name := Attribute.known t.name } = _
    rw [show Attribute.known t.name = t.name from h]
  | builder b =>
    change Wrapper.builder { b with name := Attribute.known b.name } = _
    rw [show Attribute.known b.name = b.name from h]

/-- The names made from a base name in normal form are in normal form. -/
theorem known_of_mem_names {p : CommandPlan} (h : Attribute.known p.base = p.base) {name : String}
    (hname : name ∈ p.names) : Attribute.known name = name := by
  rcases CommandPlan.mem_names.mp hname with ⟨-, rfl⟩ | rfl
  · rw [Attribute.known_append _ (by decide), h]
  · rw [CommandPlan.builderName, Attribute.known_append _ (by decide), h]

/-- A wrapper of a name of its own is the one that is exported under it. -/
theorem exported_eq {w : Wrapper} (hw : w ∈ ws) (hnodup : (ws.map Wrapper.name).Nodup) :
    exported ws (codesOf w.name) = .ok w := by
  have hfound : (ws.reverse.find? fun v => codesOf v.name == codesOf w.name).isSome = true := by
    rw [List.find?_isSome]
    exact ⟨w, List.mem_reverse.mpr hw, by simp⟩
  obtain ⟨v, hv⟩ := Option.isSome_iff_exists.mp hfound
  have hmem := List.mem_reverse.mp (List.mem_of_find?_eq_some hv)
  have hname : v.name = w.name := codesOf_inj.mp (by simpa using List.find?_some hv)
  obtain rfl : v = w := List.inj_on_of_nodup_map hnodup hmem hw hname
  rw [exported, hv]

/-- A wrapper that is exported is one of those that are defined. -/
theorem mem_of_exported {name : List Nat} {w : Wrapper} (h : exported ws name = .ok w) : w ∈ ws := by
  rw [exported] at h
  split at h
  · rename_i v hv
    obtain rfl := Except.ok.inj h
    exact List.mem_reverse.mp (List.mem_of_find?_eq_some hv)
  · cases h

/-- Two commands of a plan with the same call are the same. -/
theorem plan_eq_of_call (hplan : g.plan exclude = .ok plans) {p q : CommandPlan} (hp : p ∈ plans)
    (hq : q ∈ plans) (hprogram : p.program = q.program) (hroute : p.route = q.route) : p.base = q.base := by
  have hpath : p.path = q.path := by
    rw [CommandPlan.path_eq (path_ne_nil hplan hp), CommandPlan.path_eq (path_ne_nil hplan hq), hprogram,
      hroute]
  -- the base name is made from the path, which is the program and the route
  have hbase := (sound_of_plan hplan hp).base
  rw [hpath, (sound_of_plan hplan hq).base] at hbase
  exact (Option.some.inj hbase).symm

/-- Without a field of the name of the module, all definitions of faithful commands make wrappers. -/
theorem mapM_of_no_module (hplan : g.plan exclude = .ok plans)
    (hfault : ∀ p ∈ plans, p.declarationFault? = none) (hfaithful : ∀ p ∈ plans, p.Faithful)
    (hmodule : ∀ p ∈ plans, "__module__" ∉ p.fields.map Field.attr) :
    (plans.flatMap CommandPlan.definitions).mapM Definition.wrapper =
      .ok ((plans.flatMap CommandPlan.wrappers).map Wrapper.known) := by
  rw [List.map_flatMap]
  exact mapM_flatMap fun p hp => CommandPlan.mapM_definitions (sound_of_plan hplan hp) (hfaithful p hp)
    (path_ne_nil hplan hp) (plan_attr_nodup hplan hp) (hfault p hp) (hmodule p hp)

/-- If all definitions make wrappers, no field has the name of the module. -/
theorem no_module_of_mapM (hplan : g.plan exclude = .ok plans)
    (hfault : ∀ p ∈ plans, p.declarationFault? = none) (hfaithful : ∀ p ∈ plans, p.Faithful)
    (hmade : (plans.flatMap CommandPlan.definitions).mapM Definition.wrapper = .ok ws) :
    ∀ p ∈ plans, "__module__" ∉ p.fields.map Field.attr := by
  intro p hp hmem
  obtain ⟨f, hf, -⟩ := List.mem_map.mp hmem
  have hname := ModuleText.optionName?_of_mem hf
  have hrecord := CommandPlan.wrapper_record (sound_of_plan hplan hp) (hfaithful p hp)
    (plan_attr_nodup hplan hp) (hfault p hp) (p.base ++ Name.optionSuffix)
  rw [if_pos hmem] at hrecord
  have hdefinition : Definition.record (p.base ++ Name.optionSuffix)
      (codesOf (p.recordType (p.base ++ Name.optionSuffix)).doc) (p.fields.map Field.source) ∈
      plans.flatMap CommandPlan.definitions := by
    refine List.mem_flatMap.mpr ⟨p, hp, ?_⟩
    rw [CommandPlan.definitions, hname]
    exact List.mem_cons_self ..
  -- its definition makes a wrapper like the others, but it cannot be run
  obtain ⟨w, -, hw⟩ := exists_right_of_mem (mapM_eq_ok_iff.mp hmade) hdefinition
  rw [hrecord] at hw
  cases hw

/-- The exported names of faithful commands are those of their wrappers. -/
theorem exports_of_faithful (hfaithful : ∀ p ∈ plans, p.Faithful) :
    (plans.flatMap CommandPlan.names).map unitsOf =
      (plans.flatMap CommandPlan.wrappers).map fun w => codesOf w.name := by
  have hbasic : ∀ name ∈ plans.flatMap CommandPlan.names, unitsOf name = codesOf name := by
    intro name hname
    obtain ⟨p, hp, hname⟩ := List.mem_flatMap.mp hname
    exact CommandPlan.exported_iff.mpr ((hfaithful p hp).basic _ (by simp)) name hname
  rw [List.map_congr_left hbasic, ← wrappers_map_name, List.map_map]
  rfl

/-- The builder of a command is known under its name only if the base name is in normal form: no other
command has a builder of the same call. -/
theorem normal_of_known (hplan : g.plan exclude = .ok plans) {p : CommandPlan} (hp : p ∈ plans)
    (hknown : Wrapper.builder p.builder ∈ (plans.flatMap CommandPlan.wrappers).map Wrapper.known) :
    Attribute.known p.base = p.base := by
  obtain ⟨w, hw, hknown⟩ := List.mem_map.mp hknown
  obtain ⟨q, hq, hw⟩ := List.mem_flatMap.mp hw
  have hcall : (Wrapper.builder q.builder).known = .builder p.builder := by
    rcases CommandPlan.mem_wrappers.mp hw with ⟨name, -, rfl⟩ | rfl
    · cases hknown
    · exact hknown
  have hcall := Wrapper.builder.inj hcall
  rw [CommandPlan.builder, CommandPlan.builder, Builder.mk.injEq] at hcall
  have hnormal := hcall.1
  rw [CommandPlan.builderName, CommandPlan.builderName,
    plan_eq_of_call hplan hq hp hcall.2.1 hcall.2.2.1, Attribute.known_append _ (by decide)] at hnormal
  exact (String.append_left_inj _).mp hnormal

/-- The wrappers of commands whose base names are in normal form are known under their names. -/
theorem map_known (h : ∀ p ∈ plans, Attribute.known p.base = p.base) :
    (plans.flatMap CommandPlan.wrappers).map Wrapper.known = plans.flatMap CommandPlan.wrappers := by
  refine (List.map_congr_left fun w hw => ?_).trans (List.map_id _)
  obtain ⟨p, hp, hw⟩ := List.mem_flatMap.mp hw
  have hname : w.name ∈ p.names := by
    rw [← CommandPlan.wrappers_map_name]
    exact List.mem_map_of_mem hw
  exact known_eq_of_name (known_of_mem_names (h p hp) hname)

/-- **The wrappers of the text are those of the graph** exactly if all commands can be imported. -/
theorem moduleWrappers_eq_iff (hplan : g.plan exclude = .ok plans)
    (htext : g.generate { exclude } = .ok text) (hws : g.wrappers exclude = .ok ws)
    (hfaithful : ∀ p ∈ plans, p.Faithful) :
    g.moduleWrappers exclude = .ok ws ↔ ∀ p ∈ plans, p.Importable := by
  obtain ⟨first, rest, rfl, -⟩ := generate_eq_ok hplan htext
  obtain ⟨hfault, rfl⟩ := (wrappers_eq_ok hplan).mp hws
  have hm : module? text = some (ModuleText.source first rest) :=
    (module?_generate hplan htext).mpr ⟨fun p hp => (hfaithful p hp).readable, first, rest, rfl, rfl⟩
  have hnames : (((first :: rest).flatMap CommandPlan.wrappers).map Wrapper.name).Nodup := by
    rw [wrappers_map_name]
    exact names_nodup (plan_base_nodup hplan)
  rw [moduleWrappers_eq htext hm, mapError_eq_ok_iff, ModuleSource.wrappers, bind_eq_ok_iff,
    ModuleText.source, exports_of_faithful hfaithful]
  constructor
  · rintro ⟨defined, hmade, hexported⟩
    have hmodule := no_module_of_mapM hplan hfault hfaithful hmade
    rw [mapM_of_no_module hplan hfault hfaithful hmodule] at hmade
    obtain rfl := Except.ok.inj hmade
    intro p hp
    refine ⟨fun f hf h => hmodule p hp (h ▸ List.mem_map_of_mem hf), ?_⟩
    have hbuilder : Wrapper.builder p.builder ∈ (first :: rest).flatMap CommandPlan.wrappers :=
      List.mem_flatMap.mpr ⟨p, hp, CommandPlan.mem_wrappers.mpr (.inr rfl)⟩
    obtain ⟨name, -, hname⟩ := exists_left_of_mem (mapM_eq_ok_iff.mp hexported) hbuilder
    exact normal_of_known hplan hp (mem_of_exported hname)
  · intro himport
    have hmodule : ∀ p ∈ first :: rest, "__module__" ∉ p.fields.map Field.attr := by
      intro p hp hmem
      obtain ⟨f, hf, h⟩ := List.mem_map.mp hmem
      exact (himport p hp).noModule f hf h
    refine ⟨_, mapM_of_no_module hplan hfault hfaithful hmodule, ?_⟩
    rw [map_known fun p hp => (himport p hp).normal, mapM_eq_ok_iff, List.forall₂_map_left_iff]
    exact List.forall₂_same.mpr fun w hw => exported_eq hw hnames

/-- **The static module means what the dynamic wrappers mean** exactly for faithful plans: then its text says
what the plans say, and it has the wrappers of the graph exactly if all commands can be imported. -/
theorem text_says_plans_iff (hplan : g.plan exclude = .ok plans)
    (htext : g.generate { exclude } = .ok text) :
    ((∃ m, module? text = some m ∧ m.Says plans) ↔ ∀ p ∈ plans, p.Faithful) ∧
      ∀ ws, g.wrappers exclude = .ok ws → (∀ p ∈ plans, p.Faithful) →
        (g.moduleWrappers exclude = .ok ws ↔ ∀ p ∈ plans, p.Importable) :=
  ⟨says_generate_iff hplan htext, fun _ hws => moduleWrappers_eq_iff hplan htext hws⟩

/-- The text of a command with one flag. -/
def textOfFlag (flag : String) : String :=
  ModuleText.joinLines (ModuleText.moduleLines ModuleText.defaultRuntime none (planOfFlag flag) [])

/-- The text says what it should of the flag `--label`, but not of the flag `--__x`. -/
theorem text_says_label :
    (∃ m, module? (textOfFlag "label") = some m ∧ m.Says [planOfFlag "label"]) ∧
      (ofFlag "label").moduleWrappers [] = .ok (planOfFlag "label").wrappers ∧
      ¬ ∃ m, module? (textOfFlag "__x") = some m ∧ m.Says [planOfFlag "__x"] := by
  have hplan : (ofFlag "label").plan [] = .ok [planOfFlag "label"] := by decide +kernel
  have htext : (ofFlag "label").generate { exclude := [] } = .ok (textOfFlag "label") := by
    rw [generate, hplan]
    rfl
  have hws : (ofFlag "label").wrappers [] = .ok (planOfFlag "label").wrappers := by decide +kernel
  have hplan' : (ofFlag "__x").plan [] = .ok [planOfFlag "__x"] := by decide +kernel
  have htext' : (ofFlag "__x").generate { exclude := [] } = .ok (textOfFlag "__x") := by
    rw [generate, hplan']
    rfl
  have hfaithful : ∀ p ∈ [planOfFlag "label"], p.Faithful := by
    rw [List.forall_mem_singleton]
    refine ⟨⟨?_, ?_⟩, ?_, ?_, ?_⟩
    · unfold CommandPlan.Clean
      decide +kernel
    · unfold CommandPlan.Assignable
      decide +kernel
    · decide +kernel
    · decide +kernel
    · decide +kernel
  have himport : ∀ p ∈ [planOfFlag "label"], p.Importable := by
    rw [List.forall_mem_singleton]
    exact ⟨by decide +kernel, by decide +kernel⟩
  obtain ⟨hmeaning, hwrappers⟩ := text_says_plans_iff hplan htext
  refine ⟨hmeaning.mpr hfaithful, (hwrappers _ hws hfaithful).mpr himport, fun h => ?_⟩
  have hfaithful' := (text_says_plans_iff hplan' htext').1.mp h _ (List.mem_singleton.mpr rfl)
  exact hfaithful'.notPrivate _ (List.mem_singleton.mpr rfl) (by decide +kernel)

end CommandGraph

end CommandWrap
