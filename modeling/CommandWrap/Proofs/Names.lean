import CommandWrap.Proofs.Planning
import CommandWrap.Session

/-!
# The names of wrappers

Base names of planned commands are pairwise distinct, and the two suffixes keep the names made from them
apart: a name that ends in one suffix does not end in the other, and of two names that end in one suffix
the base names can be read off.  So the names of all wrappers are pairwise distinct (`names_nodup`), no
wrapper takes the place of another (`wrappersOfPlans_eq_ok`), and each is found under its name.
-/
namespace CommandWrap

/-! ## Suffixes -/

namespace Name

/-- A name of an option record is no name of a builder. -/
theorem option_ne_builder (s t : String) : s ++ optionSuffix ≠ t ++ builderSuffix := by
  intro h
  have hlast := congrArg (fun u : String => u.toList.getLast?) h
  simp [optionSuffix, builderSuffix, String.toList_append] at hlast

/-- What none of some words ends in keeps a name apart from all of them. -/
theorem append_suffix_not_mem {words : List String} {suffix : String}
    (h : ∀ w ∈ words, ¬ suffix.toList <:+ w.toList) (s : String) : s ++ suffix ∉ words := by
  intro hmem
  refine h _ hmem ?_
  rw [String.toList_append]
  exact List.suffix_append ..

theorem isIdentifier_append {cs ds : List Char} (h : Unicode.isIdentifier cs = true)
    (hds : ds.all Unicode.isIdentifierContinue = true) :
    Unicode.isIdentifier (cs ++ ds) = true := by
  cases cs with
  | nil => cases h
  | cons c cs =>
    simp only [Unicode.isIdentifier, List.cons_append, Bool.and_eq_true, List.all_append] at h ⊢
    exact ⟨h.1, h.2, hds⟩

theorem base?_eq_some {path : List String} {base : String} (h : base? path = some base) :
    base = String.ofList (pathWord path) ∧ Unicode.isIdentifier (pathWord path) = true := by
  rw [base?] at h
  split at h
  · rename_i hword
    exact ⟨(Option.some.inj h).symm, hword⟩
  · cases h

end Name

namespace CommandPlan

variable {p q : CommandPlan}

theorem mem_names {name : String} :
    name ∈ p.names ↔ (p.fields ≠ [] ∧ name = p.base ++ Name.optionSuffix) ∨ name = p.builderName := by
  cases hf : p.fields with
  | nil => simp [names, optionName?, hf]
  | cons f fs => simp [names, optionName?, hf]

theorem names_nodup (p : CommandPlan) : p.names.Nodup := by
  have hne := Name.option_ne_builder p.base p.base
  cases hf : p.fields with
  | nil => simp [names, optionName?, hf]
  | cons f fs => simpa [names, optionName?, builderName, hf] using hne

/-- Plans of different base names define different names. -/
theorem names_disjoint (h : p.base ≠ q.base) : List.Disjoint p.names q.names := by
  intro name hp hq
  rcases mem_names.mp hp with ⟨-, rfl⟩ | rfl
  · rcases mem_names.mp hq with ⟨-, hq⟩ | hq
    · exact h ((String.append_left_inj _).mp hq)
    · exact Name.option_ne_builder _ _ hq
  · rcases mem_names.mp hq with ⟨-, hq⟩ | hq
    · exact Name.option_ne_builder _ _ hq.symm
    · exact h ((String.append_left_inj _).mp hq)

theorem mem_wrappers {w : Wrapper} :
    w ∈ p.wrappers ↔ (∃ name, p.optionName? = some name ∧ w = .record (p.recordType name)) ∨
      w = .builder p.builder := by
  cases hname : p.optionName? with
  | none => simp [wrappers, hname]
  | some name => simp [wrappers, hname]

theorem wrappers_map_name (p : CommandPlan) : p.wrappers.map Wrapper.name = p.names := by
  unfold wrappers names
  cases p.optionName? <;> rfl

end CommandPlan

/-- **The names of all wrappers are pairwise distinct.** -/
theorem names_nodup {plans : List CommandPlan} (h : (plans.map CommandPlan.base).Nodup) :
    (plans.flatMap CommandPlan.names).Nodup := by
  rw [List.nodup_flatMap]
  refine ⟨fun p _ => p.names_nodup, ?_⟩
  have := List.pairwise_map.mp h
  exact this.imp CommandPlan.names_disjoint

theorem wrappers_map_name (plans : List CommandPlan) :
    (plans.flatMap CommandPlan.wrappers).map Wrapper.name = plans.flatMap CommandPlan.names := by
  rw [List.map_flatMap]
  simp only [CommandPlan.wrappers_map_name]

/-- No attribute of records that can be declared has something shared for its default. -/
theorem Attribute.not_mem_of_fault {attrs : List String} (h : fault? attrs = none) {attr : String}
    (hshared : sharedKinds.lookup attr ≠ none) : attr ∉ attrs := by
  intro hmem
  rw [fault?, List.findSome?_eq_none_iff] at h
  have hdefaults := h checkDefaults (by simp)
  rw [checkDefaults, List.findSome?_eq_none_iff] at hdefaults
  exact hshared (Option.map_eq_none_iff.mp (hdefaults attr hmem))

/-! ## Wrappers by their names -/

theorem putWrapper_of_new {w : Wrapper} {ws : List Wrapper} (h : w.name ∉ ws.map Wrapper.name) :
    putWrapper w ws = ws ++ [w] := by
  induction ws with
  | nil => rfl
  | cons v rest ih =>
    rw [List.map_cons, List.mem_cons, not_or] at h
    have hne : (v.name == w.name) = false := by simpa using fun he => h.1 he.symm
    rw [putWrapper, hne, ih h.2]
    rfl

/-- Rows of distinct keys are kept as they are listed, if a new row is put behind the others. -/
theorem foldl_put {α : Type} {key : α → String} {put : α → List α → List α}
    (hput : ∀ {row done}, key row ∉ done.map key → put row done = done ++ [row]) {rows done : List α}
    (h : ((done ++ rows).map key).Nodup) :
    rows.foldl (fun done row => put row done) done = done ++ rows := by
  induction rows generalizing done with
  | nil => simp
  | cons row rest ih =>
    have hnew : key row ∉ done.map key := by
      rw [List.map_append, List.nodup_append] at h
      intro hmem
      exact h.2.2 _ hmem _ (by simp) rfl
    rw [List.foldl_cons, hput hnew, ih (by simpa using h)]
    simp

theorem wrappersOfPlans_eq_ok {plans : List CommandPlan} {ws : List Wrapper}
    (hbase : (plans.map CommandPlan.base).Nodup) :
    wrappersOfPlans plans = .ok ws ↔
      (∀ p ∈ plans, p.declarationFault? = none) ∧ ws = plans.flatMap CommandPlan.wrappers := by
  have hnames : ((plans.flatMap CommandPlan.wrappers).map Wrapper.name).Nodup := by
    rw [wrappers_map_name]
    exact names_nodup hbase
  have hfold : (plans.flatMap CommandPlan.wrappers).foldl (fun ws w => putWrapper w ws) [] =
      plans.flatMap CommandPlan.wrappers :=
    foldl_put putWrapper_of_new (by rwa [List.nil_append])
  rw [wrappersOfPlans, hfold]
  cases hfault : plans.findSome? CommandPlan.declarationFault? with
  | none =>
    have hall := List.findSome?_eq_none_iff.mp hfault
    exact ⟨fun h => ⟨hall, (Except.ok.inj h).symm⟩, fun h => by rw [h.2]⟩
  | some fault =>
    obtain ⟨p, hp, hpf⟩ := List.exists_of_findSome?_eq_some hfault
    constructor
    · intro h
      cases h
    · rintro ⟨hall, -⟩
      rw [hall p hp] at hpf
      cases hpf

/-- A wrapper among wrappers of distinct names is found under its name. -/
theorem wrapper_eq_ok {ws : List Wrapper} (h : (ws.map Wrapper.name).Nodup) {w : Wrapper}
    (hw : w ∈ ws) : Session.wrapper ws w.name = .ok w := by
  have hfind : ws.find? (·.name == w.name) = some w := by
    induction ws with
    | nil => cases hw
    | cons v rest ih =>
      rw [List.map_cons, List.nodup_cons] at h
      rcases List.mem_cons.mp hw with rfl | hw
      · simp
      · have hne : (v.name == w.name) = false := by
          rw [beq_eq_false_iff_ne]
          intro he
          exact h.1 (he ▸ List.mem_map_of_mem hw)
        rw [List.find?_cons, hne]
        exact ih h.2 hw
  rw [Session.wrapper, hfind]

namespace CommandGraph

variable {g : CommandGraph} {exclude : List String} {plans : List CommandPlan}

/-! ## The plans of a graph -/

/-- Every visited path starts at the root. -/
theorem head_of_mem_walkAgenda (excluded : List String) (agenda : List (AgendaEntry g.size))
    (root : String) (h : ∀ e ∈ agenda, e.path.head? = some root) :
    ∀ v ∈ visits (g.walkAgenda excluded agenda), v.2.head? = some root := by
  fun_induction walkAgenda g excluded agenda with
  | case1 => simp
  | case2 e agenda hloop => simp
  | case3 e agenda hloop hskip ih =>
    rw [visits_skip]
    exact ih fun e' he' => h e' (List.mem_cons_of_mem _ he')
  | case4 e agenda hloop hskip ih =>
    rw [visits_visit]
    have hroot := h e (List.mem_cons_self ..)
    intro v hv
    rcases List.mem_cons.mp hv with rfl | hv
    · exact hroot
    refine ih ?_ v hv
    intro e' he'
    rcases List.mem_append.mp he' with he' | he'
    · obtain ⟨c, -, rfl⟩ := List.mem_map.mp he'
      simp [List.head?_append, hroot]
    · exact h e' (List.mem_cons_of_mem _ he')

theorem head_of_mem_visits {v : Fin g.size × List String} (hv : v ∈ visits (g.walk exclude)) :
    v.2.head? = some g.name :=
  head_of_mem_walkAgenda _ _ _ (by simp) v hv

/-- The base names of plans are pairwise distinct. -/
theorem plan_base_nodup (h : g.plan exclude = .ok plans) : (plans.map CommandPlan.base).Nodup := by
  obtain ⟨hof, hwf⟩ := plan_ok h
  have hmap : (visits (g.walk exclude)).map (fun v => Name.base? v.2) =
      (plans.map CommandPlan.base).map some := by
    rw [List.map_map, ← List.forall₂_eq_eq_eq, List.forall₂_map_left_iff, List.forall₂_map_right_iff]
    exact hof.imp fun _ _ hp => hp.base
  have hnodup := hwf.apart
  rw [hmap] at hnodup
  exact hnodup.of_map _

/-- What is known of a plan of a graph: its command is visited, and its path starts at the root. -/
theorem plan_visit (h : g.plan exclude = .ok plans) {p : CommandPlan} (hp : p ∈ plans) :
    ∃ v ∈ visits (g.walk exclude), g.PlanOf v p ∧ FlagsFit p.info.flags ∧
      p.path = g.name :: p.route := by
  obtain ⟨hof, hwf⟩ := plan_ok h
  obtain ⟨v, hv, hplan⟩ := hof.exists_visit hp
  refine ⟨v, hv, hplan, ?_, ?_⟩
  · rw [hplan.info]
    exact hwf.flags v hv
  · have hhead := head_of_mem_visits hv
    rw [← hplan.path] at hhead
    rw [CommandPlan.route]
    cases hpath : p.path with
    | nil => simp [hpath] at hhead
    | cons first rest => simpa [hpath] using hhead

/-- The attributes of an option record are pairwise distinct. -/
theorem plan_attr_nodup (h : g.plan exclude = .ok plans) {p : CommandPlan} (hp : p ∈ plans) :
    (p.fields.map Field.attr).Nodup := by
  obtain ⟨v, -, hplan, hfit, -⟩ := plan_visit h hp
  rw [hplan.info] at hfit
  exact hplan.fields.nodup_attr hfit

/-- The wrappers of a graph are those of its plans in order, each found under its name. -/
theorem wrappers_eq_ok (h : g.plan exclude = .ok plans) {ws : List Wrapper} :
    g.wrappers exclude = .ok ws ↔
      (∀ p ∈ plans, p.declarationFault? = none) ∧ ws = plans.flatMap CommandPlan.wrappers := by
  rw [wrappers, h]
  exact wrappersOfPlans_eq_ok (plan_base_nodup h)

/-! ## A command with one flag -/

/-- A command with one flag that may be repeated. -/
def ofFlag (flag : String) : CommandGraph :=
  ofTree (.node { name := "tool", flags := [{ name := flag, type := "list" }] } [])

/-- The plan of the command. -/
def planOfFlag (flag : String) : CommandPlan :=
  { info := { name := "tool", flags := [{ name := flag, type := "list" }] }
    path := ["tool"]
    base := "Tool"
    fields := [{ flag := { name := flag, type := "list" }, attr := flag, type := .list }] }

end CommandGraph

end CommandWrap
