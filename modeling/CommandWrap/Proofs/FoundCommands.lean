import CommandWrap.Proofs.Pruning

/-!
# Commands are found where they are planned

Names lead from the root to a command, each by way of the first child of its name, while a walk visits every
child.  What is found is always the end of some way (`exists_way_of_findFrom`).  In a graph that is planned with
nothing excluded every way is open (`open_of_plan`), and no two ways have one path, because their commands would
take one base name (`path_inj_of_plan`).  So the first child of a name is the only one, and looking up the path of
a way leads to its end (`find_path`).
-/
namespace CommandWrap.CommandGraph

variable {g : CommandGraph}

/-! ## Looking up names -/

theorem findFrom_append (g : CommandGraph) (i : Fin g.size) (names more : List String) :
    g.findFrom i (names ++ more) = (g.findFrom i names).bind fun j => g.findFrom j more := by
  induction names generalizing i with
  | nil => rfl
  | cons name names ih =>
    rw [List.cons_append, findFrom, findFrom]
    cases (g.children i).find? fun c => (g.info c).name == name with
    | none => rfl
    | some c => exact ih c

/-- A name leads to a child of that name. -/
theorem findFrom_singleton (g : CommandGraph) (i : Fin g.size) (name : String) :
    (∃ c ∈ g.children i, (g.info c).name = name ∧ g.findFrom i [name] = .ok c) ∨
      (∀ c ∈ g.children i, (g.info c).name ≠ name) ∧ g.findFrom i [name] = .error name := by
  rw [findFrom]
  cases hfind : (g.children i).find? fun c => (g.info c).name == name with
  | some c =>
    have hname : (g.info c).name = name := by simpa using List.find?_some hfind
    exact .inl ⟨c, List.mem_of_find?_eq_some hfind, hname, rfl⟩
  | none =>
    refine .inr ⟨fun c hc => ?_, rfl⟩
    simpa using List.find?_eq_none.mp hfind c hc

/-- **What is found ends a way** whose path continues by the names. -/
theorem exists_way_of_findFrom (w : g.Way) {names : List String} {i : Fin g.size}
    (h : g.findFrom w.node names = .ok i) : ∃ v : g.Way, v.node = i ∧ v.path = w.path ++ names := by
  induction names generalizing w with
  | nil => exact ⟨w, Except.ok.inj h, (List.append_nil _).symm⟩
  | cons name names ih =>
    rw [← List.singleton_append, findFrom_append] at h
    rcases g.findFrom_singleton w.node name with ⟨c, hc, hname, hfound⟩ | ⟨-, hlost⟩
    · rw [hfound] at h
      obtain ⟨k, rfl⟩ := List.get_of_mem hc
      obtain ⟨v, hnode, hpath⟩ := ih (w.child k) h
      refine ⟨v, hnode, ?_⟩
      rw [hpath, Way.path_child, hname, List.append_assoc, List.singleton_append]
    · rw [hlost] at h
      cases h

/-- **Names that lead nowhere** stop at the first name that no child of the command before has. -/
theorem exists_of_findFrom_error {i : Fin g.size} {names : List String} {name : String}
    (h : g.findFrom i names = .error name) : ∃ before after j, names = before ++ name :: after ∧
      g.findFrom i before = .ok j ∧ ∀ c ∈ g.children j, (g.info c).name ≠ name := by
  induction names generalizing i with
  | nil => cases h
  | cons first names ih =>
    rw [← List.singleton_append, findFrom_append] at h
    rcases g.findFrom_singleton i first with ⟨c, -, -, hfound⟩ | ⟨hnone, hlost⟩
    · rw [hfound] at h
      obtain ⟨before, after, j, rfl, hbefore, hnone⟩ := ih h
      refine ⟨first :: before, after, j, rfl, ?_, hnone⟩
      rw [← List.singleton_append, findFrom_append, hfound]
      exact hbefore
    · rw [hlost] at h
      cases h
      exact ⟨[], names, i, rfl, rfl, hnone⟩

/-! ## Planned graphs -/

section Planned

variable {plans : List CommandPlan} (h : g.plan [] = .ok plans)
include h

/-- Where nothing is excluded, every way is open. -/
theorem open_of_plan (w : g.Way) : w.Open [] := by
  obtain ⟨hmet, -⟩ := visits_of_plan h
  have hpasses {v : g.Way} (hv : v ∈ g.met []) : v.Passes [] := ⟨hmet v hv, List.not_mem_nil⟩
  have hall : w ∈ g.met [] := by
    induction w using Way.induct with
    | root => exact Way.self_mem_descend _
    | child w k ih => exact Way.child_mem_descend ih (hpasses ih) k
  exact mem_opens.mp (List.mem_filter.mpr ⟨hall, decide_eq_true (hpasses hall)⟩)

theorem stop_mem_visits (w : g.Way) : w.stop ∈ visits (g.walk []) := by
  have hvisits : visits (g.walk []) = (g.opens []).map Way.stop := (visits_of_plan h).2
  rw [hvisits]
  exact List.mem_map_of_mem (mem_opens.mpr (open_of_plan h w))

/-- **Ways of one path** end at one command. -/
theorem path_inj_of_plan {w v : g.Way} (hpath : w.path = v.path) : w.node = v.node := by
  have hbase : Name.base? w.stop.2 = Name.base? v.stop.2 := congrArg Name.base? hpath
  exact congrArg Prod.fst ((plan_ok h).2.visit_eq (stop_mem_visits h w) (stop_mem_visits h v) hbase)

/-- **The path of a way leads to its end.** -/
theorem find_path (w : g.Way) : ∃ names, w.path = g.name :: names ∧ g.find names = .ok w.node := by
  induction w using Way.induct with
  | root => exact ⟨[], rfl, rfl⟩
  | child w k ih =>
    obtain ⟨names, hpath, hfind⟩ := ih
    have hchild : (w.child k).path = g.name :: (names ++ [(g.info ((g.children w.node).get k)).name]) := by
      rw [Way.path_child, hpath, List.cons_append]
    refine ⟨_, hchild, ?_⟩
    rw [find] at hfind
    rw [find, findFrom_append, hfind]
    rcases g.findFrom_singleton w.node (g.info ((g.children w.node).get k)).name with
      ⟨c, hc, hname, hfound⟩ | ⟨hnone, -⟩
    · -- the first child of the name is at the end of a way with the same path
      obtain ⟨l, rfl⟩ := List.get_of_mem hc
      have hsame : (w.child l).path = (w.child k).path := by
        rw [Way.path_child, Way.path_child, hname]
      exact hfound.trans (congrArg Except.ok (path_inj_of_plan h hsame))
    · exact absurd rfl (hnone _ (List.get_mem ..))

/-- The command of a plan is the one that its route leads to. -/
theorem find_of_visit {v : Fin g.size × List String} (hv : v ∈ visits (g.walk [])) :
    v.2 = g.name :: v.2.tail ∧ g.find v.2.tail = .ok v.1 := by
  rw [(visits_of_plan h).2] at hv
  obtain ⟨w, -, rfl⟩ := List.mem_map.mp hv
  obtain ⟨names, hpath, hfind⟩ := find_path h w
  have hstop : w.stop.2 = g.name :: names := hpath
  rw [hstop]
  exact ⟨rfl, hfind⟩

theorem exists_find_iff (names : List String) :
    (∃ i, g.find names = .ok i) ↔ ∃ p ∈ plans, p.path = g.name :: names := by
  constructor
  · rintro ⟨i, hi⟩
    obtain ⟨v, -, hpath⟩ := exists_way_of_findFrom Way.atRoot hi
    obtain ⟨p, hp, hplan⟩ := (plan_ok h).1.exists_plan (stop_mem_visits h v)
    exact ⟨p, hp, hplan.path.trans hpath⟩
  · rintro ⟨p, hp, hpath⟩
    obtain ⟨v, hv, hplan⟩ := (plan_ok h).1.exists_visit hp
    obtain ⟨-, hfind⟩ := find_of_visit h hv
    rw [← hplan.path, hpath] at hfind
    exact ⟨v.1, hfind⟩

end Planned

/-- **Commands are found where they are planned.**  In a graph that is planned with nothing excluded, the route of
every plan leads to the very command that was visited for it.  Names lead to a command exactly if they are, behind
the name of the root, the path of some plan; otherwise the error names the first of them that leads nowhere: those
before it are the path of a plan, and with it they are not. -/
theorem find_iff_planned (g : CommandGraph) (plans : List CommandPlan) (h : g.plan [] = .ok plans) :
    List.Forall₂ (fun v p => p.info = g.info v.1 ∧ p.path = v.2 ∧ g.find p.route = .ok v.1)
      (visits (g.walk [])) plans ∧
    ∀ names, ((∃ i, g.find names = .ok i) ↔ ∃ p ∈ plans, p.path = g.name :: names) ∧
      ((¬ ∃ p ∈ plans, p.path = g.name :: names) ↔ ∃ before name after,
        names = before ++ name :: after ∧ (∃ p ∈ plans, p.path = g.name :: before) ∧
        (¬ ∃ p ∈ plans, p.path = g.name :: (before ++ [name])) ∧ g.find names = .error name) := by
  refine ⟨?_, fun names => ⟨exists_find_iff h names, ?_⟩⟩
  · refine forall₂_imp_of_mem (plan_ok h).1 fun v hv p hp => ⟨hp.info, hp.path, ?_⟩
    rw [CommandPlan.route, hp.path]
    exact (find_of_visit h hv).2
  · simp only [← exists_find_iff h]
    constructor
    · intro hlost
      cases hfind : g.find names with
      | ok i => exact absurd ⟨i, hfind⟩ hlost
      | error name =>
        obtain ⟨before, after, j, rfl, hbefore, hnone⟩ := exists_of_findFrom_error hfind
        refine ⟨before, name, after, rfl, ⟨j, hbefore⟩, ?_, rfl⟩
        rintro ⟨i, hi⟩
        rw [find, findFrom_append, hbefore] at hi
        rcases g.findFrom_singleton j name with ⟨c, hc, hname, -⟩ | ⟨-, hlast⟩
        · exact hnone c hc hname
        · cases hlast.symm.trans hi
    · rintro ⟨before, name, after, -, -, -, herror⟩ ⟨i, hi⟩
      cases herror.symm.trans hi

/-- The shared leaf of `diamond` is found by both of its routes, and `left` has no child `right`. -/
theorem find_diamond : diamond.plan [] = .ok diamondPlans ∧
    (∃ leaf, diamond.find ["left", "leaf"] = .ok leaf ∧ diamond.find ["right", "leaf"] = .ok leaf) ∧
      ¬ ∃ i, diamond.find ["left", "right"] = .ok i := by
  have hplan : diamond.plan [] = .ok diamondPlans := by decide +kernel
  obtain ⟨hroutes, hnames⟩ := find_iff_planned diamond diamondPlans hplan
  let number (n : Nat) (h : n < 4) : Fin diamond.size := ⟨n, h⟩
  have hvisits : visits (diamond.walk []) = [(number 0 (by decide), ["tool"]), (number 1 (by decide), ["tool", "left"]),
      (number 3 (by decide), ["tool", "left", "leaf"]), (number 2 (by decide), ["tool", "right"]),
      (number 3 (by decide), ["tool", "right", "leaf"])] := by
    decide +kernel
  rw [hvisits] at hroutes
  have hleft := (hroutes.get (i := 2) (by decide) (by decide)).2.2
  have hright := (hroutes.get (i := 4) (by decide) (by decide)).2.2
  refine ⟨hplan, ⟨_, hleft, hright⟩, ?_⟩
  rw [(hnames ["left", "right"]).1]
  decide +kernel

end CommandWrap.CommandGraph
