import CommandWrap.Proofs.NameCharacters
import CommandWrap.Proofs.Ways

/-!
# Excluding more commands prunes the plans

Planning a graph with more exclusions than before succeeds if it did before, and gives the plans of the paths
that are still not excluded, in the same order (`plan_filter`): no way becomes open, no cycle and no fault
comes up.

The title of a planned command, taken as an exclusion, excludes its path and the paths below, and no others.
Titles put single spaces between names, and exclusions are cut at all blanks, so this needs that every name on a
planned path is a **word** (`IsWord`).  It has no blank because it becomes part of an identifier in upper case,
and it is not empty because the command would take the base name of its parent.
-/
namespace CommandWrap

/-! ## Words and titles -/

/-- A word: not empty and without blanks. -/
def IsWord (s : String) : Prop :=
  s.toList ≠ [] ∧ ∀ c ∈ s.toList, Text.isBlank c = false

namespace Text

/-- A character in front of another is put in front of its word. -/
theorem words_cons_cons {c d : Char} (hc : isBlank c = false) (hd : isBlank d = false) (rest : List Char) :
    words (c :: d :: rest) = extendFirst c (words (d :: rest)) := by
  conv => lhs; rw [words]
  simp [hc, hd]

/-- A word at the end of a text. -/
theorem words_word {w : List Char} (hne : w ≠ []) (hw : ∀ c ∈ w, isBlank c = false) : words w = [w] := by
  induction w with
  | nil => exact absurd rfl hne
  | cons c w ih =>
    rw [List.forall_mem_cons] at hw
    cases w with
    | nil => simp [words, hw.1]
    | cons d w =>
      rw [words_cons_cons hw.1 (hw.2 d (List.mem_cons_self ..)), ih (List.cons_ne_nil _ _) hw.2]
      rfl

/-- A word in front of a space. -/
theorem words_append_space {w : List Char} (hne : w ≠ []) (hw : ∀ c ∈ w, isBlank c = false)
    (rest : List Char) : words (w ++ ' ' :: rest) = w :: words rest := by
  induction w with
  | nil => exact absurd rfl hne
  | cons c w ih =>
    rw [List.forall_mem_cons] at hw
    cases w with
    | nil =>
      have hspace : isBlank ' ' = true := by decide
      simp [words, hw.1, hspace]
    | cons d w =>
      have hrest := ih (List.cons_ne_nil _ _) hw.2
      rw [List.cons_append] at hrest
      rw [List.cons_append, List.cons_append,
        words_cons_cons hw.1 (hw.2 d (List.mem_cons_self ..)), hrest]
      rfl

end Text

/-- The words of a title are the names on the path. -/
theorem words_pathTitle {path : List String} (h : ∀ e ∈ path, IsWord e) :
    Text.words (pathTitle path).toList = path.map String.toList := by
  induction path with
  | nil => rfl
  | cons first rest ih =>
    rw [List.forall_mem_cons] at h
    cases rest with
    | nil =>
      rw [pathTitle, String.intercalate_singleton]
      exact Text.words_word h.1.1 h.1.2
    | cons second rest =>
      have htitle : (pathTitle (first :: second :: rest)).toList =
          first.toList ++ ' ' :: (pathTitle (second :: rest)).toList := by
        rw [pathTitle, String.intercalate_cons_cons]
        simp [pathTitle]
      rw [htitle, Text.words_append_space h.1.1 h.1.2, ih h.2]
      rfl

/-- The title of a path of words is in normal form. -/
theorem collapse_pathTitle {path : List String} (h : ∀ e ∈ path, IsWord e) :
    Text.collapse (pathTitle path) = pathTitle path := by
  rw [Text.collapse, words_pathTitle h, List.map_map]
  simp [Function.comp_def, pathTitle]

/-- A path of words is given by its title. -/
theorem pathTitle_inj {p q : List String} (hp : ∀ e ∈ p, IsWord e) (hq : ∀ e ∈ q, IsWord e)
    (h : pathTitle p = pathTitle q) : p = q := by
  have hwords := words_pathTitle hp
  rw [h, words_pathTitle hq] at hwords
  exact (List.map_injective_iff.mpr fun _ _ => String.toList_inj.mp) hwords.symm

/-! ## Names on planned paths -/

namespace Unicode

/-- The blank characters. -/
def blanks : List Nat :=
  [9, 10, 11, 12, 13, 28, 29, 30, 31, 32, 0x85, 0xA0, 0x1680, 0x2000, 0x2001, 0x2002, 0x2003, 0x2004, 0x2005,
    0x2006, 0x2007, 0x2008, 0x2009, 0x200A, 0x2028, 0x2029, 0x202F, 0x205F, 0x3000]

theorem mem_blanks {c : Char} (h : Text.isBlank c = true) : c.toNat ∈ blanks := by
  simp only [Text.isBlank, Bool.or_eq_true, Bool.and_eq_true, decide_eq_true_eq, beq_iff_eq] at h
  simp only [blanks, List.mem_cons, List.not_mem_nil, or_false]
  omega

/-- A blank is its own upper case, and no part of an identifier. -/
theorem blank_spec {c : Char} (h : Text.isBlank c = true) :
    upper c = [c] ∧ isIdentifierStart c = false ∧ isIdentifierContinue c = false := by
  have hall : ∀ n ∈ blanks, upper (Char.ofNat n) = [Char.ofNat n] ∧
      isIdentifierStart (Char.ofNat n) = false ∧ isIdentifierContinue (Char.ofNat n) = false := by
    decide +kernel
  have hc := hall c.toNat (mem_blanks h)
  rwa [Char.ofNat_toNat] at hc

theorem not_isBlank_of_isIdentifier {cs : List Char} (h : isIdentifier cs = true) :
    ∀ c ∈ cs, Text.isBlank c = false := by
  intro c hc
  rw [Bool.eq_false_iff]
  intro hblank
  obtain ⟨-, hstart, hcontinue⟩ := blank_spec hblank
  cases cs with
  | nil => cases hc
  | cons d cs =>
    rw [isIdentifier, Bool.and_eq_true, List.all_eq_true] at h
    rcases List.mem_cons.mp hc with rfl | hc
    · exact Bool.false_ne_true (hstart.symm.trans h.1)
    · exact Bool.false_ne_true (hcontinue.symm.trans (h.2 c hc))

end Unicode

namespace Name

/-- **No name on a path has a blank** if the word that the path makes is an identifier. -/
theorem not_isBlank_of_path {path : List String} (h : Unicode.isIdentifier (pathWord path) = true)
    {element : String} (helement : element ∈ path) : ∀ c ∈ element.toList, Text.isBlank c = false := by
  intro c hc
  by_cases hhyphen : c = '-'
  · rw [hhyphen]
    decide
  obtain ⟨piece, hpiece, hmem⟩ := mem_splitHyphens hc hhyphen
  have hword : ∀ d ∈ capitalize piece, Text.isBlank d = false := by
    intro d hd
    refine Unicode.not_isBlank_of_isIdentifier h d ?_
    rw [pathWord, pascal, List.mem_flatMap]
    exact ⟨piece, List.mem_flatMap.mpr ⟨element, helement, hpiece⟩, hd⟩
  cases piece with
  | nil => cases hmem
  | cons first rest =>
    rw [capitalize, List.forall_mem_append] at hword
    rcases List.mem_cons.mp hmem with rfl | hmem
    · -- a blank would be its own upper case
      rw [Bool.eq_false_iff]
      intro hblank
      have hupper := hword.1 c
      rw [(Unicode.blank_spec hblank).1, hblank] at hupper
      exact Bool.noConfusion (hupper (List.mem_cons_self ..))
    · exact hword.2 c hmem

/-- An empty name at the end of a path changes nothing. -/
theorem pathWord_concat_empty (path : List String) : pathWord (path ++ [""]) = pathWord path := by
  simp [pathWord, segments, pascal, splitHyphens, capitalize]

end Name

namespace CommandGraph

variable {g : CommandGraph} {excluded : List String}

theorem Way.Open.parent {w : g.Way} {k : Fin (g.children w.node).length}
    (h : (w.child k).Open excluded) : w.Open excluded := by
  obtain ⟨hnodup, hkept, -⟩ := Way.open_iff.mp h
  rw [Way.dropLast_path_child] at hkept
  exact ⟨hnodup, hkept⟩

/-! ## The visits of planned graphs -/

section Planned

variable {exclude : List String} {plans : List CommandPlan}

/-- The visits of a planned graph are the stops of the open ways. -/
theorem visits_of_plan (h : g.plan exclude = .ok plans) :
    (∀ w ∈ g.met (normalizeExclusions exclude), ¬ w.Closes) ∧
      visits (g.walk exclude) = (g.opens (normalizeExclusions exclude)).map Way.stop := by
  rcases g.walk_cases exclude with ⟨hmet, -, hvisits⟩ | ⟨before, w, after, -, -, -, hwalk⟩
  · exact ⟨hmet, hvisits⟩
  · have hloop := (plan_ok h).2.noLoop w.path
    rw [hwalk] at hloop
    exact absurd (List.mem_append_right _ (List.mem_cons_self ..)) hloop

/-- **Every name on a visited path is a word.** -/
theorem isWord_of_open (h : g.plan exclude = .ok plans) (w : g.Way)
    (hw : w.Open (normalizeExclusions exclude)) : ∀ e ∈ w.path, IsWord e := by
  obtain ⟨-, hvisits⟩ := visits_of_plan h
  have hwf := (plan_ok h).2
  have hvisit {v : g.Way} (hv : v.Open (normalizeExclusions exclude)) : v.stop ∈ visits (g.walk exclude) := by
    rw [hvisits]
    exact List.mem_map_of_mem (mem_opens.mpr hv)
  have hbase {v : g.Way} (hv : v.Open (normalizeExclusions exclude)) :
      Unicode.isIdentifier (Name.pathWord v.path) = true := by
    obtain ⟨base, hbase⟩ := Option.isSome_iff_exists.mp (hwf.named _ (hvisit hv))
    exact (Name.base?_eq_some hbase).2
  have hlast {v : g.Way} {path : List String} {name : String} (hv : v.Open (normalizeExclusions exclude))
      (hpath : v.path = path ++ [name]) (hne : name ≠ "") : IsWord name := by
    refine ⟨fun hnil => hne (String.toList_eq_nil_iff.mp hnil), ?_⟩
    exact Name.not_isBlank_of_path (hbase hv) (by simp [hpath])
  induction w using Way.induct with
  | root =>
    rw [Way.path_atRoot, List.forall_mem_singleton]
    have hpath : (Way.atRoot : g.Way).path = [] ++ [g.name] := rfl
    refine hlast hw hpath fun hempty => ?_
    have hword := hbase hw
    rw [Way.path_atRoot, hempty] at hword
    cases hword
  | child w k ih =>
    have hparent := hw.parent
    rw [Way.path_child, List.forall_mem_append, List.forall_mem_singleton]
    refine ⟨ih hparent, hlast hw (w.path_child k) fun hempty => ?_⟩
    -- an empty name would make the base name of the parent once more
    have hsame : Name.base? (w.child k).path = Name.base? w.path := by
      rw [Way.path_child, hempty, Name.base?, Name.pathWord_concat_empty]
      rfl
    have hstop := hwf.visit_eq (hvisit hw) (hvisit hparent) hsame
    have hlength := congrArg (fun v : Fin g.size × List String => v.2.length) hstop
    simp [Way.stop, Way.path_child] at hlength

end Planned

/-! ## Wider exclusions -/

/-- A row whose visits are among those of a well-formed row is well formed, if it has no loop. -/
theorem WellFormed.of_visits {xs ys : List (WalkEvent g.size)} (wf : g.WellFormed ys)
    (hnoLoop : ∀ path, .loop path ∉ xs) (hsub : (visits xs).Sublist (visits ys)) : g.WellFormed xs :=
  ⟨hnoLoop, fun v hv => wf.flags v (hsub.subset hv), fun v hv => wf.named v (hsub.subset hv),
    wf.apart.sublist (hsub.map _)⟩

/-- A visited command has one plan. -/
theorem PlanOf.unique {v : Fin g.size × List String} {p q : CommandPlan} (hp : g.PlanOf v p)
    (hq : g.PlanOf v q) : p = q := by
  obtain ⟨info, path, base, fields⟩ := p
  obtain ⟨info', path', base', fields'⟩ := q
  obtain rfl : info = info' := hp.info.trans hq.info.symm
  obtain rfl : path = path' := hp.path.trans hq.path.symm
  obtain rfl : base = base' := Option.some.inj (hp.base.symm.trans hq.base)
  obtain rfl : fields = fields' := hp.fields.unique hq.fields
  rfl

theorem PlansOf.unique {events : List (WalkEvent g.size)} {plans plans' : List CommandPlan}
    (h : g.PlansOf events plans) (h' : g.PlansOf events plans') : plans = plans' :=
  List.right_unique_forall₂' (fun _ _ _ hp hq => hp.unique hq) h h'

variable {exclude wider : List String} {plans : List CommandPlan}

/-- **Planning with wider exclusions** gives the plans that are not excluded. -/
theorem plan_filter (h : g.plan exclude = .ok plans) (hwider : ∀ e ∈ exclude, e ∈ wider) :
    g.plan wider = .ok (plans.filter fun p => ¬ IsExcluded (normalizeExclusions wider) p.path) := by
  obtain ⟨hplans, hwf⟩ := plan_ok h
  obtain ⟨hmet, hvisits⟩ := visits_of_plan h
  have hnormal : ∀ t ∈ normalizeExclusions exclude, t ∈ normalizeExclusions wider :=
    List.map_subset _ hwider
  obtain ⟨hnoLoop, hvisits'⟩ : (∀ path, .loop path ∉ g.walk wider) ∧
      visits (g.walk wider) = (g.opens (normalizeExclusions wider)).map Way.stop := by
    rcases g.walk_cases wider with ⟨-, hrest⟩ | ⟨before, w, after, hcut, hw, -⟩
    · exact hrest
    · -- the walk met this way before as well
      have hwmet : w ∈ g.met (normalizeExclusions wider) := by
        rw [hcut]
        exact List.mem_append_right _ (List.mem_cons_self ..)
      obtain ⟨habove, hkept⟩ := mem_met.mp hwmet
      exact absurd hw (hmet w (mem_met.mpr ⟨habove, fun hex => hkept (hex.mono hnormal)⟩))
  have hfilter : visits (g.walk wider) =
      (visits (g.walk exclude)).filter fun v => ¬ IsExcluded (normalizeExclusions wider) v.2 := by
    rw [hvisits', opens_eq_filter hnormal, hvisits, List.filter_map]
    rfl
  have hwf' : g.WellFormed (g.walk wider) := by
    refine hwf.of_visits hnoLoop ?_
    rw [hfilter]
    exact List.filter_sublist
  have hkept : g.PlansOf (g.walk wider)
      (plans.filter fun p => ¬ IsExcluded (normalizeExclusions wider) p.path) := by
    rw [PlansOf, hfilter]
    refine List.rel_filter (fun {v p} hp => ?_) hplans
    simp only [hp.path]
  obtain ⟨plans', hplan⟩ := exists_plan_of_wellFormed hwf'
  rw [hplan, (plan_ok hplan).1.unique hkept]

/-- The path of a plan is that of an open way. -/
theorem exists_open_of_plan (h : g.plan exclude = .ok plans) {p : CommandPlan} (hp : p ∈ plans) :
    ∃ w : g.Way, w.Open (normalizeExclusions exclude) ∧ w.path = p.path := by
  obtain ⟨v, hv, hplan⟩ := (plan_ok h).1.exists_visit hp
  rw [(visits_of_plan h).2] at hv
  obtain ⟨w, hw, rfl⟩ := List.mem_map.mp hv
  exact ⟨w, mem_opens.mp hw, hplan.path.symm⟩

/-- **The title of a plan excludes its path and the paths below**, besides what was excluded before. -/
theorem isExcluded_title_iff (h : g.plan exclude = .ok plans) {p q : CommandPlan} (hp : p ∈ plans)
    (hq : q ∈ plans) (hwider : ∀ e, e ∈ wider ↔ e ∈ exclude ∨ e = p.title) :
    IsExcluded (normalizeExclusions wider) q.path ↔ p.path <+: q.path := by
  obtain ⟨w, hw, hwpath⟩ := exists_open_of_plan h hp
  obtain ⟨v, hv, hvpath⟩ := exists_open_of_plan h hq
  have hpwords : ∀ e ∈ p.path, IsWord e := hwpath ▸ isWord_of_open h w hw
  have hqwords : ∀ e ∈ q.path, IsWord e := hvpath ▸ isWord_of_open h v hv
  constructor
  · rintro ⟨r, hne, hbelow, hmem⟩
    obtain ⟨e, he, hcollapse⟩ := List.mem_map.mp hmem
    rcases (hwider e).mp he with he | rfl
    · -- an exclusion from before would have left the path out
      refine absurd ⟨r, hne, hvpath ▸ hbelow, ?_⟩ hv.kept
      rw [← hcollapse]
      exact List.mem_map_of_mem he
    · rw [CommandPlan.title, collapse_pathTitle hpwords] at hcollapse
      have hrwords : ∀ e ∈ r, IsWord e := fun e he => hqwords e (hbelow.subset he)
      rw [pathTitle_inj hpwords hrwords hcollapse]
      exact hbelow
  · intro hbelow
    refine ⟨p.path, hwpath ▸ w.path_ne_nil, hbelow, ?_⟩
    rw [← collapse_pathTitle hpwords]
    exact List.mem_map_of_mem ((hwider _).mpr (.inr rfl))

/-- **Excluding what is planned removes exactly that, and excluding more never breaks a plan.**  With the title
of a plan as one more exclusion, the other plans stay as they are, less those whose path begins with the path of
that plan.  With any further exclusions there are still plans, and they are among those from before, in order. -/
theorem plan_with_more_exclusions (g : CommandGraph) (exclude : List String) (plans : List CommandPlan)
    (h : g.plan exclude = .ok plans) :
    (∀ p ∈ plans, ∀ wider, (∀ e, e ∈ wider ↔ e ∈ exclude ∨ e = p.title) →
      g.plan wider = .ok (plans.filter fun q => ¬ p.path <+: q.path)) ∧
    ∀ more wider : List String, (∀ e, e ∈ wider ↔ e ∈ exclude ∨ e ∈ more) →
      ∃ fewer, g.plan wider = .ok fewer ∧ fewer.Sublist plans := by
  constructor
  · intro p hp wider hwider
    rw [plan_filter h fun e he => (hwider e).mpr (.inl he)]
    refine congrArg Except.ok (List.filter_congr fun q hq => ?_)
    rw [decide_eq_decide, not_iff_not]
    exact isExcluded_title_iff h hp hq hwider
  · intro more wider hwider
    exact ⟨_, plan_filter h fun e he => (hwider e).mpr (.inl he), List.filter_sublist⟩

/-- The plan of a command without flags. -/
def flaglessPlan (path : List String) (base : String) : CommandPlan :=
  { info := { name := path.getLastD "" }, path, base, fields := [] }

/-- The plans of the graph `diamond`, where a leaf is planned on two paths. -/
def diamondPlans : List CommandPlan :=
  [flaglessPlan ["tool"] "Tool", flaglessPlan ["tool", "left"] "ToolLeft",
    flaglessPlan ["tool", "left", "leaf"] "ToolLeftLeaf", flaglessPlan ["tool", "right"] "ToolRight",
    flaglessPlan ["tool", "right", "leaf"] "ToolRightLeaf"]

/-- With `tool left` left out, the leaf is planned on its other path only. -/
theorem plan_diamond_without_left :
    diamond.plan [] = .ok diamondPlans ∧
      diamond.plan ["tool left"] = .ok [flaglessPlan ["tool"] "Tool",
        flaglessPlan ["tool", "right"] "ToolRight", flaglessPlan ["tool", "right", "leaf"] "ToolRightLeaf"] := by
  have hplan : diamond.plan [] = .ok diamondPlans := by decide +kernel
  have htitle : (flaglessPlan ["tool", "left"] "ToolLeft").title = "tool left" := by decide +kernel
  refine ⟨hplan, ?_⟩
  rw [(plan_with_more_exclusions diamond [] _ hplan).1 (flaglessPlan ["tool", "left"] "ToolLeft")
    (by simp [diamondPlans]) ["tool left"] (by simp [htitle])]
  decide +kernel

end CommandGraph

end CommandWrap
