import CommandWrap.Proofs.Names
import CommandWrap.Proofs.Pruning

/-!
# Base names and the cuts of paths

The elements of a path are cut at their hyphens into segments without hyphens (`hyphen_not_mem`), from which they can be
put together again (`intercalate_splitHyphens`).  The **pieces** of a path (`pieces`) are the segments that are not
empty.  A base name is made from the pieces alone (`base?_eq_some_iff`), so it does not show where an element ends and
where a hyphen stands (`pieces_merge`, `pieces_empty`).

Planned commands have distinct base names.  So no two of them have the same pieces, not even with capitals
(`pairwise_pieces`).  The pieces of a child begin with those of its parent, hence its base name continues that of the
parent, and is longer because it is another (`base_of_child`).
-/
namespace CommandWrap

/-! ## The pieces of a path -/

namespace Name

/-- **The pieces of a path**: the segments between the hyphens of its elements that are not empty, in order. -/
def pieces (path : List String) : List (List Char) :=
  (segments path).filter (!·.isEmpty)

theorem splitHyphens_ne_nil (cs : List Char) : splitHyphens cs ≠ [] := by
  induction cs with
  | nil => exact List.cons_ne_nil _ _
  | cons c cs ih =>
    rw [splitHyphens]
    split
    · exact List.cons_ne_nil _ _
    · split <;> exact List.cons_ne_nil _ _

/-- A hyphen ends a segment, and the next one begins behind it. -/
theorem splitHyphens_hyphen (cs ds : List Char) :
    splitHyphens (cs ++ '-' :: ds) = splitHyphens cs ++ splitHyphens ds := by
  induction cs with
  | nil => simp [splitHyphens]
  | cons c cs ih =>
    rw [List.cons_append, splitHyphens, splitHyphens, ih]
    split
    · rfl
    · -- the first segment is there, and the character goes in front of it
      cases hsegments : splitHyphens cs with
      | nil => exact absurd hsegments (splitHyphens_ne_nil cs)
      | cons segment segments => rfl

/-- No segment holds a hyphen. -/
theorem hyphen_not_mem {cs segment : List Char} (h : segment ∈ splitHyphens cs) : '-' ∉ segment := by
  induction cs generalizing segment with
  | nil =>
    obtain rfl := List.mem_singleton.mp h
    exact List.not_mem_nil
  | cons c cs ih =>
    rw [splitHyphens] at h
    split at h
    · rcases List.mem_cons.mp h with rfl | h
      · exact List.not_mem_nil
      · exact ih h
    · rename_i hc
      cases hsegments : splitHyphens cs with
      | nil => exact absurd hsegments (splitHyphens_ne_nil cs)
      | cons first rest =>
        rw [hsegments] at h ih
        rcases List.mem_cons.mp h with rfl | h
        · exact List.not_mem_cons_of_ne_of_not_mem (Ne.symm hc) (ih (List.mem_cons_self ..))
        · exact ih (List.mem_cons_of_mem _ h)

/-- The segments with hyphens between them are the characters again. -/
theorem intercalate_splitHyphens (cs : List Char) : ['-'].intercalate (splitHyphens cs) = cs := by
  induction cs with
  | nil => rfl
  | cons c cs ih =>
    rw [splitHyphens]
    cases hsegments : splitHyphens cs with
    | nil => exact absurd hsegments (splitHyphens_ne_nil cs)
    | cons first rest =>
      rw [hsegments] at ih
      split
      · rename_i hc
        rw [List.intercalate_cons_cons, ih, hc]
        rfl
      · cases rest with
        | nil => simpa using ih
        | cons second rest =>
          rw [List.intercalate_cons_cons] at ih ⊢
          simpa using ih

theorem pieces_append (p q : List String) : pieces (p ++ q) = pieces p ++ pieces q := by
  simp [pieces, segments]

theorem pieces_cons (element : String) (q : List String) : pieces (element :: q) = pieces [element] ++ pieces q :=
  pieces_append [element] q

/-- **Two elements are merged by a hyphen**, and an element is split at one. -/
theorem pieces_merge (p q : List String) (a b : String) :
    pieces (p ++ (a ++ "-" ++ b) :: q) = pieces (p ++ a :: b :: q) := by
  have hmerge : pieces [a ++ "-" ++ b] = pieces [a] ++ pieces [b] := by
    simp [pieces, segments, splitHyphens_hyphen]
  rw [pieces_append, pieces_cons, hmerge, pieces_append, pieces_cons a (b :: q), pieces_cons b q,
    List.append_assoc]

/-- An empty element has no pieces. -/
theorem pieces_empty (p q : List String) : pieces (p ++ "" :: q) = pieces (p ++ q) := by
  have hempty : pieces [""] = [] := by decide
  rw [pieces_append, pieces_cons, hempty, List.nil_append, pieces_append]

/-- Empty segments add nothing to a word. -/
theorem pascal_filter (segments : List (List Char)) : pascal (segments.filter (!·.isEmpty)) = pascal segments := by
  induction segments with
  | nil => rfl
  | cons segment rest ih =>
    simp only [pascal] at ih ⊢
    cases segment with
    | nil => simpa [capitalize] using ih
    | cons c cs => simpa using ih

theorem pathWord_eq_pascal_pieces (path : List String) : pathWord path = pascal (pieces path) :=
  (pascal_filter (segments path)).symm

/-- The word of a path is made of its capitalized pieces. -/
theorem pathWord_eq_flatten (path : List String) : pathWord path = ((pieces path).map capitalize).flatten := by
  rw [pathWord_eq_pascal_pieces, pascal, List.flatMap_def]

/-- **The base name of a path** is the word of its capitalized pieces, if that is an identifier. -/
theorem base?_eq_some_iff {path : List String} {base : String} :
    base? path = some base ↔
      base.toList = ((pieces path).map capitalize).flatten ∧ Unicode.isIdentifier base.toList = true := by
  rw [← pathWord_eq_flatten]
  constructor
  · intro h
    obtain ⟨rfl, hword⟩ := base?_eq_some h
    rw [String.toList_ofList]
    exact ⟨rfl, hword⟩
  · rintro ⟨hbase, hword⟩
    rw [hbase] at hword
    rw [base?, if_pos hword, ← hbase, String.ofList_toList]

theorem base?_eq_of_pathWord {p q : List String} (h : pathWord p = pathWord q) : base? p = base? q := by
  rw [base?, base?, h]

theorem pathWord_append (p q : List String) : pathWord (p ++ q) = pathWord p ++ pathWord q := by
  simp [pathWord, segments, pascal]

end Name

/-! ## Planned paths -/

namespace CommandGraph

open Name (splitHyphens pieces capitalize base? pathWord)

variable {g : CommandGraph} {exclude : List String} {plans : List CommandPlan}

section Planned

variable (h : g.plan exclude = .ok plans)
include h

/-- The plans have the walked paths. -/
theorem map_path_of_plan : plans.map CommandPlan.path = (visits (g.walk exclude)).map Prod.snd := by
  rw [← List.forall₂_eq_eq_eq, List.forall₂_map_left_iff, List.forall₂_map_right_iff]
  exact (plan_ok h).1.flip.imp fun _ _ hp => hp.path

theorem base?_path_of_plan {p : CommandPlan} (hp : p ∈ plans) : base? p.path = some p.base := by
  obtain ⟨v, -, hplan, -⟩ := plan_visit h hp
  rw [hplan.path]
  exact hplan.base

/-- Planned paths of one word are one plan. -/
theorem eq_of_pathWord {p q : CommandPlan} (hp : p ∈ plans) (hq : q ∈ plans) (hword : pathWord p.path = pathWord q.path) :
    p = q := by
  have hbase : base? p.path = base? q.path := Name.base?_eq_of_pathWord hword
  rw [base?_path_of_plan h hp, base?_path_of_plan h hq] at hbase
  exact List.inj_on_of_nodup_map (plan_base_nodup h) hp hq (Option.some.inj hbase)

/-- **No two planned paths have the same pieces**, not even with capitals. -/
theorem pairwise_pieces :
    plans.Pairwise fun p q => (pieces p.path).map capitalize ≠ (pieces q.path).map capitalize := by
  have hapart : plans.Pairwise fun p q => p.base ≠ q.base := List.pairwise_map.mp (plan_base_nodup h)
  refine hapart.imp_of_mem fun {p q} hp hq hne hpieces => hne ?_
  refine congrArg CommandPlan.base (eq_of_pathWord h hp hq ?_)
  rw [Name.pathWord_eq_flatten, Name.pathWord_eq_flatten, hpieces]

/-- Every plan but that of the root has a planned parent. -/
theorem exists_parent {p : CommandPlan} (hp : p ∈ plans) :
    p.path = [g.name] ∨ ∃ q ∈ plans, ∃ name, p.path = q.path ++ [name] := by
  obtain ⟨w, hw, hpath⟩ := exists_open_of_plan h hp
  rcases w.cases_child with rfl | ⟨v, k, rfl⟩
  · exact .inl hpath.symm
  · have hv : v.stop ∈ visits (g.walk exclude) := by
      rw [(visits_of_plan h).2]
      exact List.mem_map_of_mem (mem_opens.mpr hw.parent)
    obtain ⟨q, hq, hplan⟩ := (plan_ok h).1.exists_plan hv
    have hparent : q.path = v.path := hplan.path
    exact .inr ⟨q, hq, _, by rw [← hpath, Way.path_child, hparent]⟩

/-- **The base name of a child** is that of its parent and at least one character more. -/
theorem base_of_child {p q : CommandPlan} (hp : p ∈ plans) (hq : q ∈ plans) {name : String}
    (hpath : q.path = p.path ++ [name]) : ∃ more, more ≠ "" ∧ q.base = p.base ++ more := by
  have hword : pathWord q.path = pathWord p.path ++ pathWord [name] := by
    rw [hpath, Name.pathWord_append]
  refine ⟨String.ofList (pathWord [name]), fun hempty => ?_, ?_⟩
  · -- without another character both have one word, and are one plan
    rw [String.ofList_eq_empty_iff.mp hempty, List.append_nil] at hword
    obtain rfl := eq_of_pathWord h hq hp hword
    simp at hpath
  · rw [(Name.base?_eq_some (base?_path_of_plan h hq)).1, (Name.base?_eq_some (base?_path_of_plan h hp)).1, hword,
      String.ofList_append]

end Planned

/-- **Base names ignore how a path is cut.**  Segments hold no hyphen, and with hyphens between them they are the
element.  The base name is the word of the capitalized pieces, so paths of the same pieces have one base name, or none
of them has one: an element may be split at a hyphen, and hyphens may be doubled, or stand in front of an element or
behind it.  If a graph is planned, no two walked paths have the same pieces, even with capitals, and every plan but that
of the root continues the path of another plan, with a base name that is longer. -/
theorem base_names_ignore_cuts :
    (∀ element : List Char, ['-'].intercalate (splitHyphens element) = element ∧
      ∀ segment ∈ splitHyphens element, '-' ∉ segment) ∧
    (∀ (p : List String) (base : String), base? p = some base ↔
      base.toList = ((pieces p).map capitalize).flatten ∧ Unicode.isIdentifier base.toList = true) ∧
    (∀ p q : List String, pieces p = pieces q → base? p = base? q) ∧
    (∀ (p q : List String) (a b : String),
      pieces (p ++ (a ++ "-" ++ b) :: q) = pieces (p ++ a :: b :: q) ∧
      pieces (p ++ (a ++ "--" ++ b) :: q) = pieces (p ++ a :: b :: q) ∧
      pieces (p ++ ("-" ++ a) :: q) = pieces (p ++ a :: q) ∧
      pieces (p ++ (a ++ "-") :: q) = pieces (p ++ a :: q)) ∧
    ∀ (g : CommandGraph) (exclude : List String) (plans : List CommandPlan), g.plan exclude = .ok plans →
      plans.map CommandPlan.path = (visits (g.walk exclude)).map Prod.snd ∧
      plans.Pairwise (fun p q => pieces p.path ≠ pieces q.path ∧
        (pieces p.path).map capitalize ≠ (pieces q.path).map capitalize) ∧
      (∀ p ∈ plans, p.path = [g.name] ∨ ∃ q ∈ plans, ∃ name, p.path = q.path ++ [name]) ∧
      ∀ p ∈ plans, ∀ q ∈ plans, ∀ name, q.path = p.path ++ [name] → ∃ more, more ≠ "" ∧ q.base = p.base ++ more := by
  refine ⟨fun element => ⟨Name.intercalate_splitHyphens element, fun _ => Name.hyphen_not_mem⟩,
    fun p base => Name.base?_eq_some_iff, fun p q hpieces => ?_, fun p q a b => ?_, fun g exclude plans h => ?_⟩
  · refine Name.base?_eq_of_pathWord ?_
    rw [Name.pathWord_eq_pascal_pieces, Name.pathWord_eq_pascal_pieces, hpieces]
  · have hmerge := Name.pieces_merge p q
    have hdoubled : a ++ "--" ++ b = (a ++ "-" ++ "") ++ "-" ++ b := by simp [← String.toList_inj]
    have hleading : "-" ++ a = "" ++ "-" ++ a := by simp
    have htrailing : a ++ "-" = a ++ "-" ++ "" := by simp
    refine ⟨hmerge a b, ?_, ?_, ?_⟩
    · have hbehind := Name.pieces_empty (p ++ [a]) (b :: q)
      rw [hdoubled, hmerge, Name.pieces_merge]
      simpa using hbehind
    · rw [hleading, hmerge, Name.pieces_empty]
    · have hbehind := Name.pieces_empty (p ++ [a]) q
      rw [htrailing, hmerge]
      simpa using hbehind
  · refine ⟨map_path_of_plan h, (pairwise_pieces h).imp fun hne => ⟨fun hpieces => hne ?_, hne⟩,
      fun p hp => exists_parent h hp, fun p hp q hq name => base_of_child h hp hq⟩
    rw [hpieces]

/-- One path cut in two ways, and the plans of the graph `diamond`. -/
theorem base_names_ignore_cuts_diamond :
    base? ["docker", "plugin", "set-default"] = base? ["docker-plugin--set", "default-"] ∧
    diamond.plan [] = .ok diamondPlans ∧
    diamondPlans.Pairwise (fun p q => pieces p.path ≠ pieces q.path ∧
      (pieces p.path).map capitalize ≠ (pieces q.path).map capitalize) ∧
    ∃ more, more ≠ "" ∧ "ToolLeftLeaf" = "ToolLeft" ++ more := by
  obtain ⟨-, -, hsame, -, hplanned⟩ := base_names_ignore_cuts
  have hplan : diamond.plan [] = .ok diamondPlans := by decide +kernel
  obtain ⟨-, hpairwise, -, hchild⟩ := hplanned diamond [] diamondPlans hplan
  refine ⟨hsame _ _ (by decide), hplan, hpairwise, ?_⟩
  exact hchild (flaglessPlan ["tool", "left"] "ToolLeft") (by simp [diamondPlans])
    (flaglessPlan ["tool", "left", "leaf"] "ToolLeftLeaf") (by simp [diamondPlans]) "leaf" rfl

end CommandGraph

end CommandWrap
