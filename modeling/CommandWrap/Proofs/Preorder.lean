import CommandWrap.Proofs.Ways
import Mathlib

/-!
# The walk of an acyclic graph is its pre-order

Without cycles the commands below the root can be listed by plain recursion: a command first, then the whole
list of each child in turn (`preorder`).  A command with several parents is listed once for every way to it.  The
walk visits this list, less the paths that are excluded (`walk_eq_preorder`).
-/
namespace CommandWrap.CommandGraph

open Relation

variable (g : CommandGraph)

/-- The command `c` is a child of the command `i`. -/
def IsChild (c i : Fin g.size) : Prop :=
  c ∈ g.children i

/-- **An acyclic graph**: no command that can be reached from the root lies below itself. -/
def Acyclic : Prop :=
  ∀ i, ReflTransGen g.IsChild i g.root → ¬ TransGen g.IsChild i i

instance : WellFoundedRelation { i // Acc g.IsChild i } :=
  Acc.wfRel

/-- **The recursive pre-order** of the commands from `i` on, where there is no endless way down: the command
with its path, then the pre-order of each child. -/
def preorderFrom (i : Fin g.size) (below : Acc g.IsChild i) (path : List String) :
    List (Fin g.size × List String) :=
  (i, path) :: (g.children i).attach.flatMap fun c =>
    preorderFrom c.val (below.inv c.property) (path ++ [(g.info c.val).name])
termination_by (⟨i, below⟩ : { i // Acc g.IsChild i })
decreasing_by exact c.property

variable {g}

/-- There is no endless way down from the root of an acyclic graph. -/
theorem Acyclic.acc (h : g.Acyclic) : Acc g.IsChild g.root := by
  -- of commands that can be reached, there are finitely many and none is below itself
  let Below (c i : Fin g.size) : Prop := g.IsChild c i ∧ ReflTransGen g.IsChild i g.root
  have hirrefl : Std.Irrefl (TransGen Below) := by
    refine ⟨fun i hi => ?_⟩
    obtain ⟨j, -, hj⟩ := TransGen.tail'_iff.mp hi
    exact h i hj.2 (TransGen.mono (fun _ _ hb => hb.1) i i hi)
  have hfinite : WellFounded Below :=
    Subrelation.wf TransGen.single (Finite.wellFounded_of_trans_of_irrefl (TransGen Below))
  suffices ∀ i, ReflTransGen g.IsChild i g.root → Acc g.IsChild i from this g.root .refl
  intro i hi
  induction i using hfinite.induction with
  | h i ih => exact ⟨i, fun c hc => ih c ⟨hc, hi⟩ (.head hc hi)⟩

/-- The recursive pre-order of an acyclic graph. -/
def preorder (h : g.Acyclic) : List (Fin g.size × List String) :=
  g.preorderFrom g.root h.acc [g.name]

namespace Way

theorem isChild_get (w : g.Way) (k : Fin (g.children w.node).length) :
    g.IsChild ((g.children w.node).get k) w.node :=
  List.get_mem ..

/-- Every way goes down from the root, and from the commands above. -/
theorem node_below (w : g.Way) :
    ReflTransGen g.IsChild w.node g.root ∧ ∀ i ∈ w.above, TransGen g.IsChild w.node i := by
  induction w using Way.induct with
  | root => exact ⟨.refl, fun i hi => absurd hi List.not_mem_nil⟩
  | child w k ih =>
    have hchild := w.isChild_get k
    refine ⟨.head hchild ih.1, fun i hi => ?_⟩
    rw [above_child, trail, List.mem_append, List.mem_singleton] at hi
    rcases hi with hi | rfl
    · exact .head hchild (ih.2 i hi)
    · exact .single hchild

theorem not_closes_of_acyclic (h : g.Acyclic) (w : g.Way) : ¬ w.Closes := by
  intro hcloses
  have hbelow := w.node_below
  exact h w.node hbelow.1 (hbelow.2 w.node hcloses)

/-- **What is met from a way on** is the pre-order from its last command on, if nothing is excluded. -/
theorem map_stop_descend (h : g.Acyclic) (w : g.Way) (below : Acc g.IsChild w.node) :
    (w.descend []).map stop = g.preorderFrom w.node below w.path := by
  induction w using Way.descent [] with
  | step w ih =>
    have hpass : w.Passes [] := ⟨w.not_closes_of_acyclic h, List.not_mem_nil⟩
    have hattach : (g.children w.node).attach = (List.finRange (g.children w.node).length).map
        fun k => ⟨(g.children w.node).get k, List.get_mem ..⟩ := by
      refine List.ext_getElem (by simp) fun n _ _ => ?_
      simp
    rw [descend_of_passes hpass, preorderFrom, List.map_cons, List.map_flatMap, children, hattach,
      List.flatMap_map, List.flatMap_map]
    congr 1
    refine List.flatMap_congr fun k _ => ?_
    rw [ih hpass k (below.inv (w.isChild_get k)), path_child]
    rfl

end Way

theorem met_eq_opens (h : g.Acyclic) : g.met [] = g.opens [] := by
  rw [opens, List.filter_eq_self.mpr]
  intro w _
  exact decide_eq_true ⟨w.not_closes_of_acyclic h, List.not_mem_nil⟩

/-- What is excluded matters only as a set. -/
theorem walkAgenda_congr {excluded excluded' : List String} (h : ∀ t, t ∈ excluded ↔ t ∈ excluded')
    (agenda : List (AgendaEntry g.size)) :
    g.walkAgenda excluded agenda = g.walkAgenda excluded' agenda := by
  fun_induction walkAgenda g excluded agenda with
  | case1 => rw [walkAgenda]
  | case2 e agenda again => rw [walkAgenda, if_pos again]
  | case3 e agenda new title ih => rw [walkAgenda, if_neg new, if_pos ((h _).mp title), ih]
  | case4 e agenda new title ih =>
    rw [walkAgenda, if_neg new, if_neg fun htitle => title ((h _).mpr htitle), ih]

/-- **The walk of an acyclic graph is its pre-order**, less the paths that are excluded; nothing stops it.  It
depends on the exclusions only by the set of their normal forms. -/
theorem walk_eq_preorder (g : CommandGraph) (exclude : List String) :
    (∀ h : g.Acyclic, (∀ path, .loop path ∉ g.walk exclude) ∧
      visits (g.walk exclude) =
        (preorder h).filter fun v => ¬ IsExcluded (normalizeExclusions exclude) v.2) ∧
    ∀ exclude', (∀ t, t ∈ normalizeExclusions exclude ↔ t ∈ normalizeExclusions exclude') →
      g.walk exclude = g.walk exclude' := by
  refine ⟨fun h => ?_, fun exclude' hsame => ?_⟩
  · rcases g.walk_cases exclude with ⟨-, hloop, hvisits⟩ | ⟨_, w, _, -, hw, -⟩
    · refine ⟨hloop, ?_⟩
      have hpreorder : (g.opens []).map Way.stop = preorder h := by
        rw [← met_eq_opens h]
        exact Way.map_stop_descend h Way.atRoot h.acc
      have hnone : ∀ t ∈ ([] : List String), t ∈ normalizeExclusions exclude :=
        fun _ ht => absurd ht List.not_mem_nil
      rw [hvisits, opens_eq_filter hnone, ← hpreorder, List.filter_map]
      rfl
    · exact absurd hw (w.not_closes_of_acyclic h)
  · exact walkAgenda_congr hsame _

theorem acyclic_diamond : diamond.Acyclic := by
  have hlt : ∀ i c : Fin diamond.size, c ∈ diamond.children i → i < c := by decide
  have hbelow : ∀ i j : Fin diamond.size, TransGen diamond.IsChild i j → j < i := by
    intro i j h
    induction h with
    | single h => exact hlt _ _ h
    | tail _ h ih => exact (hlt _ _ h).trans ih
  intro i _ hi
  exact lt_irrefl i (hbelow i i hi)

/-- The shared command is visited once, on the way that is left. -/
theorem walk_diamond : diamond.Acyclic ∧
    (visits (diamond.walk ["  tool   left"])).map (fun v => (v.1.val, v.2)) =
      [(0, ["tool"]), (2, ["tool", "right"]), (3, ["tool", "right", "leaf"])] := by
  refine ⟨acyclic_diamond, ?_⟩
  rw [((walk_eq_preorder diamond ["  tool   left"]).1 acyclic_diamond).2]
  cbv

end CommandWrap.CommandGraph
