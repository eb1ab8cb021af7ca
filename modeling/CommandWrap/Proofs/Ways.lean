import CommandWrap.Proofs.Planning
import Mathlib.Data.List.FinRange
import Mathlib.Data.List.Infix
import Mathlib.Data.List.Sort

/-!
# Ways through a command graph

A **way** leads from the root along children (`Way`).  It is given by the positions of these children, its
route; two ways may run through the same commands, because a command may be listed twice and commands of one
name may stand side by side.  Routes in their lexicographic order are the order of the recursive walk: a way
comes before what lies below it, and what lies below a child before what lies below the next one.

The walk keeps an agenda of entries.  Entry by entry the agenda is a row of ways, and what the walk still has
to do is to descend each of them in turn (`walkAgenda_eq`).  Descending visits a way and goes on below it
unless it **closes**, that is, its last command was on it before, or its title is excluded.  So the ways that
are met are those whose parent is **open** (`mem_met`), they are met in order (`pairwise_met`), and the walk
is the row of their events up to the first way that closes (`walk_eq`).
-/
namespace CommandWrap

/-! ## Excluded paths -/

/-- **A path is excluded** when its title is, or the title of a path to some command above. -/
def IsExcluded (excluded path : List String) : Prop :=
  ∃ q, q ≠ [] ∧ q <+: path ∧ pathTitle q ∈ excluded

theorem isExcluded_iff_inits {excluded path : List String} :
    IsExcluded excluded path ↔ ∃ q ∈ path.inits, q ≠ [] ∧ pathTitle q ∈ excluded := by
  simp only [IsExcluded, List.mem_inits]
  exact exists_congr fun q => and_left_comm

instance (excluded path : List String) : Decidable (IsExcluded excluded path) :=
  decidable_of_iff _ isExcluded_iff_inits.symm

theorem not_isExcluded_nil (excluded : List String) : ¬ IsExcluded excluded [] := by
  rintro ⟨q, hne, hprefix, -⟩
  exact hne (List.prefix_nil.mp hprefix)

/-- A path is excluded by its own title, or because the path above is excluded. -/
theorem isExcluded_concat {excluded path : List String} {name : String} :
    IsExcluded excluded (path ++ [name]) ↔
      IsExcluded excluded path ∨ pathTitle (path ++ [name]) ∈ excluded := by
  constructor
  · rintro ⟨q, hne, hprefix, hmem⟩
    rcases List.prefix_concat_iff.mp hprefix with rfl | hprefix
    · exact .inr hmem
    · exact .inl ⟨q, hne, hprefix, hmem⟩
  · rintro (⟨q, hne, hprefix, hmem⟩ | hmem)
    · exact ⟨q, hne, hprefix.trans (List.prefix_append ..), hmem⟩
    · exact ⟨_, by simp, List.prefix_rfl, hmem⟩

theorem IsExcluded.of_prefix {excluded p q : List String} (h : p <+: q)
    (hp : IsExcluded excluded p) : IsExcluded excluded q := by
  obtain ⟨r, hne, hprefix, hmem⟩ := hp
  exact ⟨r, hne, hprefix.trans h, hmem⟩

theorem IsExcluded.mono {excluded wider path : List String} (h : ∀ t ∈ excluded, t ∈ wider)
    (hpath : IsExcluded excluded path) : IsExcluded wider path := by
  obtain ⟨q, hne, hprefix, hmem⟩ := hpath
  exact ⟨q, hne, hprefix, h _ hmem⟩

namespace CommandGraph

variable (g : CommandGraph)

/-! ## Ways from the root -/

/-- Follow child positions from the command `i`: the commands on the way and the last command; nothing if
there is no child at some position. -/
def follow? (i : Fin g.size) : List Nat → Option (List (Fin g.size) × Fin g.size)
  | [] => some ([], i)
  | k :: route =>
    (g.children i)[k]?.bind fun c => (follow? c route).map fun r => (i :: r.1, r.2)

/-- **A way from the root** along children. -/
@[ext]
structure Way where
  /-- The positions of the children. -/
  route : List Nat
  /-- The commands above the last one, the root first. -/
  above : List (Fin g.size)
  /-- The last command. -/
  node : Fin g.size
  leads : g.follow? g.root route = some (above, node)

variable {g}

theorem follow?_concat (i : Fin g.size) (route : List Nat) (k : Nat) :
    g.follow? i (route ++ [k]) =
      (g.follow? i route).bind fun r => (g.children r.2)[k]?.map fun c => (r.1 ++ [r.2], c) := by
  induction route generalizing i with
  | nil => cases hc : (g.children i)[k]? <;> simp [follow?, hc]
  | cons l route ih =>
    cases hc : (g.children i)[l]? with
    | none => simp [follow?, hc]
    | some c =>
      simp only [List.cons_append, follow?, hc, Option.bind_some, ih]
      cases g.follow? c route with
      | none => rfl
      | some r => cases hd : (g.children r.2)[k]? <;> simp [hd]

namespace Way

/-- The commands on the way, the root first. -/
def trail (w : g.Way) : List (Fin g.size) :=
  w.above ++ [w.node]

/-- The names on the way, which make the path of the last command. -/
def path (w : g.Way) : List String :=
  w.trail.map fun i => (g.info i).name

/-- The last command and its path. -/
def stop (w : g.Way) : Fin g.size × List String :=
  (w.node, w.path)

/-- The last command is on the way before. -/
def Closes (w : g.Way) : Prop :=
  w.node ∈ w.above

instance (w : g.Way) : Decidable w.Closes :=
  inferInstanceAs (Decidable (_ ∈ _))

/-- **One way comes before another** in the order of the recursive walk: before everything below it, and
what lies below a child before what lies below the next child. -/
def Before (w v : g.Way) : Prop :=
  w.route < v.route

/-- The way that ends at the root. -/
def atRoot : g.Way :=
  { route := [], above := [], node := g.root, leads := rfl }

/-- The way to a child of the last command. -/
def child (w : g.Way) (k : Fin (g.children w.node).length) : g.Way :=
  { route := w.route ++ [k.val]
    above := w.trail
    node := (g.children w.node).get k
    leads := by simp [follow?_concat, w.leads, trail] }

/-- A way is given by its route. -/
theorem eq_of_route {w v : g.Way} (h : w.route = v.route) : w = v := by
  have hleads := w.leads.symm.trans ((congrArg (g.follow? g.root) h).trans v.leads)
  obtain ⟨habove, hnode⟩ := Prod.mk.inj (Option.some.inj hleads)
  exact Way.ext h habove hnode

/-- **A way ends at the root or at a child** of the last command of a shorter way. -/
theorem cases_child (w : g.Way) : w = atRoot ∨ ∃ v k, w = child v k := by
  rcases List.eq_nil_or_concat' w.route with hroute | ⟨route, k, hroute⟩
  · exact .inl (eq_of_route hroute)
  · have hleads := w.leads
    rw [hroute, follow?_concat] at hleads
    obtain ⟨r, hr, hc⟩ := Option.bind_eq_some_iff.mp hleads
    obtain ⟨c, hc, -⟩ := Option.map_eq_some_iff.mp hc
    obtain ⟨hk, -⟩ := List.getElem?_eq_some_iff.mp hc
    exact .inr ⟨{ route, above := r.1, node := r.2, leads := hr }, ⟨k, hk⟩, eq_of_route hroute⟩

/-- What holds of the root, and of every child if of the way to its parent, holds of all ways. -/
@[elab_as_elim]
theorem induct {motive : g.Way → Prop} (root : motive atRoot)
    (child : ∀ w k, motive w → motive (child w k)) (w : g.Way) : motive w := by
  generalize hlength : w.route.length = n
  induction n generalizing w with
  | zero =>
    obtain rfl : w = atRoot := eq_of_route (List.eq_nil_of_length_eq_zero hlength)
    exact root
  | succ n ih =>
    rcases cases_child w with rfl | ⟨v, k, rfl⟩
    · cases hlength
    · exact child v k (ih v (by simpa [Way.child] using hlength))

@[simp] theorem trail_atRoot : (atRoot : g.Way).trail = [g.root] := rfl

@[simp] theorem path_atRoot : (atRoot : g.Way).path = [g.name] := rfl

section Child

variable (w : g.Way) (k : Fin (g.children w.node).length)

@[simp] theorem route_child : (w.child k).route = w.route ++ [k.val] := rfl

@[simp] theorem above_child : (w.child k).above = w.trail := rfl

theorem path_child :
    (w.child k).path = w.path ++ [(g.info ((g.children w.node).get k)).name] := by
  simp [path, trail, child]

@[simp] theorem dropLast_path_child : (w.child k).path.dropLast = w.path := by
  rw [path_child, List.dropLast_concat]

theorem child_inj {v : g.Way} {l : Fin (g.children v.node).length} (h : w.child k = v.child l) :
    w = v := by
  have hroute := congrArg route h
  exact eq_of_route (List.append_inj_left' hroute rfl)

theorem child_ne_atRoot : w.child k ≠ atRoot := by
  intro h
  have hroute := congrArg route h
  simp [atRoot] at hroute

end Child

/-- A way on which no command is twice is one to a new command. -/
theorem nodup_trail {w : g.Way} : w.trail.Nodup ↔ w.above.Nodup ∧ ¬ w.Closes := by
  rw [trail, ← List.concat_eq_append, List.nodup_concat, and_comm]
  rfl

theorem path_ne_nil (w : g.Way) : w.path ≠ [] := by
  simp [path, trail]

/-- The path of a way is that of the way to the parent, and a name. -/
theorem exists_path_eq (w : g.Way) : ∃ name, w.path = w.path.dropLast ++ [name] :=
  ⟨_, (List.dropLast_append_getLast w.path_ne_nil).symm⟩

/-! ### The walk along ways -/

/-- The agenda entry of a way. -/
def entry (w : g.Way) : AgendaEntry g.size :=
  { node := w.node, path := w.path, ancestors := w.above.reverse }

/-- The ways to the children of the last command. -/
def children (w : g.Way) : List g.Way :=
  (List.finRange (g.children w.node).length).map w.child

/-- The walk goes on below the last command. -/
def Passes (excluded : List String) (w : g.Way) : Prop :=
  ¬ w.Closes ∧ pathTitle w.path ∉ excluded

instance (excluded : List String) (w : g.Way) : Decidable (w.Passes excluded) :=
  inferInstanceAs (Decidable (_ ∧ _))

/-- What the walk does at the end of a way. -/
def event (excluded : List String) (w : g.Way) : WalkEvent g.size :=
  if w.Closes then .loop w.path
  else if pathTitle w.path ∈ excluded then .skip w.path
  else .visit w.node w.path

variable {excluded : List String}

theorem event_of_closes {w : g.Way} (h : w.Closes) : w.event excluded = .loop w.path :=
  if_pos h

theorem event_of_excluded {w : g.Way} (h : ¬ w.Closes) (hmem : pathTitle w.path ∈ excluded) :
    w.event excluded = .skip w.path := by
  rw [event, if_neg h, if_pos hmem]

theorem event_of_passes {w : g.Way} (h : w.Passes excluded) :
    w.event excluded = .visit w.node w.path := by
  rw [event, if_neg h.1, if_neg h.2]

/-- The entries for the children of an entry are those of the ways to the children. -/
theorem map_entry_children (w : g.Way) : w.children.map entry = g.expand w.entry := by
  have hentry (k : Fin (g.children w.node).length) : (w.child k).entry =
      { node := (g.children w.node).get k
        path := w.path ++ [(g.info ((g.children w.node).get k)).name]
        ancestors := w.node :: w.above.reverse } := by
    rw [entry, path_child]
    simp [child, trail]
  have hchildren := List.map_get_finRange (g.children w.node)
  rw [children, List.map_map, expand]
  conv => rhs; rw [entry, ← hchildren, List.map_map]
  exact List.map_congr_left fun k _ => hentry k

/-- **The ways that the recursive walk meets** from a way on: the way itself, and what it meets from the
ways to the children if it goes on there. -/
def descend (excluded : List String) (w : g.Way) : List g.Way :=
  if _h : w.Passes excluded then
    w :: (List.finRange (g.children w.node).length).flatMap fun k => descend excluded (w.child k)
  else [w]
termination_by (fresh w.above.reverse).length
decreasing_by
  rw [above_child, trail, List.reverse_append]
  exact length_fresh_cons fun hmem => _h.1 (List.mem_reverse.mp hmem)

theorem descend_of_passes {w : g.Way} (hw : w.Passes excluded) :
    w.descend excluded = w :: w.children.flatMap (descend excluded) := by
  rw [descend, dif_pos hw, children, List.flatMap_map]

theorem descend_of_not_passes {w : g.Way} (hw : ¬ w.Passes excluded) : w.descend excluded = [w] := by
  rw [descend, dif_neg hw]

theorem mem_descend {w v : g.Way} : v ∈ w.descend excluded ↔
    v = w ∨ w.Passes excluded ∧ ∃ k, v ∈ (w.child k).descend excluded := by
  rw [descend]
  split
  · rename_i hw
    simp [hw]
  · rename_i hw
    simp [hw]

theorem self_mem_descend (w : g.Way) : w ∈ w.descend excluded :=
  mem_descend.mpr (.inl rfl)

/-- Where the walk goes on, it meets what it meets from the children. -/
theorem mem_descend_of_child {w v : g.Way} (hw : w.Passes excluded)
    (k : Fin (g.children w.node).length) (hv : v ∈ (w.child k).descend excluded) :
    v ∈ w.descend excluded :=
  mem_descend.mpr (.inr ⟨hw, k, hv⟩)

/-- What holds of a way if it holds of the ways to the children, where the walk goes on, holds of all. -/
theorem descent {motive : g.Way → Prop} (excluded : List String)
    (step : ∀ w, (w.Passes excluded → ∀ k, motive (w.child k)) → motive w) (w : g.Way) : motive w := by
  fun_induction descend excluded w with
  | case1 w hw ih => exact step w fun _ => ih
  | case2 w hw => exact step w fun h => absurd h hw

/-- Ways that are met from a way on continue it. -/
theorem route_prefix_of_mem_descend {w v : g.Way} (hv : v ∈ w.descend excluded) :
    w.route <+: v.route := by
  induction w using descent excluded with
  | step w ih =>
    rcases mem_descend.mp hv with rfl | ⟨hw, k, hv⟩
    · exact List.prefix_rfl
    · exact (List.prefix_append ..).trans (ih hw k hv)

/-- The walk meets the children of what it meets, where it goes on. -/
theorem child_mem_descend {w v : g.Way} (hv : v ∈ w.descend excluded) (hpass : v.Passes excluded)
    (k : Fin (g.children v.node).length) : v.child k ∈ w.descend excluded := by
  induction w using descent excluded with
  | step w ih =>
    rcases mem_descend.mp hv with rfl | ⟨hw, l, hv⟩
    · exact mem_descend_of_child hpass k (self_mem_descend _)
    · exact mem_descend_of_child hw l (ih hw l hv)

/-- What the walk meets from a way on is the way itself, or a child of what it meets. -/
theorem cases_descend {w v : g.Way} (hv : v ∈ w.descend excluded) :
    v = w ∨ ∃ u k, v = child u k ∧ u ∈ w.descend excluded ∧ u.Passes excluded := by
  induction w using descent excluded with
  | step w ih =>
    rcases mem_descend.mp hv with rfl | ⟨hw, l, hv⟩
    · exact .inl rfl
    · rcases ih hw l hv with rfl | ⟨u, k, rfl, hu, hpass⟩
      · exact .inr ⟨w, l, rfl, self_mem_descend w, hw⟩
      · exact .inr ⟨u, k, rfl, mem_descend_of_child hw l hu, hpass⟩

/-! ### The order of ways -/

theorem before_of_append {w v : g.Way} {k : Nat} {rest : List Nat}
    (h : v.route = w.route ++ k :: rest) : w.Before v := by
  have hlt : w.route ++ [] < w.route ++ k :: rest := List.append_left_lt (List.nil_lt_cons k rest)
  rwa [List.append_nil, ← h] at hlt

theorem Before.trans {u w v : g.Way} (h : u.Before w) (h' : w.Before v) : u.Before v :=
  List.lt_trans h h'

theorem before_irrefl (w : g.Way) : ¬ w.Before w :=
  List.lt_irrefl _

instance : Std.Irrefl (Before (g := g)) :=
  ⟨before_irrefl⟩

instance : Std.Antisymm (Before (g := g)) :=
  ⟨fun w _ h h' => absurd (h.trans h') w.before_irrefl⟩

/-- A way comes before all ways that continue it. -/
theorem eq_or_before_of_prefix {w v : g.Way} (h : w.route <+: v.route) : w = v ∨ w.Before v := by
  obtain ⟨rest, hrest⟩ := h
  cases rest with
  | nil => exact .inl (eq_of_route (by rw [← hrest, List.append_nil]))
  | cons k rest => exact .inr (before_of_append hrest.symm)

/-- **The walk meets ways in order.** -/
theorem pairwise_descend (w : g.Way) : (w.descend excluded).Pairwise Before := by
  fun_induction descend excluded w with
  | case1 w hw ih =>
    rw [List.pairwise_cons, List.pairwise_flatMap]
    refine ⟨?_, fun k _ => ih k, ?_⟩
    · intro v hv
      obtain ⟨k, -, hv⟩ := List.mem_flatMap.mp hv
      obtain ⟨rest, hrest⟩ := route_prefix_of_mem_descend hv
      exact before_of_append (by rw [← hrest, route_child, List.append_assoc]; rfl)
    · refine (List.pairwise_lt_finRange _).imp fun {k l} hkl u hu v hv => ?_
      -- what lies below different children differs first in the position of the child
      obtain ⟨rest, hrest⟩ := route_prefix_of_mem_descend hu
      obtain ⟨rest', hrest'⟩ := route_prefix_of_mem_descend hv
      rw [Before, ← hrest, ← hrest', route_child, route_child, List.append_assoc, List.append_assoc]
      exact List.append_left_lt (List.cons_lt_cons_iff.mpr (.inl hkl))
  | case2 w hw => exact List.pairwise_singleton ..

end Way

/-! ## The walk as a list of ways -/

/-- The ways that the walk meets if it does not stop at the first that closes. -/
def met (g : CommandGraph) (excluded : List String) : List g.Way :=
  Way.atRoot.descend excluded

/-- The ways up to the first that closes. -/
def untilClosed : List g.Way → List g.Way
  | [] => []
  | w :: ws => if w.Closes then [w] else w :: untilClosed ws

theorem untilClosed_cases (ws : List g.Way) :
    ((∀ w ∈ ws, ¬ w.Closes) ∧ untilClosed ws = ws) ∨
      ∃ before w after, ws = before ++ w :: after ∧ (∀ v ∈ before, ¬ v.Closes) ∧ w.Closes ∧
        untilClosed ws = before ++ [w] := by
  induction ws with
  | nil => exact .inl ⟨by simp, rfl⟩
  | cons w ws ih =>
    rw [untilClosed]
    by_cases hw : w.Closes
    · exact .inr ⟨[], w, ws, rfl, by simp, hw, if_pos hw⟩
    · rw [if_neg hw]
      rcases ih with ⟨hws, heq⟩ | ⟨before, v, after, rfl, hbefore, hv, heq⟩
      · exact .inl ⟨by simpa using ⟨hw, hws⟩, by rw [heq]⟩
      · exact .inr ⟨w :: before, v, after, rfl, by simpa using ⟨hw, hbefore⟩, hv, by rw [heq]; rfl⟩

/-- **The agenda is a row of ways still to be descended.** -/
theorem walkAgenda_eq (excluded : List String) (ws : List g.Way) :
    g.walkAgenda excluded (ws.map Way.entry) =
      (untilClosed (ws.flatMap (Way.descend excluded))).map (Way.event excluded) := by
  generalize hagenda : ws.map Way.entry = agenda
  -- by the rounds of the walk: the agenda holds the ways whose descents are still to come, in their order
  fun_induction walkAgenda g excluded agenda generalizing ws with
  | case1 =>
    obtain rfl := List.map_eq_nil_iff.mp hagenda
    rfl
  | case2 e agenda hloop =>
    obtain ⟨w, ws, rfl, rfl, rfl⟩ := List.map_eq_cons_iff.mp hagenda
    have hw : w.Closes := List.mem_reverse.mp hloop
    rw [List.flatMap_cons, Way.descend_of_not_passes fun h => h.1 hw, List.singleton_append, untilClosed,
      if_pos hw, List.map_singleton, Way.event_of_closes hw]
    rfl
  | case3 e agenda hloop hskip ih =>
    obtain ⟨w, ws, rfl, rfl, rfl⟩ := List.map_eq_cons_iff.mp hagenda
    have hw : ¬ w.Closes := fun h => hloop (List.mem_reverse.mpr h)
    rw [List.flatMap_cons, Way.descend_of_not_passes fun h => h.2 hskip, List.singleton_append,
      untilClosed, if_neg hw, List.map_cons, ← ih ws rfl, Way.event_of_excluded hw hskip]
    rfl
  | case4 e agenda hloop hskip ih =>
    obtain ⟨w, ws, rfl, rfl, rfl⟩ := List.map_eq_cons_iff.mp hagenda
    -- the children stand before the rest of the agenda, as their descents do
    have hw : w.Passes excluded := ⟨fun h => hloop (List.mem_reverse.mpr h), hskip⟩
    have hrest := ih (w.children ++ ws) (by rw [List.map_append, Way.map_entry_children])
    rw [List.flatMap_append] at hrest
    rw [List.flatMap_cons, Way.descend_of_passes hw, List.cons_append, untilClosed, if_neg hw.1,
      List.map_cons, ← hrest, Way.event_of_passes hw]
    rfl

/-- **The walk** is what is met up to the first way that closes. -/
theorem walk_eq (exclude : List String) :
    g.walk exclude = (untilClosed (g.met (normalizeExclusions exclude))).map
      (Way.event (normalizeExclusions exclude)) := by
  have hwalk := walkAgenda_eq (normalizeExclusions exclude) [(Way.atRoot : g.Way)]
  rwa [List.flatMap_singleton] at hwalk

/-- A way is open when no command is on it twice and its path is not excluded. -/
structure Way.Open (excluded : List String) (w : g.Way) : Prop where
  nodup : w.trail.Nodup
  kept : ¬ IsExcluded excluded w.path

variable {excluded : List String}

theorem Way.open_iff {w : g.Way} : w.Open excluded ↔
    w.above.Nodup ∧ ¬ IsExcluded excluded w.path.dropLast ∧ w.Passes excluded := by
  obtain ⟨name, hpath⟩ := w.exists_path_eq
  have hkept : ¬ IsExcluded excluded w.path ↔
      ¬ IsExcluded excluded w.path.dropLast ∧ pathTitle w.path ∉ excluded := by
    rw [← not_or, hpath, List.dropLast_concat, isExcluded_concat]
  constructor
  · rintro ⟨htrail, hpath⟩
    obtain ⟨habove, hcloses⟩ := nodup_trail.mp htrail
    exact ⟨habove, (hkept.mp hpath).1, hcloses, (hkept.mp hpath).2⟩
  · rintro ⟨habove, hparent, hcloses, htitle⟩
    exact ⟨nodup_trail.mpr ⟨habove, hcloses⟩, hkept.mpr ⟨hparent, htitle⟩⟩

/-- **The ways that are met**: those whose parent is open. -/
theorem mem_met {w : g.Way} : w ∈ g.met excluded ↔
    w.above.Nodup ∧ ¬ IsExcluded excluded w.path.dropLast := by
  induction w using Way.induct with
  | root =>
    refine ⟨fun _ => ⟨List.nodup_nil, not_isExcluded_nil excluded⟩, fun _ => Way.self_mem_descend _⟩
  | child w k ih =>
    have hchild : w.child k ∈ g.met excluded ↔ w ∈ g.met excluded ∧ w.Passes excluded := by
      constructor
      · intro hmem
        rcases Way.cases_descend hmem with hroot | ⟨v, l, hvl, hv, hpass⟩
        · exact absurd hroot (w.child_ne_atRoot k)
        · obtain rfl := w.child_inj k hvl
          exact ⟨hv, hpass⟩
      · exact fun h => Way.child_mem_descend h.1 h.2 k
    rw [hchild, ih, Way.above_child, Way.dropLast_path_child, and_assoc, ← Way.open_iff]
    exact ⟨fun h => ⟨h.nodup, h.kept⟩, fun h => ⟨h.1, h.2⟩⟩

/-- The open ways in order. -/
def opens (g : CommandGraph) (excluded : List String) : List g.Way :=
  (g.met excluded).filter (·.Passes excluded)

theorem mem_opens {w : g.Way} : w ∈ g.opens excluded ↔ w.Open excluded := by
  rw [opens, List.mem_filter, mem_met, Way.open_iff, and_assoc, decide_eq_true_iff]

theorem pairwise_met : (g.met excluded).Pairwise Way.Before :=
  Way.pairwise_descend _

theorem pairwise_opens : (g.opens excluded).Pairwise Way.Before :=
  pairwise_met.filter _

/-- **More exclusions leave fewer ways open**, in the same order. -/
theorem opens_eq_filter {wider : List String} (h : ∀ t ∈ excluded, t ∈ wider) :
    g.opens wider = (g.opens excluded).filter (¬ IsExcluded wider ·.path) := by
  refine pairwise_opens.eq_of_mem_iff (pairwise_opens.filter _) fun w => ?_
  rw [List.mem_filter, mem_opens, mem_opens, decide_eq_true_iff]
  constructor
  · rintro ⟨hnodup, hkept⟩
    exact ⟨⟨hnodup, fun hex => hkept (hex.mono h)⟩, hkept⟩
  · rintro ⟨hopen, hkept⟩
    exact ⟨hopen.nodup, hkept⟩

theorem visits_map_event (ws : List g.Way) :
    visits (ws.map (Way.event excluded)) = (ws.filter (·.Passes excluded)).map Way.stop := by
  induction ws with
  | nil => rfl
  | cons w ws ih =>
    by_cases hw : w.Passes excluded
    · rw [List.map_cons, Way.event_of_passes hw, visits_visit, ih, List.filter_cons_of_pos (by simpa)]
      rfl
    · rw [List.filter_cons_of_neg (by simpa), ← ih, List.map_cons]
      by_cases hcloses : w.Closes
      · rw [Way.event_of_closes hcloses, visits_loop]
      · have htitle : pathTitle w.path ∈ excluded := by
          by_contra htitle
          exact hw ⟨hcloses, htitle⟩
        rw [Way.event_of_excluded hcloses htitle, visits_skip]

theorem loop_not_mem_map_event {ws : List g.Way} (h : ∀ w ∈ ws, ¬ w.Closes) (path : List String) :
    .loop path ∉ ws.map (Way.event excluded) := by
  intro hmem
  obtain ⟨w, hw, hevent⟩ := List.mem_map.mp hmem
  rw [Way.event, if_neg (h w hw)] at hevent
  split at hevent
  · cases hevent
  · cases hevent

/-- **The walk runs to its end or stops.**  If no way that is met closes, the commands at the ends of the open
ways are visited.  Otherwise the walk stops at the first way that closes. -/
theorem walk_cases (g : CommandGraph) (exclude : List String) :
    ((∀ w ∈ g.met (normalizeExclusions exclude), ¬ w.Closes) ∧
      (∀ path, .loop path ∉ g.walk exclude) ∧
      visits (g.walk exclude) = (g.opens (normalizeExclusions exclude)).map Way.stop) ∨
    ∃ before w after, g.met (normalizeExclusions exclude) = before ++ w :: after ∧ w.Closes ∧
      (∀ v ∈ before, ¬ v.Closes) ∧
      g.walk exclude = before.map (Way.event (normalizeExclusions exclude)) ++ [.loop w.path] := by
  have hwalk := g.walk_eq exclude
  rcases untilClosed_cases (g.met (normalizeExclusions exclude)) with ⟨hmet, heq⟩ |
      ⟨before, w, after, hmet, hbefore, hw, heq⟩
  · rw [heq] at hwalk
    refine .inl ⟨hmet, ?_, ?_⟩
    · rw [hwalk]
      exact loop_not_mem_map_event hmet
    · rw [hwalk, visits_map_event, opens]
  · refine .inr ⟨before, w, after, hmet, hw, hbefore, ?_⟩
    rw [hwalk, heq, List.map_append, List.map_singleton, Way.event_of_closes hw]

/-- A command with two children that share one. -/
def diamond : CommandGraph where
  size := 4
  nodes := #v[{ info := { name := "tool" }, children := [1, 2] },
    { info := { name := "left" }, children := [3] }, { info := { name := "right" }, children := [3] },
    { info := { name := "leaf" }, children := [] }]
  root := 0

end CommandGraph
end CommandWrap
