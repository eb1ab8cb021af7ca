import CommandWrap.Proofs.Ways
import Mathlib.Data.Fintype.Card

/-!
# A walk always ends, and only a cycle stops it

The agenda of a walk may grow by many entries in one round, and entries for one command know different commands
above it.  Still every round lowers the number of steps that the agenda stands for (`Round.size_lt`), so rounds
come to an end.

A walk stops early exactly if some way leads to a command that was on it before, without an excluded path above
(`Way.Stops`).  Such a way need not be met: an earlier command may close it.  Its shortest part that closes is
met, though, unless the walk stops before (`exists_closing`), so the walk stops at the first such way.  What it
visited until then are the ways before that are not excluded.
-/
namespace CommandWrap.CommandGraph

/-! ## Rounds -/

section Rounds

variable (g : CommandGraph) (excluded : List String)

/-- **One round of the walk**: the first entry is taken off the agenda. -/
inductive Round : List (AgendaEntry g.size) → WalkEvent g.size → List (AgendaEntry g.size) → Prop
  /-- A command is met below itself; nothing is looked at any more. -/
  | loop (e : AgendaEntry g.size) (agenda : List (AgendaEntry g.size)) (again : e.node ∈ e.ancestors) :
      Round (e :: agenda) (.loop e.path) []
  /-- A command is left out. -/
  | skip (e : AgendaEntry g.size) (agenda : List (AgendaEntry g.size)) (new : e.node ∉ e.ancestors)
      (title : pathTitle e.path ∈ excluded) : Round (e :: agenda) (.skip e.path) agenda
  /-- A command is visited; its children come next. -/
  | visit (e : AgendaEntry g.size) (agenda : List (AgendaEntry g.size)) (new : e.node ∉ e.ancestors)
      (title : pathTitle e.path ∉ excluded) :
      Round (e :: agenda) (.visit e.node e.path) (g.expand e ++ agenda)

/-- The events of rounds from an agenda on until it is empty. -/
inductive Run : List (AgendaEntry g.size) → List (WalkEvent g.size) → Prop
  | done : Run [] []
  | round {agenda next : List (AgendaEntry g.size)} {event : WalkEvent g.size}
      {events : List (WalkEvent g.size)} (first : Round g excluded agenda event next)
      (rest : Run next events) : Run agenda (event :: events)

variable {g excluded} {agenda next : List (AgendaEntry g.size)} {event : WalkEvent g.size}

/-- A round lowers the number of steps that are left. -/
theorem Round.size_lt (h : g.Round excluded agenda event next) :
    g.agendaSize next < g.agendaSize agenda := by
  cases h with
  | loop e agenda again =>
    have := g.unfolding_pos e.ancestors e.node
    simp only [agendaSize, List.map_nil, List.map_cons, total]
    omega
  | skip e agenda new title =>
    have := g.unfolding_pos e.ancestors e.node
    simp only [agendaSize, List.map_cons, total]
    omega
  | visit e agenda new title => exact g.agendaSize_expand new agenda

/-- **There is no endless row of rounds.** -/
theorem wellFounded_round (g : CommandGraph) (excluded : List String) :
    WellFounded fun next agenda => ∃ event, g.Round excluded agenda event next :=
  Subrelation.wf (fun ⟨_, h⟩ => h.size_lt) (measure g.agendaSize).wf

/-- **The rounds from an agenda** give the events of its walk, and no others. -/
theorem run_iff {events : List (WalkEvent g.size)} :
    g.Run excluded agenda events ↔ events = g.walkAgenda excluded agenda := by
  constructor
  · intro h
    induction h with
    | done => rw [walkAgenda]
    | round first _ ih =>
      rw [walkAgenda.eq_def, ih]
      cases first with
      | loop e agenda again => simp [again, walkAgenda]
      | skip e agenda new title => simp [new, title]
      | visit e agenda new title => simp [new, title]
  · rintro rfl
    fun_induction walkAgenda g excluded agenda with
    | case1 => exact .done
    | case2 e agenda again => exact .round (.loop e agenda again) .done
    | case3 e agenda new title ih => exact .round (.skip e agenda new title) ih
    | case4 e agenda new title ih => exact .round (.visit e agenda new title) ih

end Rounds

/-! ## Ways into a cycle -/

variable {g : CommandGraph} {excluded : List String}

/-- **A way leads into a cycle**: its last command was on it before, and no path above is excluded. -/
structure Way.Stops (excluded : List String) (w : g.Way) : Prop where
  closes : w.Closes
  kept : ¬ IsExcluded excluded w.path.dropLast

namespace Way

/-- **A way on which some command is twice has a shortest part that closes.** -/
theorem exists_closing {v : g.Way} (h : ¬ v.trail.Nodup) :
    ∃ u : g.Way, u.Closes ∧ u.above.Nodup ∧ u.route <+: v.route ∧
      u.path.dropLast <+: v.path.dropLast := by
  induction v using Way.induct with
  | root => exact absurd (List.nodup_singleton _) h
  | child v k ih =>
    by_cases hv : v.trail.Nodup
    · refine ⟨v.child k, ?_, hv, List.prefix_rfl, List.prefix_rfl⟩
      by_contra hcloses
      exact h (nodup_trail.mpr ⟨hv, hcloses⟩)
    · obtain ⟨u, hcloses, habove, hroute, hpath⟩ := ih hv
      rw [dropLast_path_child]
      exact ⟨u, hcloses, habove, hroute.trans (List.prefix_append ..),
        hpath.trans (List.dropLast_prefix _)⟩

/-- A way on which some command is twice has a part that leads into a cycle, unless its path is excluded. -/
theorem exists_stops {v : g.Way} (h : ¬ v.trail.Nodup) (hkept : ¬ IsExcluded excluded v.path.dropLast) :
    ∃ u ∈ g.met excluded, u.Stops excluded ∧ u.route <+: v.route := by
  obtain ⟨u, hcloses, habove, hroute, hpath⟩ := exists_closing h
  have hu : ¬ IsExcluded excluded u.path.dropLast :=
    fun hex => hkept (hex.of_prefix hpath)
  exact ⟨u, mem_met.mpr ⟨habove, hu⟩, ⟨hcloses, hu⟩, hroute⟩

/-- The same for a way whose own path is not excluded. -/
theorem exists_stops_of_kept {v : g.Way} (h : ¬ v.trail.Nodup) (hkept : ¬ IsExcluded excluded v.path) :
    ∃ u ∈ g.met excluded, u.Stops excluded ∧ u.route <+: v.route :=
  exists_stops h fun hex => hkept (hex.of_prefix (List.dropLast_prefix _))

theorem Stops.not_nodup {v : g.Way} (h : v.Stops excluded) : ¬ v.trail.Nodup :=
  fun hnodup => (nodup_trail.mp hnodup).2 h.closes

theorem Open.length_path_le {w : g.Way} (h : w.Open excluded) : w.path.length ≤ g.size := by
  have hcard := h.nodup.length_le_card
  rwa [Fintype.card_fin, ← List.length_map] at hcard

end Way

/-! ## Where the walk stops -/

section Stop

variable {before after : List g.Way} {v w : g.Way} (hmet : g.met excluded = before ++ w :: after)
include hmet

/-- The ways that are met before a way are listed before it. -/
theorem mem_before (hv : v ∈ g.met excluded) (hvw : v.Before w) : v ∈ before := by
  have hordered : (g.met excluded).Pairwise Way.Before := pairwise_met
  rw [hmet] at hv hordered
  rcases List.mem_append.mp hv with hv | hv
  · exact hv
  rcases List.mem_cons.mp hv with rfl | hv
  · exact absurd hvw v.before_irrefl
  · have hwv := List.rel_of_pairwise_cons (List.pairwise_append.mp hordered).2.1 hv
    exact absurd (hwv.trans hvw) w.before_irrefl

/-- The ways at which a command is visited before a way is met are open. -/
theorem open_of_mem_before (hv : v ∈ before.filter (·.Passes excluded)) : v.Open excluded := by
  refine mem_opens.mp (List.mem_filter.mpr ⟨?_, (List.mem_filter.mp hv).2⟩)
  rw [hmet]
  exact List.mem_append_left _ (List.mem_of_mem_filter hv)

/-- The way at which the walk stops is the first that leads into a cycle. -/
theorem first_of_met (hbefore : ∀ v ∈ before, ¬ v.Closes) (hv : v.Stops excluded) : ¬ v.Before w := by
  intro hvw
  obtain ⟨u, hu, hstops, hroute⟩ := Way.exists_stops hv.not_nodup hv.kept
  have huw : u.Before w := by
    rcases Way.eq_or_before_of_prefix hroute with rfl | huv
    · exact hvw
    · exact huv.trans hvw
  exact hbefore u (mem_before hmet hu huw) hstops.closes

/-- What is visited before the walk stops: the ways before that are not excluded. -/
theorem mem_before_iff (hbefore : ∀ v ∈ before, ¬ v.Closes) :
    v ∈ before.filter (·.Passes excluded) ↔ v.Before w ∧ ¬ IsExcluded excluded v.path := by
  constructor
  · intro hv
    have hordered : (g.met excluded).Pairwise Way.Before := pairwise_met
    rw [hmet, List.pairwise_append] at hordered
    exact ⟨hordered.2.2 v (List.mem_of_mem_filter hv) w (List.mem_cons_self ..),
      (open_of_mem_before hmet hv).kept⟩
  · rintro ⟨hvw, hkept⟩
    -- a command twice on the way would have stopped the walk earlier
    have hnodup : v.trail.Nodup := by
      by_contra hnodup
      obtain ⟨u, -, hstops, hroute⟩ := Way.exists_stops_of_kept hnodup hkept
      rcases Way.eq_or_before_of_prefix hroute with rfl | huv
      · exact first_of_met hmet hbefore hstops hvw
      · exact first_of_met hmet hbefore hstops (huv.trans hvw)
    obtain ⟨hv, hpasses⟩ := List.mem_filter.mp (mem_opens.mpr (Way.Open.mk hnodup hkept))
    exact List.mem_filter.mpr ⟨mem_before hmet hv hvw, hpasses⟩

end Stop

/-- A walk without cycles visits the ways that are not excluded. -/
theorem mem_opens_iff_of_no_stop (h : ∀ w ∈ g.met excluded, ¬ w.Closes) {v : g.Way} :
    v ∈ g.opens excluded ↔ ¬ IsExcluded excluded v.path := by
  rw [mem_opens]
  refine ⟨fun hopen => hopen.kept, fun hkept => ⟨?_, hkept⟩⟩
  by_contra hnodup
  obtain ⟨u, hu, hstops, -⟩ := Way.exists_stops_of_kept hnodup hkept
  exact h u hu hstops.closes

/-- **A walk always ends, and only a cycle stops it.**  There is no endless row of rounds, and the rounds from
the root on are those of the walk.  It stops exactly if some way leads into a cycle.  Every visit is the stop of
a way on which no command is twice, so its path is no longer than there are commands.  If nothing stops the
walk, it visits the ways that are not excluded, in order.  Otherwise it ends at the first way that leads into a
cycle, which the error names, and has visited the ways before that are not excluded. -/
theorem walk_stops_iff_cycle (g : CommandGraph) (exclude : List String) :
    let excluded := normalizeExclusions exclude
    (WellFounded fun next agenda => ∃ event, g.Round excluded agenda event next) ∧
    (∀ events, g.Run excluded [Way.atRoot.entry] events ↔ events = g.walk exclude) ∧
    ((∃ path, .loop path ∈ g.walk exclude) ↔ ∃ w : g.Way, w.Stops excluded) ∧
    ∃ ways : List g.Way, ways.Pairwise Way.Before ∧ visits (g.walk exclude) = ways.map Way.stop ∧
      (∀ w ∈ ways, w.trail.Nodup ∧ w.path.length ≤ g.size) ∧
      ((∀ path, .loop path ∉ g.walk exclude) → ∀ v, v ∈ ways ↔ ¬ IsExcluded excluded v.path) ∧
      ∀ path, .loop path ∈ g.walk exclude → ∃ (w : g.Way) (events : List (WalkEvent g.size)),
        w.path = path ∧ g.walk exclude = events ++ [.loop path] ∧ (∀ other, .loop other ∉ events) ∧
        w.Stops excluded ∧ (∀ v : g.Way, v.Stops excluded → ¬ v.Before w) ∧
        ∀ v, v ∈ ways ↔ v.Before w ∧ ¬ IsExcluded excluded v.path := by
  intro excluded
  refine ⟨wellFounded_round g excluded, fun events => run_iff, ?_⟩
  rcases g.walk_cases exclude with ⟨hmet, hloop, hvisits⟩ |
      ⟨before, w, after, hmet, hcloses, hbefore, hwalk⟩
  · refine ⟨⟨fun ⟨path, hpath⟩ => absurd hpath (hloop path), ?_⟩, g.opens excluded, pairwise_opens,
      hvisits, fun w hw => ?_, fun _ v => mem_opens_iff_of_no_stop hmet, fun path hpath =>
      absurd hpath (hloop path)⟩
    · rintro ⟨v, hv⟩
      obtain ⟨u, hu, hstops, -⟩ := Way.exists_stops hv.not_nodup hv.kept
      exact absurd hstops.closes (hmet u hu)
    · have hopen := mem_opens.mp hw
      exact ⟨hopen.nodup, hopen.length_path_le⟩
  · have hw : w ∈ g.met excluded := by
      rw [hmet]
      exact List.mem_append_right _ (List.mem_cons_self ..)
    have hstops : w.Stops excluded := ⟨hcloses, (mem_met.mp hw).2⟩
    have hloops : ∀ other, .loop other ∉ before.map (Way.event excluded) :=
      loop_not_mem_map_event hbefore
    have hmem : .loop w.path ∈ g.walk exclude := by
      rw [hwalk]
      exact List.mem_append_right _ (List.mem_cons_self ..)
    refine ⟨⟨fun _ => ⟨w, hstops⟩, fun _ => ⟨w.path, hmem⟩⟩, before.filter (·.Passes excluded), ?_, ?_,
      fun v hv => ?_, fun hnone => absurd hmem (hnone _), fun path hpath => ?_⟩
    · have hordered : (g.met excluded).Pairwise Way.Before := pairwise_met
      rw [hmet] at hordered
      exact (List.pairwise_append.mp hordered).1.filter _
    · rw [hwalk, visits_append, visits_map_event, visits_loop, visits_nil, List.append_nil]
    · have hopen := open_of_mem_before hmet hv
      exact ⟨hopen.nodup, hopen.length_path_le⟩
    · obtain rfl : path = w.path := by
        rw [hwalk, List.mem_append, List.mem_singleton] at hpath
        rcases hpath with hpath | hpath
        · exact absurd hpath (hloops path)
        · exact WalkEvent.loop.inj hpath
      exact ⟨w, _, rfl, hwalk, hloops, hstops, fun v => first_of_met hmet hbefore,
        fun v => mem_before_iff hmet hbefore⟩

end CommandWrap.CommandGraph
