import CommandWrap.Command.Graph
import CommandWrap.Text.Blank

/-!
# Walking a command graph

A walk visits the commands of a graph, the root first and each child's whole subtree before the next
child, and knows the path of names that leads to each.  Subtrees whose path is excluded are left out.
A walk that meets a command below itself stops there.

The walk keeps an agenda of commands still to be looked at, the next one first.  It ends because an
agenda entry is replaced by entries for its children, whose unfoldings are together smaller
(`unfolding`): along one path no command is entered twice.
-/
namespace CommandWrap

/-- The exclusions in normal form: words with one space between them. -/
def normalizeExclusions (entries : List String) : List String :=
  entries.map Text.collapse

/-- A path as one text. -/
def pathTitle (path : List String) : String :=
  String.intercalate " " path

/-- What a walk meets. -/
inductive WalkEvent (n : Nat)
  /-- A command is visited. -/
  | visit (node : Fin n) (path : List String)
  /-- A command and its subtree are left out. -/
  | skip (path : List String)
  /-- A command is met below itself; the walk stops. -/
  | loop (path : List String)
deriving DecidableEq, Repr

/-- A command on the agenda of a walk. -/
structure AgendaEntry (n : Nat) where
  /-- The command. -/
  node : Fin n
  /-- The names that lead to it from the root on. -/
  path : List String
  /-- The commands above it. -/
  ancestors : List (Fin n)

/-- The sum of numbers. -/
def total : List Nat → Nat
  | [] => 0
  | n :: ns => n + total ns

theorem total_append (ms ns : List Nat) : total (ms ++ ns) = total ms + total ns := by
  induction ms with
  | nil => simp [total]
  | cons m ms ih => simp only [List.cons_append, total, ih, Nat.add_assoc]

namespace CommandGraph

variable (g : CommandGraph)

/-- The commands that are not on a path. -/
def fresh {n : Nat} (path : List (Fin n)) : List (Fin n) :=
  (List.finRange n).filter (· ∉ path)

theorem length_fresh_cons {n : Nat} {path : List (Fin n)} {i : Fin n} (h : i ∉ path) :
    (fresh (i :: path)).length < (fresh path).length := by
  have hsub : (fresh (i :: path)).Sublist (fresh path) := by
    have : fresh (i :: path) = (fresh path).filter (· ≠ i) := by
      simp only [fresh, List.filter_filter]
      congr 1
      funext j
      simp
    rw [this]
    exact List.filter_sublist
  apply Nat.lt_of_le_of_ne hsub.length_le
  intro heq
  have := hsub.eq_of_length heq
  have hi : i ∈ fresh path := by simp [fresh, h]
  rw [← this] at hi
  simp [fresh] at hi

/-- The number of steps that a walk from `i` takes when `ancestors` are above it and nothing is
excluded. -/
def unfolding (ancestors : List (Fin g.size)) (i : Fin g.size) : Nat :=
  if h : i ∈ ancestors then 1
  else 1 + total ((g.children i).map fun c => unfolding (i :: ancestors) c)
termination_by (fresh ancestors).length
decreasing_by exact length_fresh_cons h

/-- The number of steps that a walk over an agenda takes when nothing is excluded. -/
def agendaSize (agenda : List (AgendaEntry g.size)) : Nat :=
  total (agenda.map fun e => g.unfolding e.ancestors e.node)

/-- The entries for the children of an entry. -/
def expand (e : AgendaEntry g.size) : List (AgendaEntry g.size) :=
  (g.children e.node).map fun c =>
    { node := c, path := e.path ++ [(g.info c).name], ancestors := e.node :: e.ancestors }

theorem unfolding_pos (ancestors : List (Fin g.size)) (i : Fin g.size) :
    0 < g.unfolding ancestors i := by
  unfold unfolding
  split <;> omega

theorem agendaSize_expand {e : AgendaEntry g.size} (h : e.node ∉ e.ancestors)
    (agenda : List (AgendaEntry g.size)) :
    g.agendaSize (g.expand e ++ agenda) < g.agendaSize (e :: agenda) := by
  simp only [agendaSize, expand, List.map_append, List.map_map, total_append, List.map_cons, total]
  conv => rhs; rw [unfolding]
  simp only [h, dite_false, Function.comp_def]
  omega

/-- Walk over an agenda, leaving out the excluded paths. -/
def walkAgenda (excluded : List String) : List (AgendaEntry g.size) → List (WalkEvent g.size)
  | [] => []
  | e :: agenda =>
    if e.node ∈ e.ancestors then [.loop e.path]
    else if pathTitle e.path ∈ excluded then .skip e.path :: walkAgenda excluded agenda
    else .visit e.node e.path :: walkAgenda excluded (g.expand e ++ agenda)
termination_by agenda => g.agendaSize agenda
decreasing_by
  · have := g.unfolding_pos e.ancestors e.node
    simp only [agendaSize, List.map_cons, total]
    omega
  · rename_i h _
    exact g.agendaSize_expand h agenda

/-- The events of a walk from the root. -/
def walk (exclude : List String) : List (WalkEvent g.size) :=
  g.walkAgenda (normalizeExclusions exclude)
    [{ node := g.root, path := [g.name], ancestors := [] }]

end CommandGraph

end CommandWrap
