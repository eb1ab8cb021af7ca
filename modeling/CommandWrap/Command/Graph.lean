import CommandWrap.Command.Tree
import CommandWrap.Text.Quoted

/-!
# Command graphs

Commands may be shared between several parents, and a command may even lie below itself.  Such a
structure is a table of commands in which children are given by their numbers.  A tree becomes a
graph by numbering its commands in pre-order (`ofTree`), so that every command is numbered once.
-/
namespace CommandWrap

/-- A command of a graph with `n` commands. -/
structure CommandNode (n : Nat) where
  /-- What is said of the command. -/
  info : CommandInfo
  /-- The numbers of the subcommands in order. -/
  children : List (Fin n)
deriving Inhabited

/-- A finite structure of commands with one root. -/
structure CommandGraph where
  /-- How many commands there are. -/
  size : Nat
  /-- The commands by number. -/
  nodes : Vector (CommandNode size) size
  /-- The number of the root. -/
  root : Fin size

/-- A command whose children are not yet known to exist. -/
structure CommandDraft where
  /-- What is said of the command. -/
  info : CommandInfo
  /-- The numbers of the subcommands in order. -/
  children : List Nat
deriving Inhabited

namespace CommandGraph

/-- The command of a number. -/
def node (g : CommandGraph) (i : Fin g.size) : CommandNode g.size :=
  g.nodes[i]

/-- What is said of the command of a number. -/
def info (g : CommandGraph) (i : Fin g.size) : CommandInfo :=
  (g.node i).info

/-- The children of the command of a number. -/
def children (g : CommandGraph) (i : Fin g.size) : List (Fin g.size) :=
  (g.node i).children

/-- The graph of drafts whose children all exist; the first draft is the root. -/
def link (drafts : Array CommandDraft) (nonempty : 0 < drafts.size)
    (closed : ∀ d ∈ drafts, ∀ c ∈ d.children, c < drafts.size) : CommandGraph where
  size := drafts.size
  nodes := Vector.ofFn fun i =>
    { info := drafts[i].info
      children := drafts[i].children.pmap Fin.mk (closed drafts[i] (by simp)) }
  root := ⟨0, nonempty⟩

/-- The graph of drafts, unless there is none or some child does not exist. -/
def ofDrafts? (drafts : Array CommandDraft) : Option CommandGraph :=
  if nonempty : 0 < drafts.size then
    if closed : ∀ d ∈ drafts, ∀ c ∈ d.children, c < drafts.size then
      some (link drafts nonempty closed)
    else none
  else none

/-! ## Trees as graphs -/

/-- The numbers of the roots of a row of trees that are numbered from `start` on. -/
def rootNumbers (start : Nat) : List CommandTree → List Nat
  | [] => []
  | t :: ts => start :: rootNumbers (start + t.size) ts

mutual

/-- The commands of a tree in pre-order, numbered from `start` on. -/
def draftsFrom (start : Nat) : CommandTree → List CommandDraft
  | .node info cs => ⟨info, rootNumbers (start + 1) cs⟩ :: draftsFromList (start + 1) cs

/-- The commands of a row of trees, numbered from `start` on. -/
def draftsFromList (start : Nat) : List CommandTree → List CommandDraft
  | [] => []
  | t :: ts => draftsFrom start t ++ draftsFromList (start + t.size) ts

end

mutual

theorem length_draftsFrom (start : Nat) (t : CommandTree) :
    (draftsFrom start t).length = t.size := by
  cases t with
  | node info cs =>
    simp only [draftsFrom, List.length_cons, CommandTree.size]
    rw [length_draftsFromList, Nat.add_comm]

theorem length_draftsFromList (start : Nat) (ts : List CommandTree) :
    (draftsFromList start ts).length = CommandTree.sizeList ts := by
  cases ts with
  | nil => simp [draftsFromList, CommandTree.sizeList]
  | cons t ts =>
    simp only [draftsFromList, List.length_append, CommandTree.sizeList]
    rw [length_draftsFrom, length_draftsFromList]

end

theorem size_pos (t : CommandTree) : 0 < t.size := by
  cases t
  simp only [CommandTree.size]
  omega

theorem rootNumbers_lt (start : Nat) (ts : List CommandTree) :
    ∀ c ∈ rootNumbers start ts, c < start + CommandTree.sizeList ts := by
  induction ts generalizing start with
  | nil => simp [rootNumbers]
  | cons t ts ih =>
    intro c hc
    have ht := size_pos t
    simp only [CommandTree.sizeList]
    rcases List.mem_cons.mp hc with rfl | hc
    · omega
    · have := ih (start + t.size) c hc
      omega

mutual

theorem children_lt_draftsFrom (start : Nat) (t : CommandTree) :
    ∀ d ∈ draftsFrom start t, ∀ c ∈ d.children, c < start + t.size := by
  cases t with
  | node info cs =>
    intro d hd c hc
    simp only [draftsFrom, List.mem_cons] at hd
    simp only [CommandTree.size]
    rcases hd with rfl | hd
    · have := rootNumbers_lt (start + 1) cs c hc
      omega
    · have := children_lt_draftsFromList (start + 1) cs d hd c hc
      omega

theorem children_lt_draftsFromList (start : Nat) (ts : List CommandTree) :
    ∀ d ∈ draftsFromList start ts, ∀ c ∈ d.children, c < start + CommandTree.sizeList ts := by
  cases ts with
  | nil => simp [draftsFromList]
  | cons t ts =>
    intro d hd c hc
    simp only [draftsFromList, List.mem_append] at hd
    simp only [CommandTree.sizeList]
    rcases hd with hd | hd
    · have := children_lt_draftsFrom start t d hd c hc
      omega
    · have := children_lt_draftsFromList (start + t.size) ts d hd c hc
      omega

end

/-- The graph of a tree: its commands numbered in pre-order. -/
def ofTree (t : CommandTree) : CommandGraph :=
  link (draftsFrom 0 t).toArray
    (by simpa [length_draftsFrom] using size_pos t)
    (by
      intro d hd c hc
      have := children_lt_draftsFrom 0 t d (by simpa using hd) c hc
      simpa [length_draftsFrom] using this)

/-! ## Looking commands up -/

/-- The number that a sequence of names leads to from a command, by way of the first child of each
name; otherwise the name that leads nowhere. -/
def findFrom (g : CommandGraph) (i : Fin g.size) : List String → Except String (Fin g.size)
  | [] => .ok i
  | name :: rest =>
    match (g.children i).find? (fun c => (g.info c).name == name) with
    | some c => g.findFrom c rest
    | none => .error name

/-- The number that a sequence of names leads to from the root. -/
def find (g : CommandGraph) (path : List String) : Except String (Fin g.size) :=
  g.findFrom g.root path

/-- The same graph seen from another root. -/
def withRoot (g : CommandGraph) (i : Fin g.size) : CommandGraph :=
  { g with root := i }

/-- The name of the root. -/
def name (g : CommandGraph) : String :=
  (g.info g.root).name

/-- The message that a name on a path leads nowhere. -/
def missingMessage (g : CommandGraph) (path : List String) (name : String) : String :=
  String.intercalate " " (g.name :: path) ++ ": no command named " ++ Text.quoted name

/-- The tree of the commands below `i`, down to `depth` levels. -/
def treeFrom (g : CommandGraph) : Nat → Fin g.size → CommandTree
  | 0, i => .node (g.info i) []
  | depth + 1, i => .node (g.info i) ((g.children i).map (g.treeFrom depth))

/-- The tree of a graph without a command below itself: no path in it is longer than its size. -/
def toTree (g : CommandGraph) : CommandTree :=
  g.treeFrom g.size g.root

end CommandGraph

end CommandWrap
