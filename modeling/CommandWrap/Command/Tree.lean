/-!
# Command trees

A command line program is described by a tree of commands.  A command has a name, a usage line, a
short description, its flags in order and its subcommands in order.
-/
namespace CommandWrap

/-- A declared flag of a command. -/
structure Flag where
  /-- The long name, without the leading hyphens. -/
  name : String
  /-- The tag that names the type of the flag's value. -/
  type : String := "string"
  /-- A description of the flag. -/
  help : String := ""
deriving DecidableEq, Repr, Inhabited

/-- What is said of a command apart from its subcommands. -/
structure CommandInfo where
  /-- The word that calls the command. -/
  name : String
  /-- The usage line. -/
  usage : String := ""
  /-- The short description. -/
  short : String := ""
  /-- The flags in the order of declaration. -/
  flags : List Flag := []
deriving DecidableEq, Repr, Inhabited

/-- A command with its subcommands. -/
inductive CommandTree
  /-- A command and its subcommands in order. -/
  | node (info : CommandInfo) (commands : List CommandTree)
deriving Inhabited

namespace CommandTree

/-- What is said of the root. -/
def info : CommandTree → CommandInfo
  | .node i _ => i

/-- The subcommands of the root. -/
def commands : CommandTree → List CommandTree
  | .node _ cs => cs

/-- The name of the root. -/
def name (t : CommandTree) : String :=
  t.info.name

mutual

/-- The number of commands in the tree. -/
def size : CommandTree → Nat
  | .node _ cs => 1 + sizeList cs

/-- The number of commands in a row of trees. -/
def sizeList : List CommandTree → Nat
  | [] => 0
  | t :: ts => size t + sizeList ts

end

mutual

/-- Are two trees the same? -/
def same : CommandTree → CommandTree → Bool
  | .node i cs, .node j ds => i == j && sameList cs ds

/-- Are two rows of trees the same? -/
def sameList : List CommandTree → List CommandTree → Bool
  | [], [] => true
  | t :: ts, u :: us => same t u && sameList ts us
  | _, _ => false

end

instance : BEq CommandTree := ⟨same⟩

/-- The command that a sequence of names leads to, by way of the first subcommand of each name;
otherwise the name that leads nowhere. -/
def find (t : CommandTree) : List String → Except String CommandTree
  | [] => .ok t
  | name :: rest =>
    match t.commands.find? (·.name == name) with
    | some child => child.find rest
    | none => .error name

end CommandTree

end CommandWrap
