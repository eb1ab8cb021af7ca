import CommandWrap.Invocation.ShellWords

/-!
# Invocations

An invocation is a program with its arguments, not yet started.
-/
namespace CommandWrap

/-- A program with its arguments. -/
structure Invocation where
  /-- The program. -/
  program : String
  /-- The arguments in order. -/
  args : List String := []
deriving DecidableEq, Repr, Inhabited

namespace Invocation

/-- The program and its arguments. -/
def argv (c : Invocation) : List String :=
  c.program :: c.args

/-- The line that a shell reads as the invocation. -/
def text (c : Invocation) : String :=
  ShellWords.join c.argv

end Invocation

end CommandWrap
