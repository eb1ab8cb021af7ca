import CommandWrap.Folder.Path

/-!
# The surroundings of a program

A program knows the folder it works in, the folder of the files that come with it, and the variables of
its environment.
-/
namespace CommandWrap

/-- The surroundings of a program. -/
structure Surroundings where
  /-- The absolute path of the folder that relative paths start from. -/
  workFolder : String
  /-- The folder of the files that come with the program. -/
  dataFolder : Path
  /-- The variables of the environment. -/
  environment : List (String × String) := []
deriving Repr

namespace Surroundings

/-- The value of a variable. -/
def value? (s : Surroundings) (name : String) : Option String :=
  s.environment.lookup name

/-- The path of a file that comes with the program. -/
def dataFile (s : Surroundings) (name : String) : Path :=
  s.dataFolder.below (Path.ofText name)

/-- The names of a path without steps upwards, as far as they can be undone. -/
def undoSteps (names : List String) : List String :=
  names.foldl (fun way name => if name = ".." && !way.isEmpty then way.dropLast else way ++ [name]) []

/-- The absolute text of a path. -/
def absoluteText (s : Surroundings) (p : Path) : String :=
  let p := { p with names := undoSteps p.names }
  if p.isAbsolute then p.text
  else if p.names.isEmpty then s.workFolder
  else s.workFolder ++ "/" ++ p.text

end Surroundings

end CommandWrap
