/-!
# Paths

A path is a list of names, absolute or relative.  Empty names and single points are left out when a
path is read, so different texts may give one path.
-/
namespace CommandWrap

/-- A path. -/
structure Path where
  /-- Does it begin at the root? -/
  isAbsolute : Bool := false
  /-- The names on the way. -/
  names : List String
deriving DecidableEq, Repr, Inhabited

namespace Path

/-- The parts of a text between slashes. -/
def split (text : String) : List String :=
  (text.toList.splitOn '/').map String.ofList

/-- The path that a text gives. -/
def ofText (text : String) : Path :=
  { isAbsolute := text.toList.head? == some '/'
    names := (split text).filter fun name => name != "" && name != "." }

/-- The text of a path; the empty relative path is a point. -/
def text (p : Path) : String :=
  let way := String.intercalate "/" p.names
  if p.isAbsolute then "/" ++ way else if p.names.isEmpty then "." else way

/-- The path without its last name. -/
def parent (p : Path) : Path :=
  { p with names := p.names.dropLast }

/-- The path below this one. -/
def below (p q : Path) : Path :=
  if q.isAbsolute then q else { p with names := p.names ++ q.names }

end Path

end CommandWrap
