import CommandWrap.Docker.Tree
import CommandWrap.Document.TreeFile
import CommandWrap.Module.Text
import CommandWrap.Surroundings

/-!
# What a program leaves

A program reads files of a folder, writes to its two outputs and to the folder, and ends with a number.
A fault that the program does not report itself ends it as well.

Reading a command tree, generating a module and writing it to a file are steps that several programs
share.  Reading and generating log messages, of which a program shows those at its level.
-/
namespace CommandWrap.Program

/-- A part of the error output. -/
inductive Piece
  /-- A text. -/
  | text (s : String)
  /-- A log message, which is shown on a line with its time. -/
  | note (n : Log.Note)
deriving Repr

/-- What a program leaves when it ends by itself. -/
structure Output where
  /-- The number with which it ends. -/
  exit : Nat := 0
  /-- What it printed. -/
  stdout : String := ""
  /-- What it printed to the error output, in order. -/
  stderr : List Piece := []
  /-- The folder afterwards. -/
  folder : Folder
deriving Repr

/-- The path of the command tree of the Docker command line. -/
def packagedTree (s : Surroundings) : Path :=
  s.dataFile "docker.yaml"

/-- Read the command tree in a file; the tree of the Docker command line is at hand. -/
def loadTree (s : Surroundings) (f : Folder) (path : Path) : Except TreeFileError CommandTree :=
  if path = packagedTree s then .ok Docker.tree else TreeFile.load f path

/-- Is the error one that a program reports, and not a fault that ends it? -/
def isReported : TreeFileError → Bool
  | .notFound _ => true
  | .malformed _ => true
  | .noMap _ => true
  | .noTree .integerTooLong => false
  | .noTree .endless => false
  | .noTree _ => true
  | _ => false

/-- Write a text to a file, and make the folders on the way to it. -/
def writeText (f : Folder) (path : Path) (text : String) : Except FileFault Folder := do
  let f ← f.makeFolder path.parent
  f.write path text.toUTF8.toList

/-- The messages that are shown at a level. -/
def shown (level : Int) (notes : List Log.Note) : List Piece :=
  (notes.filter (·.shownAt level)).map .note

end CommandWrap.Program
