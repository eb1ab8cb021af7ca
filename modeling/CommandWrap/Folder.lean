import CommandWrap.Folder.Path
import CommandWrap.Text.Quoted

/-!
# A folder of files

A folder holds files and folders under relative paths.  Relative paths are looked up from the folder;
a path that leaves it finds nothing.  Reading and writing fail with the reason and the path.
-/
namespace CommandWrap

/-- What a path may lead to. -/
inductive Item
  /-- A file with its bytes. -/
  | file (bytes : List UInt8)
  /-- A folder. -/
  | folder
deriving DecidableEq, Repr

/-- Files and folders by their names on the way; the folder itself is not among them. -/
structure Folder where
  /-- The items, in the order in which they were made. -/
  items : List (List String × Item) := []
deriving Repr, Inhabited

/-- Why a file cannot be read or written. -/
inductive FileFault
  /-- There is nothing. -/
  | missing (path : String)
  /-- There is a folder. -/
  | isFolder (path : String)
  /-- There is a file on the way. -/
  | notFolder (path : String)
  /-- There is a file where a folder should be. -/
  | exists_ (path : String)
deriving DecidableEq, Repr

/-- The text of a fault. -/
def FileFault.message : FileFault → String
  | .missing path => "[Errno 2] No such file or directory: " ++ Text.quoted path
  | .isFolder path => "[Errno 21] Is a directory: " ++ Text.quoted path
  | .notFolder path => "[Errno 20] Not a directory: " ++ Text.quoted path
  | .exists_ path => "[Errno 17] File exists: " ++ Text.quoted path

namespace Folder

/-- The item under names that contain no step upwards. -/
def item? (f : Folder) (names : List String) : Option Item :=
  if names.isEmpty then some .folder else f.items.lookup names

/-- Put an item under its names. -/
def put (f : Folder) (names : List String) (item : Item) : Folder :=
  if (f.items.lookup names).isSome then
    { items := f.items.map fun (n, old) => if n = names then (n, item) else (n, old) }
  else { items := f.items ++ [(names, item)] }

/-- Make the folders on the way to some names. -/
def putParents (f : Folder) (names : List String) : Folder :=
  (List.range names.length).foldl (fun f k =>
    let way := names.take k
    if (f.item? way).isSome then f else f.put way .folder) f

/-- The folder that holds the given files and empty folders, and all folders on the way to them. -/
def ofItems (items : List (Path × Item)) : Folder :=
  items.foldl (fun f (p, item) => (f.putParents p.names).put p.names item) {}

/-- What walking along names from a folder leads to: the names without steps upwards, and the item. -/
def walk (f : Folder) (path : String) : List String → List String → Except FileFault (List String × Item)
  | here, [] =>
    match f.item? here with
    | some item => .ok (here, item)
    | none => .error (.missing path)
  | here, name :: rest =>
    match f.item? here with
    | some .folder =>
      if name = ".." then
        if here.isEmpty then .error (.missing path) else walk f path here.dropLast rest
      else walk f path (here ++ [name]) rest
    | some (.file _) => .error (.notFolder path)
    | none => .error (.missing path)

/-- What a path leads to. -/
def find (f : Folder) (p : Path) : Except FileFault (List String × Item) :=
  if p.isAbsolute then .error (.missing p.text) else f.walk p.text [] p.names

/-- Does the path lead to something? -/
def has (f : Folder) (p : Path) : Bool :=
  (f.find p).isOk

/-- Does the path lead to a file? -/
def hasFile (f : Folder) (p : Path) : Bool :=
  match f.find p with
  | .ok (_, .file _) => true
  | _ => false

/-- The bytes of a file. -/
def read (f : Folder) (p : Path) : Except FileFault (List UInt8) := do
  match ← f.find p with
  | (_, .file bytes) => .ok bytes
  | (_, .folder) => .error (.isFolder p.text)

/-- Make a folder in a folder that is there, unless it is there itself. -/
def makeLast (f : Folder) (p : Path) : Except FileFault Folder :=
  match f.find p with
  | .ok (_, .folder) => .ok f
  | .ok (_, .file _) => .error (.exists_ p.text)
  | .error fault =>
    match f.find p.parent, p.names.getLast? with
    | .ok (names, .folder), some name =>
      if name = ".." then .error fault else .ok (f.put (names ++ [name]) .folder)
    | _, _ => .error fault

/-- Make a folder and the folders on the way to it, unless they are there. -/
def makeFolder (f : Folder) (p : Path) : Except FileFault Folder :=
  match f.find p with
  | .ok (_, .folder) => .ok f
  | .ok (_, .file _) => .error (.exists_ p.text)
  | .error (.missing path) =>
    if _ : p.names = [] then .error (.missing path)
    else do
      let f ← f.makeFolder p.parent
      f.makeLast p
  | .error fault => .error fault
termination_by p.names.length
decreasing_by
  have := List.length_pos_iff.mpr ‹¬ p.names = []›
  simp only [Path.parent, List.length_dropLast]
  omega

/-- Write a file; its folder must be there. -/
def write (f : Folder) (p : Path) (bytes : List UInt8) : Except FileFault Folder :=
  match f.find p with
  | .ok (_, .folder) => .error (.isFolder p.text)
  | .ok (names, .file _) => .ok (f.put names (.file bytes))
  | .error _ => do
    match ← f.find p.parent with
    | (names, .folder) =>
      match p.names.getLast? with
      | some name => if name = ".." then .error (.isFolder p.text) else .ok (f.put (names ++ [name]) (.file bytes))
      | none => .error (.isFolder p.text)
    | (_, .file _) => .error (.notFolder p.text)

end Folder

end CommandWrap
