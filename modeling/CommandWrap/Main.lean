import CommandWrap.Program.CommandLine

/-!
# The command line

The command line reads the files that the program needs, runs it, prints what it leaves and writes the
files that are new or changed.
-/
namespace CommandWrap.Main

/-- What stands at a path of the file system. -/
def readItem? (path : String) : IO (Option Item) := do
  try
    let bytes ← IO.FS.readBinFile path
    return some (.file bytes.toList)
  catch e =>
    match e with
    | .inappropriateType .. => return some .folder
    | _ => return none

/-- The folder with the items at the given paths, as far as there are any. -/
def gather (f : Folder) (paths : List Path) : IO Folder := do
  let mut f := f
  for path in paths do
    if !path.isAbsolute && !path.names.isEmpty && !f.has path then
      if let some item ← readItem? path.text then
        f := (f.putParents path.names).put path.names item
  return f

/-- How often the files at hand are asked which other files are needed. -/
def rounds : Nat := 8

/-- The surroundings in which the program runs. -/
def surroundings : IO Surroundings := do
  let level? ← IO.getEnv Program.CommandLine.levelVariable
  return {
    workFolder := (← IO.currentDir).toString
    dataFolder := Path.ofText "docker_wrapper/data"
    environment := level?.toList.map fun level => (Program.CommandLine.levelVariable, level) }

/-- The wording of a fault. -/
def faultText : Program.CommandLine.Fault → String
  | .settings e => e.message
  | .tree e => e.message
  | .file e => e.message
  | .target e => e.message

/-- The text of a part of the error output. -/
def pieceText : Program.Piece → String
  | .text s => s
  | .note n => n.line ++ "\n"

/-- Write the files that differ. -/
def writeChanges (before after : Folder) : IO Unit := do
  for (names, item) in after.items do
    if before.item? names ≠ some item then
      let path := String.intercalate "/" names
      match item with
      | .folder => IO.FS.createDirAll path
      | .file bytes => IO.FS.writeBinFile path ⟨bytes.toArray⟩

/-- Run the program on the words of a command line. -/
def run (words : List String) : IO UInt32 := do
  let s ← surroundings
  let mut f : Folder := {}
  for _ in List.range rounds do
    f ← gather f (Program.CommandLine.neededFiles s f words)
  let r := Program.CommandLine.run "docker-wrapper" s f {} words
  writeChanges f r.output.folder
  IO.print r.output.stdout
  for piece in r.output.stderr do
    IO.eprint (pieceText piece)
  if let some fault := r.fault? then
    IO.eprintln (faultText fault)
  return UInt32.ofNat r.output.exit

end CommandWrap.Main

/-- The command line. -/
def main (args : List String) : IO UInt32 :=
  CommandWrap.Main.run args
