import CommandWrap.Group.Reading
import CommandWrap.Text.Wrapped

/-!
# Help pages of groups

A help page shows the usage line, the help text, the options and the subcommands of a command.  Options
and subcommands stand in two columns.  A usage fault is shown below the usage line, with the way to the
help page.
-/
namespace CommandWrap.Group.Help

/-- The width of a page. -/
def width : Nat := 78

/-- The widest that a first column may be. -/
def maxColumn : Nat := 30

/-- Spaces. -/
def spaces (n : Nat) : String :=
  String.ofList (List.replicate n ' ')

/-- Lines with an indentation. -/
def indented (n : Nat) (lines : List String) : List String :=
  lines.map (spaces n ++ ·)

/-- The usage line of a command with the given path; further lines begin below the first word behind
the path. -/
def usage (path : String) (c : Command) : List String :=
  let start := "Usage: " ++ path ++ " "
  match Text.wrapped (width - start.length) (String.intercalate " " c.usagePieces) with
  | [] => [start]
  | first :: rest => (start ++ first) :: indented start.length rest

/-- The paragraphs of a text. -/
def paragraphs (lines : List String) : List String :=
  match lines with
  | [] => []
  | line :: rest =>
    match line.trimAscii.toString, paragraphs rest with
    | "", ps => "" :: ps
    | _, "" :: ps => line :: "" :: ps
    | _, p :: ps => (line ++ " " ++ p) :: ps
    | _, [] => [line]

/-- The help text of a command, up to a form feed. -/
def helpText (info : Info) : String :=
  let text := String.ofList ((Text.dedent (info.help?.getD "")).toList.takeWhile (· != '\x0c'))
  match info.deprecation.label?, text with
  | none, text => text
  | some label, "" => label
  | some label, text => text ++ " " ++ label

/-- The lines of a help text. -/
def textLines (info : Info) : List String :=
  let lines := ((paragraphs ((helpText info).splitOn "\n")).filter (· != "")).map (Text.wrapped (width - 4))
  indented 2 (List.intercalate [""] lines)

/-- Two columns. -/
def columns (rows : List (String × String)) : List String :=
  let widest := ((rows.map (·.1.length)).max?.getD 0)
  let first := min widest maxColumn + 2
  rows.flatMap fun (name, text) =>
    match Text.wrapped (width - first - 2) text with
    | [] => ["  " ++ name]
    | line :: rest =>
      let rest := indented (first + 2) rest
      if name.length ≤ first - 2 then ("  " ++ name ++ spaces (first - name.length) ++ line) :: rest
      else ("  " ++ name) :: (spaces (first + 2) ++ line) :: rest

/-- What stands for the words of an option. -/
def optionLabel (o : OptionInfo) : String :=
  match o.label? with
  | some label => label
  | none =>
    let base := (o.type.label? false).getD (Unicode.upperText o.type.title)
    if o.arity = 1 then base else base ++ "..."

/-- The names of an option, those with fewer signs first, and what stands for its words. -/
def optionNames (o : OptionInfo) : String :=
  let join (names : List String) :=
    String.intercalate ", "
      (names.mergeSort fun a b => (splitSigns a.toList).1.length ≤ (splitSigns b.toList).1.length)
  let names (ns : List String) :=
    if o.isFlag || o.isCounted then join ns else join ns ++ " " ++ optionLabel o
  if o.opposites.isEmpty then names o.names else names o.names ++ " / " ++ names o.opposites

/-- The rows of the options that are shown. -/
def optionRows (c : Command) : List (String × String) :=
  ((Reading.options c).filter (!·.isHidden)).map fun o => (optionNames o, o.help?.getD "")

/-- The rows of the subcommands that are shown. -/
def commandRows (c : Command) : List (String × String) :=
  let shown := c.commands.filter (!·.info.isHidden)
  let name (s : Command) := s.info.name?.getD ""
  let widest := ((shown.map fun s => (name s).length).max?.getD 0)
  shown.map fun s => (name s, s.info.summary (width - 6 - widest))

/-- A part of a page with a title. -/
def part (title : String) (rows : List (String × String)) : List String :=
  if rows.isEmpty then [] else "" :: (title ++ ":") :: columns rows

/-- The help page of a command with the given path. -/
def page (path : String) (c : Command) : String :=
  let text := textLines c.info
  let lines := usage path c ++ (if text.isEmpty then [] else "" :: text) ++
    part "Options" (optionRows c) ++ part "Commands" (commandRows c)
  String.join (lines.map (· ++ "\n"))

/-- What is shown about a usage fault of a command with the given path. -/
def fault (path : String) (c : Command) (e : UsageFault) : String :=
  String.join ((usage path c).map (· ++ "\n")) ++
    (if (Reading.helpOption? c).isSome then "Try '" ++ path ++ " --help' for help.\n" else "") ++
    "\nError: " ++ e.message ++ "\n"

end CommandWrap.Group.Help
