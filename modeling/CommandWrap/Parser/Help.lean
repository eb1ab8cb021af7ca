import CommandWrap.Parser.Declaration
import CommandWrap.Text.Wrapped

/-!
# The help of a parser

The help shows the usage line, the description and a list of the options.  The texts of all options
begin at one column; an option that is too long for the space before it stands on a line of its own.
-/
namespace CommandWrap.Parser.Help

/-- The column at which the texts of options begin at most. -/
def maxColumn : Nat := 24

/-- An option with the words that belong to it, by each of its names. -/
def invocation (a : Argument) : Except ParserError String := do
  if a.names.isEmpty then Usage.wordsOf a a.dest
  else if a.arity = .exactly 0 then return String.intercalate ", " a.names
  else
    let words ← Usage.wordsOf a (Unicode.upperText a.dest)
    return String.intercalate ", " (a.names.map (· ++ " " ++ words))

/-- The lines of an argument; its text begins at a column. -/
def argumentLines (column : Nat) (a : Argument) : Except ParserError (List String) := do
  let head := "  " ++ (← invocation a)
  let texts := Text.wrapped (Usage.maxWidth - column) (a.help?.getD "")
  match texts with
  | [] => return [head]
  | first :: rest =>
    let below := rest.map (Usage.spaces column ++ ·)
    if head.length + 2 ≤ column then
      return (head ++ Usage.spaces (column - head.length) ++ first) :: below
    else return head :: (Usage.spaces column ++ first) :: below

/-- A list of arguments under a heading; nothing if there are none. -/
def listing (column : Nat) (heading : String) (args : List Argument) :
    Except ParserError (List String) := do
  if args.isEmpty then return []
  let lines ← args.mapM (argumentLines column)
  return ["", heading ++ ":"] ++ lines.flatten

/-- The help text of a parser. -/
def text (info : Info) : Except ParserError String := do
  let usage ← info.usage "usage: " info.numbered
  let heads ← info.arguments.mapM invocation
  let widest := heads.foldl (fun n h => max n (h.length + 2)) 0
  let column := min (widest + 2) maxColumn
  let description := match info.description? with
    | some d => "" :: Text.wrapped Usage.maxWidth d
    | none => []
  let positionals ← listing column "positional arguments" (info.arguments.filter (·.names.isEmpty))
  let options ← listing column "options" (info.arguments.filter (!·.names.isEmpty))
  return String.intercalate "\n" (("usage: " ++ usage) :: description ++ positionals ++ options) ++ "\n"

end CommandWrap.Parser.Help
