import CommandWrap.Text.Blank

/-!
# Texts without indentation

A text that is written inside an indented block loses the indentation that its lines share, and the
empty lines around it.  The first line loses its own indentation.
-/
namespace CommandWrap.Text

/-- Tabs become spaces up to the next column that is a multiple of eight. -/
def expandTabs (column : Nat) : List Char → List Char
  | [] => []
  | '\t' :: rest =>
    let n := 8 - column % 8
    List.replicate n ' ' ++ expandTabs (column + n) rest
  | c :: rest => c :: expandTabs (if c = '\n' ∨ c = '\r' then 0 else column + 1) rest

/-- The lines of a text between its line feeds. -/
def splitLines : List Char → List (List Char)
  | [] => [[]]
  | '\n' :: rest => [] :: splitLines rest
  | c :: rest =>
    match splitLines rest with
    | line :: lines => (c :: line) :: lines
    | [] => [[c]]

/-- The indentation of a line; a blank line has none. -/
def indentOf? (line : List Char) : Option Nat :=
  let content := stripLeft line
  if content.isEmpty then none else some (line.length - content.length)

/-- The least indentation of lines. -/
def marginOf (lines : List (List Char)) : Option Nat :=
  (lines.filterMap indentOf?).min?

/-- The lines without empty lines at either end. -/
def trimLines (lines : List (List Char)) : List (List Char) :=
  ((lines.dropWhile List.isEmpty).reverse.dropWhile List.isEmpty).reverse

/-- The text without the indentation that its lines share. -/
def dedent (s : String) : String :=
  match splitLines (expandTabs 0 s.toList) with
  | [] => ""
  | first :: rest =>
    let rest := match marginOf rest with
      | some n => rest.map (·.drop n)
      | none => rest
    String.intercalate "\n" ((trimLines (stripLeft first :: rest)).map String.ofList)

end CommandWrap.Text
