import CommandWrap.Text.Blank

/-!
# Filled lines

The words of a text are put into lines of at most a given width; a word that is longer stands on a line
of its own.
-/
namespace CommandWrap.Text

/-- Fill lines with words.  `line` is the present line. -/
def fillWords (width : Nat) (line : String) : List String → List String
  | [] => if line.isEmpty then [] else [line]
  | w :: rest =>
    if line.isEmpty then fillWords width w rest
    else if line.length + 1 + w.length ≤ width then fillWords width (line ++ " " ++ w) rest
    else line :: fillWords width w rest

/-- The lines of a text. -/
def wrapped (width : Nat) (s : String) : List String :=
  fillWords width "" ((words s.toList).map String.ofList)

end CommandWrap.Text
