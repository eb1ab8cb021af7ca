import CommandWrap.Parser.Argument
import CommandWrap.Text.Blank

/-!
# Usage lines

A usage line names the program, its options and its positional arguments.  What may be left out stands
between square brackets, and arguments that exclude each other are separated by bars.  A line that is
too long is broken between its parts.
-/
namespace CommandWrap.Parser

/-- Arguments that exclude each other, given by their numbers. -/
structure Exclusive where
  /-- The numbers of the arguments. -/
  members : List Nat
  /-- Must one of them be given? -/
  required : Bool
deriving Repr, DecidableEq

/-- An argument with its number. -/
abbrev Numbered := Nat × Argument

namespace Usage

/-- What stands for the value of an argument. -/
def metavarOf (a : Argument) (default : String) : String :=
  match a.metavar?, a.choices? with
  | some m, _ => m
  | none, some cs => "\x7b" ++ String.intercalate "," cs ++ "\x7d"
  | none, none => default

/-- The words that belong to an argument. -/
def wordsOf (a : Argument) (default : String) : Except ParserError String :=
  let m := metavarOf a default
  match a.arity with
  | .one => .ok m
  | .optional => .ok ("[" ++ m ++ "]")
  | .any => .ok ("[" ++ m ++ " ...]")
  | .some => .ok (m ++ " [" ++ m ++ " ...]")
  | .rest => .ok "..."
  | .command => .ok (m ++ " ...")
  | .hidden => .ok ""
  | .exactly n => .ok (String.intercalate " " (List.replicate n.toNat m))
  | .invalid => .error .badArity

/-- The names by which a switch is shown. -/
def switchText (a : Argument) : String :=
  if a.action = .booleanOptional then String.intercalate " | " a.names else a.names.headD ""

/-- A text without the square brackets around it. -/
def withoutBrackets (s : String) : String :=
  match s.toList with
  | '[' :: rest => if rest.getLast? = some ']' then String.ofList rest.dropLast else s
  | _ => s

/-- The part of an argument; brackets around it are left out inside a group. -/
def partOf (inGroup : Bool) (a : Argument) : Except ParserError String := do
  if a.names.isEmpty then
    let text ← wordsOf a a.dest
    if inGroup then
      if text.isEmpty then .error .emptyName
      return withoutBrackets text
    else return text
  else
    let text ←
      if a.arity = .exactly 0 then pure (switchText a)
      else do
        let words ← wordsOf a (Unicode.upperText a.dest)
        pure (a.names.headD "" ++ " " ++ words)
    return if a.required || inGroup then text else "[" ++ text ++ "]"

/-- Marks that stand before the part at a place; the place behind the last part counts as well. -/
abbrev Marks := List (Nat × String)

/-- Add a mark to what stands before a place. -/
def addMark (place : Nat) (first further : String) (marks : Marks) : Marks :=
  match marks.lookup place with
  | some old => marks.map fun (p, m) => if p = place then (p, old ++ further) else (p, m)
  | none => (place, first) :: marks

/-- Let a bar stand before a place. -/
def setBar (marks : Marks) (place : Nat) : Marks :=
  (place, "|") :: marks.filter (·.1 != place)

/-- The marks of a group whose members are a run of the arguments that begins at `start`. -/
def groupMarks (g : Exclusive) (start : Nat) (marks : Marks) : Marks :=
  let stop := start + g.members.length
  let around :=
    if !g.required then addMark stop "]" "]" (addMark start "[" " [" marks)
    else if 1 < g.members.length then addMark stop ")" ")" (addMark start "(" " (" marks)
    else marks
  ((List.range g.members.length).drop 1).foldl (fun ms k => setBar ms (start + k)) around

/-- The marks of all groups, and the numbers of the arguments inside of them. -/
def marksOf (numbers : List Nat) : List Exclusive → Marks → List Nat →
    Except ParserError (Marks × List Nat)
  | [], marks, inside => .ok (marks, inside)
  | g :: rest, marks, inside =>
    match g.members with
    | [] => .error .emptyExclusive
    | first :: _ =>
      match numbers.idxOf? first with
      | none => marksOf numbers rest marks inside
      | some start =>
        if (numbers.drop start).take g.members.length = g.members then
          marksOf numbers rest (groupMarks g start marks) (g.members ++ inside)
        else marksOf numbers rest marks inside

/-- Is the character an opening bracket? -/
def isOpening (c : Char) : Bool :=
  c == '[' || c == '('

/-- Is the character a closing bracket? -/
def isClosing (c : Char) : Bool :=
  c == ']' || c == ')'

/-- Leave out a space behind each opening bracket. -/
def tightenLeft : List Char → List Char
  | [] => []
  | c :: ' ' :: rest => if isOpening c then c :: tightenLeft rest else c :: tightenLeft (' ' :: rest)
  | c :: rest => c :: tightenLeft rest
termination_by cs => cs.length

/-- Leave out a space before each closing bracket. -/
def tightenRight : List Char → List Char
  | [] => []
  | ' ' :: c :: rest => if isClosing c then c :: tightenRight rest else ' ' :: tightenRight (c :: rest)
  | c :: rest => c :: tightenRight rest
termination_by cs => cs.length

/-- Leave out pairs of brackets with only spaces between them. -/
def dropEmpty : List Char → List Char
  | [] => []
  | c :: rest =>
    match rest.dropWhile (· == ' ') with
    | d :: more =>
      if _h : (isOpening c && isClosing d) = true ∧ more.length < rest.length then dropEmpty more
      else c :: dropEmpty rest
    | [] => c :: dropEmpty rest
termination_by cs => cs.length
decreasing_by
  all_goals simp only [List.length_cons]
  all_goals omega

/-- A text without superfluous spaces and brackets. -/
def tidy (s : String) : String :=
  Text.strip (String.ofList (dropEmpty (tightenRight (tightenLeft s.toList))))

/-- The parts with the marks before them. -/
def withMarks (marks : Marks) (place : Nat) : List String → List String
  | [] => (marks.lookup place).toList
  | p :: rest => (marks.lookup place).toList ++ p :: withMarks marks (place + 1) rest

/-- The parts of arguments in one line. -/
def partsText (args : List Numbered) (groups : List Exclusive) : Except ParserError String := do
  let (marks, inside) ← marksOf (args.map (·.1)) groups [] []
  let parts ← args.mapM fun (n, a) => partOf (inside.contains n) a
  return tidy (String.intercalate " " (withMarks marks 0 parts))

/-- How many characters a bracketed part has that begins here; it ends at a closing bracket before a
blank or the end. -/
def bracketedLength (close : Char) : List Char → Option Nat
  | [] => none
  | c :: rest =>
    if c = '\n' then none
    else if c = close && (rest.head?.all Text.isBlank) then some 1
    else (bracketedLength close rest).map (· + 1)

/-- The length of the part that begins at a character that is not blank. -/
def partLength : List Char → Nat
  | [] => 0
  | c :: rest =>
    let solid := 1 + (rest.takeWhile (!Text.isBlank ·)).length
    let close := if c = '(' then some ')' else if c = '[' then some ']' else none
    match close.bind (bracketedLength · rest) with
    | some n => n + 1
    | none => solid

/-- The parts between which a text may be broken. -/
def breakParts : Nat → List Char → List String
  | 0, _ => []
  | fuel + 1, cs =>
    match cs.dropWhile Text.isBlank with
    | [] => []
    | c :: rest =>
      let n := partLength (c :: rest)
      String.ofList ((c :: rest).take n) :: breakParts fuel ((c :: rest).drop n)

/-- The parts of a text that consists of parts with single spaces between them. -/
def parts (text : String) : Except ParserError (List String) :=
  let ps := breakParts (text.length + 1) text.toList
  if String.intercalate " " ps = text then .ok ps else .error .unbreakable

/-- The number of columns of a usage line. -/
def maxWidth : Nat := 78

/-- So many spaces. -/
def spaces (n : Nat) : String :=
  String.ofList (List.replicate n ' ')

/-- Fill lines with parts.  `line` holds the parts of the present line, latest first, and `used` its
width. -/
def fillLines (indent : Nat) (used : Int) (line : List String) : List String → List String
  | [] => if line.isEmpty then [] else [String.intercalate " " line.reverse]
  | p :: rest =>
    if used + 1 + p.length > maxWidth && !line.isEmpty then
      String.intercalate " " line.reverse ::
        fillLines indent ((indent : Int) - 1 + p.length + 1) [p] rest
    else fillLines indent (used + p.length + 1) (p :: line) rest

/-- Parts as lines with an indentation; `offset` is the width of what stands before the first line, if
it is not indented. -/
def lines (indent : Nat) (offset? : Option Nat) (ps : List String) : List String :=
  let used : Int := (offset?.getD indent : Nat)
  let ls := fillLines indent (used - 1) [] ps
  match offset?, ls with
  | some _, first :: rest => first :: rest.map (spaces indent ++ ·)
  | _, ls => ls.map (spaces indent ++ ·)

/-- The lines of a usage text that is too long for one line. -/
def wrapped (head prog : String) (options positionals : List String) : List String :=
  let width := head.length + prog.length
  if 4 * width ≤ 3 * maxWidth then
    let indent := width + 1
    if !options.isEmpty then
      lines indent (some head.length) (prog :: options) ++ lines indent none positionals
    else if !positionals.isEmpty then lines indent (some head.length) (prog :: positionals)
    else [prog]
  else
    let indent := head.length
    let together := lines indent none (options ++ positionals)
    prog :: if 1 < together.length then lines indent none options ++ lines indent none positionals
      else together

/-- The usage text behind the words `head`. -/
def text (head prog : String) (usage? : Option String) (args : List Numbered)
    (groups : List Exclusive) : Except ParserError String := do
  match usage? with
  | some usage => (Text.Template.fill [("prog", prog)] usage).mapError .badTemplate
  | none =>
    if args.isEmpty then return prog
    let options := args.filter (!·.2.names.isEmpty)
    let positionals := args.filter (·.2.names.isEmpty)
    let inner ← partsText (options ++ positionals) groups
    let usage := String.intercalate " " ([prog, inner].filter (· != ""))
    if head.length + usage.length ≤ maxWidth then return usage
    let os ← parts (← partsText options groups)
    let ps ← parts (← partsText positionals groups)
    return String.intercalate "\n" (wrapped head prog os ps)

end Usage

end CommandWrap.Parser
