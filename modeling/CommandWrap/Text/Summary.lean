import CommandWrap.Text.Blank

/-!
# Summaries

The summary of a text is its first sentence, or its first paragraph if that is shorter, with single
spaces between the words.  A summary that is too long ends with three points.
-/
namespace CommandWrap.Text

/-- The text up to the first empty line. -/
def firstParagraph : List Char → List Char
  | [] => []
  | '\n' :: '\n' :: _ => []
  | c :: rest => c :: firstParagraph rest

/-- What reading words for a summary gives. -/
inductive SummaryEnd
  /-- All words up to this number belong to the summary. -/
  | whole (count : Nat)
  /-- The word with this number is too much; so many characters were read with it. -/
  | cut (index length : Nat)
deriving DecidableEq, Repr

/-- How far the words fit into a width. -/
def summaryEnd (width : Nat) (index length : Nat) : List String → SummaryEnd
  | [] => .whole index
  | w :: rest =>
    let length := length + w.length + (if index = 0 then 0 else 1)
    if width < length then .cut index length
    else if w.endsWith "." then .whole (index + 1)
    else if length = width ∧ !rest.isEmpty then .cut index length
    else summaryEnd width (index + 1) length rest

/-- How many words are kept before three points: words are left out from the end until the rest
fits. -/
def keptWords (width : Nat) (words : Array String) : Nat → Nat → Nat
  | 0, _ => 0
  | i + 1, length =>
    let length := length - ((words[i + 1]?.getD "").length + 1)
    if length ≤ width then i + 1 else keptWords width words i length

/-- The summary of a text with at most `width` characters. -/
def summary (width : Nat) (s : String) : String :=
  let ws := (words (firstParagraph s.toList)).map String.ofList
  let ws := if ws.head? = some "\x08" then ws.tail else ws
  match summaryEnd width 0 0 ws with
  | .whole n => String.intercalate " " (ws.take n)
  | .cut i length =>
    String.intercalate " " (ws.take (keptWords width ws.toArray i (length + 3))) ++ "..."

end CommandWrap.Text
