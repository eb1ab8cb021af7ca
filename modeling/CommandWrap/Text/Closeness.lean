/-!
# Close words

Two words are close when much of them agrees: their longest common block, and recursively what stands
before and behind it.  The agreement is measured by the number of characters in such blocks against the
length of both words.
-/
namespace CommandWrap.Text

/-- The length of the common beginning of two words. -/
def commonStart : List Char → List Char → Nat
  | c :: cs, d :: ds => if c = d then commonStart cs ds + 1 else 0
  | _, _ => 0

/-- A block that two words have in common. -/
structure Block where
  /-- Where it begins in the first word. -/
  first : Nat
  /-- Where it begins in the second word. -/
  second : Nat
  /-- Its length. -/
  length : Nat
deriving DecidableEq, Repr

/-- The longest common block; of several, the one that begins first in the first word, then in the
second. -/
def longestBlock (a b : List Char) : Block :=
  (List.range a.length).foldl (fun best i =>
    (List.range b.length).foldl (fun best j =>
      let n := commonStart (a.drop i) (b.drop j)
      if best.length < n then ⟨i, j, n⟩ else best) best) ⟨0, 0, 0⟩

/-- The number of characters in common blocks. -/
def agreement (fuel : Nat) (a b : List Char) : Nat :=
  match fuel with
  | 0 => 0
  | fuel + 1 =>
    let block := longestBlock a b
    if block.length = 0 then 0
    else block.length + agreement fuel (a.take block.first) (b.take block.second) +
      agreement fuel (a.drop (block.first + block.length)) (b.drop (block.second + block.length))

/-- How many characters of two words agree. -/
def agreeing (a b : String) : Nat :=
  agreement (a.length + 1) a.toList b.toList

/-- Is at least three fifths of both words common to them? -/
def isClose (a b : String) : Bool :=
  3 * (a.length + b.length) ≤ 10 * agreeing a b

/-- Is the first word at least as close to `word` as the second?  Of equally close words, the later one
in the order of texts comes first. -/
def isCloser (word a b : String) : Bool :=
  let left := agreeing a word * (b.length + word.length)
  let right := agreeing b word * (a.length + word.length)
  right < left || (left == right && b ≤ a)

/-- At most three candidates that are close to a word, in the order of texts. -/
def closeWords (word : String) (candidates : List String) : List String :=
  (((candidates.filter (isClose · word)).mergeSort (isCloser word)).take 3).mergeSort (· ≤ ·)

/-- The question whether one of the words was meant. -/
def suggestion : List String → String
  | [] => ""
  | [w] => " Did you mean '" ++ w ++ "'?"
  | ws => " (Did you mean one of: " ++ String.intercalate ", " (ws.map fun w => "'" ++ w ++ "'") ++ "?)"

end CommandWrap.Text
