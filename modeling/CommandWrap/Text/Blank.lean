/-!
# Blanks and words

Blank characters separate words.  `words` gives the maximal runs of other characters, `collapse` puts
single spaces between them, and `strip` takes the blanks off both ends of a text.
-/
namespace CommandWrap.Text

/-- Space separators of every script, the control characters that separate text, and the line
separators. -/
def isBlank (c : Char) : Bool :=
  let n := c.toNat
  (9 ≤ n && n ≤ 13) || (28 ≤ n && n ≤ 32) || n == 0x85 || n == 0xA0 || n == 0x1680 ||
    (0x2000 ≤ n && n ≤ 0x200A) || n == 0x2028 || n == 0x2029 || n == 0x202F || n == 0x205F ||
    n == 0x3000

/-- Put a character in front of the first word. -/
def extendFirst (c : Char) : List (List Char) → List (List Char)
  | [] => [[c]]
  | w :: ws => (c :: w) :: ws

/-- The maximal runs of characters that are not blank, in order. -/
def words : List Char → List (List Char)
  | [] => []
  | c :: rest =>
    if isBlank c then words rest
    else match rest with
      | [] => [[c]]
      | d :: _ =>
        if isBlank d then [c] :: words rest else extendFirst c (words rest)

/-- The words of a text with one space between neighbours. -/
def collapse (s : String) : String :=
  String.intercalate " " ((words s.toList).map String.ofList)

/-- The characters from the first that is not blank. -/
def stripLeft (cs : List Char) : List Char :=
  cs.dropWhile isBlank

/-- The characters up to the last that is not blank. -/
def stripRight (cs : List Char) : List Char :=
  (cs.reverse.dropWhile isBlank).reverse

/-- The text without the blanks at its ends. -/
def strip (s : String) : String :=
  String.ofList (stripRight (stripLeft s.toList))

/-- Every word is non-empty and free of blanks. -/
theorem words_spec (cs : List Char) :
    ∀ w ∈ words cs, w ≠ [] ∧ ∀ c ∈ w, isBlank c = false := by
  fun_induction words cs with
  | case1 => simp
  | case2 c rest hc ih => exact ih
  | case3 c hc => simpa using hc
  | case4 c hc d rest hd ih =>
    intro w hw
    rcases List.mem_cons.mp hw with rfl | hw
    · simpa using hc
    · exact ih w hw
  | case5 c hc d rest hd ih =>
    cases hws : words (d :: rest) with
    | nil => simpa [extendFirst] using hc
    | cons w ws =>
      intro v hv
      rcases List.mem_cons.mp hv with rfl | hv
      · refine ⟨by simp, fun x hx => ?_⟩
        rcases List.mem_cons.mp hx with rfl | hx
        · simpa using hc
        · exact (ih w (by simp [hws])).2 x hx
      · exact ih v (by simp [hws, hv])

end CommandWrap.Text
