/-!
# Lines of a text

A text is cut into lines at every line boundary of Unicode and at the separators of the control
characters; a carriage return with its line feed is one boundary, and a boundary at the end starts no
further line.
-/
namespace CommandWrap.Text

/-- Does the character end a line? -/
def isLineBoundary (c : Char) : Bool :=
  let n := c.toNat
  (10 ≤ n && n ≤ 13) || (28 ≤ n && n ≤ 30) || n == 0x85 || n == 0x2028 || n == 0x2029

/-- Put a character in front of the first line. -/
def extendLine (c : Char) : List (List Char) → List (List Char)
  | [] => [[c]]
  | l :: ls => (c :: l) :: ls

/-- The lines of a text without their boundaries. -/
def lines : List Char → List (List Char)
  | [] => []
  | '\r' :: '\n' :: rest => [] :: lines rest
  | c :: rest =>
    if isLineBoundary c then [] :: lines rest
    else extendLine c (lines rest)

/-- No line holds a boundary. -/
theorem not_isLineBoundary_of_mem_lines (cs : List Char) :
    ∀ l ∈ lines cs, ∀ c ∈ l, isLineBoundary c = false := by
  fun_induction lines cs with
  | case1 => simp
  | case2 rest ih => simpa using ih
  | case3 c rest hcr h ih => simpa using ih
  | case4 c rest hcr h ih =>
    cases hls : lines rest with
    | nil => simpa [extendLine] using h
    | cons l ls =>
      intro m hm
      rcases List.mem_cons.mp hm with rfl | hm
      · intro x hx
        rcases List.mem_cons.mp hx with rfl | hx
        · simpa using h
        · exact ih l (by simp [hls]) x hx
      · exact ih m (by simp [hls, hm])

end CommandWrap.Text
