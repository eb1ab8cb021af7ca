import CommandWrap.Invocation.Basic

/-!
# Invocations can be pasted into a shell

The text of an invocation is a line of words.  A shell that reads the line takes its quotes away again, so what it
reads are the program and its arguments (`read?_text`), whatever characters they hold.

A piece of a line is read in front of any rest: it puts its characters in front of the first word of the rest.  A
**plain** character does so outside of quotes (`move_plain`), hence plain characters in a row (`readFrom?_plain`).
Behind a single quote every character does so, the single quote itself by way of double quotes
(`readFrom?_escape`), hence all characters up to the closing quote (`readFrom?_escapes`).  So the shell reads a word
that was quoted as the word (`readFrom?_quoteWord`), and a line of such words as the words (`read?_join`).
-/
namespace CommandWrap

namespace ShellWords

/-! ## Steps -/

theorem extend_extend (front more : List Char) (words : List (List Char)) :
    extend front (extend more words) = extend (front ++ more) words := by
  cases words with
  | nil => rfl
  | cons word words => rw [extend, extend, extend, List.append_assoc]

theorem map_extend_extend (front more : List Char) (words? : Option (List (List Char))) :
    (words?.map (extend more)).map (extend front) = words?.map (extend (front ++ more)) := by
  rw [Option.map_map]
  exact congrArg (words?.map ·) (funext (extend_extend front more))

/-- A character with which a word begins or goes on. -/
theorem readFrom?_within {place next : Place} {c : Char} {chars : List Char}
    (hmove : move place c = some (.within next chars)) (rest : List Char) :
    readFrom? place (c :: rest) = (readFrom? next rest).map (extend chars) := by
  cases place <;> simp [readFrom?, hmove]

/-- A space behind a word ends it. -/
theorem readFrom?_space (rest : List Char) :
    readFrom? .bare (' ' :: rest) = (readFrom? .gap rest).map ([] :: ·) := rfl

/-! ## Words without quotes -/

/-- The characters that a shell does not take for themselves outside of quotes. -/
def meaningful : List Char :=
  [' ', '\t', '\\', '\'', '"', '|', '&', ';', '<', '>', '(', ')', '$', '`', '\n', '*', '?', '[', '#', '~']

/-- A character that is not meaningful belongs to a word. -/
theorem move_of_not_meaningful {c : Char} (h : c ∉ meaningful) {place : Place}
    (hplace : place = .gap ∨ place = .bare) : move place c = some (.within .bare [c]) := by
  simp only [meaningful, List.mem_cons, List.not_mem_nil, or_false, not_or] at h
  rcases hplace with rfl | rfl <;> simp [move, moveBare, isSeparator, isSpecial, isSpecialInFront, h]

/-- **A plain character** stands for itself outside of quotes. -/
theorem move_plain {c : Char} (hplain : isPlain c = true) {place : Place} (hplace : place = .gap ∨ place = .bare) :
    move place c = some (.within .bare [c]) := by
  have hmeaningful : meaningful.all (!isPlain ·) = true := by decide
  refine move_of_not_meaningful (fun hmem => ?_) hplace
  have hspecial := List.all_eq_true.mp hmeaningful c hmem
  rw [hplain] at hspecial
  cases hspecial

/-- Plain characters in a row are read as they are. -/
theorem readFrom?_plain {word : List Char} (hne : word ≠ []) (hplain : ∀ c ∈ word, isPlain c = true) {place : Place}
    (hplace : place = .gap ∨ place = .bare) (rest : List Char) :
    readFrom? place (word ++ rest) = (readFrom? .bare rest).map (extend word) := by
  induction word generalizing place with
  | nil => exact absurd rfl hne
  | cons c word ih =>
    rw [List.forall_mem_cons] at hplain
    rw [List.cons_append, readFrom?_within (move_plain hplain.1 hplace)]
    cases word with
    | nil => rfl
    | cons d word =>
      rw [ih (List.cons_ne_nil _ _) hplain.2 (.inr rfl), map_extend_extend]
      rfl

/-! ## Words between quotes -/

/-- **A character between single quotes** is read as itself. -/
theorem readFrom?_escape (c : Char) (rest : List Char) :
    readFrom? .single (escape c ++ rest) = (readFrom? .single rest).map (extend [c]) := by
  rw [escape]
  split
  · rename_i hquote
    subst hquote
    -- the quote ends the quoted text, stands between double quotes, and begins quoted text again
    have hleave : move .single '\'' = some (.within .bare []) := rfl
    have hdouble : move .bare '"' = some (.within .double []) := rfl
    have hself : move .double '\'' = some (.within .double ['\'']) := rfl
    have hclose : move .double '"' = some (.within .bare []) := rfl
    have henter : move .bare '\'' = some (.within .single []) := rfl
    simp only [List.cons_append, List.nil_append]
    rw [readFrom?_within hleave, readFrom?_within hdouble, readFrom?_within hself, readFrom?_within hclose,
      readFrom?_within henter]
    simp only [map_extend_extend, List.nil_append, List.append_nil]
  · rename_i hquote
    have hself : move .single c = some (.within .single [c]) := if_neg hquote
    exact readFrom?_within hself rest

/-- Characters up to the closing quote are read as they are. -/
theorem readFrom?_escapes (word rest : List Char) :
    readFrom? .single (word.flatMap escape ++ '\'' :: rest) = (readFrom? .bare rest).map (extend word) := by
  induction word with
  | nil => exact readFrom?_within rfl rest
  | cons c word ih =>
    rw [List.flatMap_cons, List.append_assoc, readFrom?_escape, ih, map_extend_extend]
    rfl

/-! ## Lines -/

/-- **A quoted word is read as the word.** -/
theorem readFrom?_quoteWord (word rest : List Char) :
    readFrom? .gap (quoteWord word ++ rest) = (readFrom? .bare rest).map (extend word) := by
  have hquoted : readFrom? .gap ('\'' :: word.flatMap escape ++ ['\''] ++ rest) =
      (readFrom? .bare rest).map (extend word) := by
    have henter : move .gap '\'' = some (.within .single []) := rfl
    rw [List.append_assoc, List.cons_append, readFrom?_within henter, List.singleton_append, readFrom?_escapes,
      map_extend_extend, List.nil_append]
  rw [quoteWord]
  split
  · rename_i hempty
    obtain rfl : word = [] := List.isEmpty_iff.mp hempty
    exact hquoted
  split
  · rename_i hne hplain
    rw [List.isEmpty_iff] at hne
    rw [List.all_eq_true] at hplain
    exact readFrom?_plain hne hplain (.inl rfl) rest
  · exact hquoted

/-- A line of quoted words is read word by word. -/
theorem readFrom?_join (words : List String) :
    readFrom? .gap (join words).toList = some (words.map String.toList) := by
  induction words with
  | nil => rfl
  | cons word words ih =>
    cases words with
    | nil =>
      have hjoin : (join [word]).toList = quoteWord word.toList ++ [] := by
        simp [join]
      rw [hjoin, readFrom?_quoteWord]
      simp [readFrom?, extend]
    | cons second words =>
      have hjoin : (join (word :: second :: words)).toList =
          quoteWord word.toList ++ ' ' :: (join (second :: words)).toList := by
        rw [join, List.map_cons, List.map_cons, String.intercalate_cons_cons]
        simp [join]
      rw [hjoin, readFrom?_quoteWord, readFrom?_space, ih]
      simp [extend]

/-- **A line of quoted words is read as the words.** -/
theorem read?_join (words : List String) : read? (join words) = some words := by
  rw [read?, readFrom?_join, Option.map_some, List.map_map]
  simp [Function.comp_def]

end ShellWords

/-- **Invocations can be pasted into a shell**: it reads the text of an invocation as the program and its arguments. -/
theorem Invocation.read?_text (c : Invocation) : ShellWords.read? c.text = some c.argv :=
  ShellWords.read?_join c.argv

example : ShellWords.read? "echo 'it'\"'\"'s' '' \\$HOME" = some ["echo", "it's", "", "$HOME"] := by decide

end CommandWrap
