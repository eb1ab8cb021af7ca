import CommandWrap.Proofs.ModuleLines

/-!
# The docstring of a module

The docstring stands between runs of three quotes, and in it backslashes are doubled and runs of three quotes are
escaped from the left.  What is left of a longer run are one or two quotes, which the reader takes for part of the text
if something else follows them.  At the end of the text the closing quotes follow: the reader then closes the docstring
with the first three quotes it meets, and as many quotes as were left of the run stay behind (`textAhead?_encode`).

So a docstring is read as the text that was asked for exactly if the quotes at the end of that text come by threes
(`docstring_read_iff`).
-/
namespace CommandWrap

/-! ## Quotes at the end of a text -/

namespace Text.TripleQuoted

/-- The number of double quotes at the end of characters. -/
def quotesAtEnd (cs : List Char) : Nat :=
  (cs.reverse.takeWhile (· == '"')).length

/-- How many of the quotes at the end are left when the runs of three are escaped. -/
def strayQuotes (cs : List Char) : Nat :=
  quotesAtEnd cs % 3

/-- **No quote is left at the end**: the pieces in which a text is escaped, where one or two quotes always have
another character behind them. -/
inductive Closed : List Char → Prop
  /-- Nothing. -/
  | nil : Closed []
  /-- A run of three quotes. -/
  | three {cs : List Char} (h : Closed cs) : Closed ('"' :: '"' :: '"' :: cs)
  /-- Any other character. -/
  | char {c : Char} {cs : List Char} (hc : c ≠ '"') (h : Closed cs) : Closed (c :: cs)
  /-- One quote. -/
  | one {c : Char} {cs : List Char} (hc : c ≠ '"') (h : Closed (c :: cs)) : Closed ('"' :: c :: cs)
  /-- Two quotes. -/
  | two {c : Char} {cs : List Char} (hc : c ≠ '"') (h : Closed (c :: cs)) : Closed ('"' :: '"' :: c :: cs)

theorem escape_slash (cs : List Char) : escape ('\\' :: cs) = '\\' :: '\\' :: escape cs := by
  rw [escape]

theorem escape_plain {c : Char} (hquote : c ≠ '"') (hslash : c ≠ '\\') (cs : List Char) :
    escape (c :: cs) = c :: escape cs := by
  rw [escape]
  · exact fun _ h _ => hquote h
  · exact fun h => hslash h

theorem escape_one {c : Char} (hc : c ≠ '"') (cs : List Char) :
    escape ('"' :: c :: cs) = '"' :: escape (c :: cs) := by
  rw [escape]
  · intro _ _ h
    exact hc (List.cons.inj h).1
  · decide

theorem escape_two {c : Char} (hc : c ≠ '"') (cs : List Char) :
    escape ('"' :: '"' :: c :: cs) = '"' :: '"' :: escape (c :: cs) := by
  rw [escape, escape_one hc]
  · intro _ _ h
    exact hc (List.cons.inj (List.cons.inj h).2).1
  · decide

/-- What is escaped begins with no quote if the text does not. -/
theorem escape_head {c : Char} (hc : c ≠ '"') (cs : List Char) :
    ∃ d ds, escape (c :: cs) = d :: ds ∧ d ≠ '"' ∧ (d = c ∨ d = '\\') := by
  by_cases hslash : c = '\\'
  · subst hslash
    exact ⟨_, _, escape_slash cs, by decide, .inr rfl⟩
  · exact ⟨_, _, escape_plain hc hslash cs, hc, .inl rfl⟩

/-- Only backslashes are new in an escaped text. -/
theorem mem_escape {c : Char} {cs : List Char} (h : c ∈ escape cs) : c ∈ cs ∨ c = '\\' ∨ c = '"' := by
  fun_induction escape cs with
  | case1 => cases h
  | case2 rest ih =>
    simp only [List.mem_cons] at h ⊢
    tauto
  | case3 rest ih =>
    simp only [List.mem_cons] at h ⊢
    tauto
  | case4 d rest _ _ ih =>
    simp only [List.mem_cons] at h ⊢
    tauto

/-- **A text is a closed one and at most two quotes.** -/
theorem exists_closed (cs : List Char) :
    ∃ body r, cs = body ++ List.replicate r '"' ∧ Closed body ∧ r < 3 := by
  fun_induction escape cs with
  | case1 => exact ⟨[], 0, rfl, .nil, by decide⟩
  | case2 cs ih =>
    obtain ⟨body, r, rfl, hclosed, hr⟩ := ih
    exact ⟨_, r, rfl, .three hclosed, hr⟩
  | case3 cs ih =>
    obtain ⟨body, r, rfl, hclosed, hr⟩ := ih
    exact ⟨_, r, rfl, .char (by decide) hclosed, hr⟩
  | case4 c cs hthree hslash ih =>
    obtain ⟨body, r, rfl, hclosed, hr⟩ := ih
    by_cases hc : c = '"'
    · -- a quote that begins no run of three: one or two of them stand before another character or the end
      subst hc
      cases hclosed with
      | nil =>
        have hlast : r < 2 := by
          by_contra hmany
          obtain rfl : r = 2 := by omega
          exact hthree [] rfl rfl
        exact ⟨[], r + 1, rfl, .nil, by omega⟩
      | three => exact (hthree _ rfl rfl).elim
      | char hd h => exact ⟨_, r, rfl, .one hd (.char hd h), hr⟩
      | one hd h => exact ⟨_, r, rfl, .two hd h, hr⟩
      | two => exact (hthree _ rfl rfl).elim
    · exact ⟨_, r, rfl, .char hc hclosed, hr⟩

/-- Only a run of three is escaped, so quotes at the end stay as they are behind a closed text. -/
theorem Closed.escape_append {body : List Char} (h : Closed body) {r : Nat} (hr : r < 3) :
    escape (body ++ List.replicate r '"') = escape body ++ List.replicate r '"' := by
  induction h with
  | nil =>
    obtain rfl | rfl | rfl : r = 0 ∨ r = 1 ∨ r = 2 := by omega
    all_goals rfl
  | three h ih => simp only [List.cons_append, escape, ih]
  | @char c cs hc h ih =>
    by_cases hslash : c = '\\'
    · subst hslash
      rw [List.cons_append, escape_slash, escape_slash, ih, List.cons_append, List.cons_append]
    · rw [List.cons_append, escape_plain hc hslash, escape_plain hc hslash, ih, List.cons_append]
  | @one c cs hc h ih =>
    rw [List.cons_append] at ih
    rw [List.cons_append, List.cons_append, escape_one hc, escape_one hc, ih, List.cons_append]
  | @two c cs hc h ih =>
    rw [List.cons_append] at ih
    rw [List.cons_append, List.cons_append, List.cons_append, escape_two hc, escape_two hc, ih, List.cons_append,
      List.cons_append]

/-- Quotes do not count in front of another character. -/
theorem quotesAtEnd_append {c : Char} {cs : List Char} (hmem : c ∈ cs) (hc : c ≠ '"') (before : List Char) :
    quotesAtEnd (before ++ cs) = quotesAtEnd cs := by
  have hstop : ¬ (cs.reverse.takeWhile (· == '"')).length = cs.reverse.length := by
    intro hall
    have hself := (List.takeWhile_sublist (· == '"')).eq_of_length hall
    have hquote := List.all_eq_true.mp (List.all_takeWhile (p := (· == '"')) (l := cs.reverse))
    rw [hself] at hquote
    exact hc (eq_of_beq (hquote c (List.mem_reverse.mpr hmem)))
  rw [quotesAtEnd, List.reverse_append, List.takeWhile_append, if_neg hstop, quotesAtEnd]

theorem quotesAtEnd_replicate (cs : List Char) (r : Nat) :
    quotesAtEnd (cs ++ List.replicate r '"') = quotesAtEnd cs + r := by
  rw [quotesAtEnd, List.reverse_append, List.reverse_replicate, List.takeWhile_append_of_pos, List.length_append,
    List.length_replicate, quotesAtEnd, Nat.add_comm]
  intro c hc
  rw [List.eq_of_mem_replicate hc]
  rfl

theorem strayQuotes_append {as bs : List Char} (has : strayQuotes as = 0) (hbs : strayQuotes bs = 0) :
    strayQuotes (as ++ bs) = 0 := by
  by_cases hall : ∃ c ∈ bs, c ≠ '"'
  · obtain ⟨c, hmem, hc⟩ := hall
    rwa [strayQuotes, quotesAtEnd_append hmem hc, ← strayQuotes]
  · obtain ⟨n, rfl⟩ : ∃ n, bs = List.replicate n '"' := by
      refine ⟨bs.length, List.eq_replicate_of_mem fun c hmem => ?_⟩
      by_contra hc
      exact hall ⟨c, hmem, hc⟩
    have hcount := quotesAtEnd_replicate [] n
    rw [List.nil_append] at hcount
    have hempty : quotesAtEnd [] = 0 := rfl
    rw [strayQuotes] at has hbs ⊢
    rw [quotesAtEnd_replicate]
    omega

theorem Closed.strayQuotes_eq {body : List Char} (h : Closed body) : strayQuotes body = 0 := by
  induction h with
  | nil => rfl
  | three h ih =>
    have hthree : strayQuotes ['"', '"', '"'] = 0 := rfl
    exact strayQuotes_append hthree ih
  | @char c cs hc h ih =>
    have halone : strayQuotes [c] = 0 := by simp [strayQuotes, quotesAtEnd, hc]
    exact strayQuotes_append halone ih
  | @one c cs hc h ih =>
    have hsame := quotesAtEnd_append (List.mem_cons_self (a := c) (l := cs)) hc ['"']
    rwa [strayQuotes, ← hsame] at ih
  | @two c cs hc h ih =>
    have hsame := quotesAtEnd_append (List.mem_cons_self (a := c) (l := cs)) hc ['"', '"']
    rwa [strayQuotes, ← hsame] at ih

end Text.TripleQuoted

/-! ## The first text of a module -/

namespace Source

open Text (TripleQuoted.Closed TripleQuoted.encode TripleQuoted.escape TripleQuoted.escape_head TripleQuoted.escape_one
  TripleQuoted.escape_plain TripleQuoted.escape_slash TripleQuoted.escape_two)

/-- **The text that stands first**: its code points, and the characters behind its closing quotes.  The reader goes on
until it has read a text. -/
def textAhead? (s : State) (cs : List Char) : Option (List Nat × List Char) :=
  match s.tokens, cs with
  | .text codes :: _, cs => some (codes, cs)
  | _, [] => none
  | _, c :: rest => textAhead? (s.step c) rest

/-- The state inside a docstring at the beginning of a module. -/
def inDoc (codes : List Nat) : State :=
  State.onLine (.text true codes) 0 [] 0 []

/-- A character other than a quote or a backslash stands for itself, also at the end of a line. -/
theorem step_inDoc {c : Char} (hc : Legible c) (hquote : c ≠ '"') (hslash : c ≠ '\\') (codes : List Nat) :
    (inDoc codes).step c = inDoc (c.toNat :: codes) := by
  rw [State.step_eq hc rfl, State.feed, if_neg hc.1]
  simp [inDoc, State.onLine, State.inText, hquote, hslash]

/-- Quotes that another character follows are part of the text. -/
theorem step_closing {c : Char} (hc : Legible c) (hquote : c ≠ '"') (quotes : Nat) (codes : List Nat) :
    (State.onLine (.closing quotes codes) 0 [] 0 []).step c = (inDoc (List.replicate quotes 34 ++ codes)).step c := by
  rw [State.step_eq hc rfl, State.step_eq hc rfl, State.feed, State.feed, if_neg hc.1, if_neg hc.1]
  simp only [State.onLine, inDoc, hquote, if_false]
  rfl

theorem textAhead?_closing {c : Char} (hc : Legible c) (hquote : c ≠ '"') (quotes : Nat) (codes : List Nat)
    (cs rest : List Char) :
    textAhead? (State.onLine (.closing quotes codes) 0 [] 0 []) (TripleQuoted.escape (c :: cs) ++ rest) =
      textAhead? (inDoc (List.replicate quotes 34 ++ codes)) (TripleQuoted.escape (c :: cs) ++ rest) := by
  obtain ⟨d, ds, hescape, hd, heq⟩ := TripleQuoted.escape_head hquote cs
  have hlegible : Legible d := by
    rcases heq with rfl | rfl
    · exact hc
    · decide
  rw [hescape, List.cons_append]
  exact congrArg (textAhead? · (ds ++ rest)) (step_closing hlegible hd quotes codes)

/-- **A closed text** is read piece by piece as it is escaped. -/
theorem textAhead?_closed {cs : List Char} (h : TripleQuoted.Closed cs) (hcs : ∀ c ∈ cs, Legible c)
    (codes : List Nat) (rest : List Char) :
    textAhead? (inDoc codes) (TripleQuoted.escape cs ++ rest) =
      textAhead? (inDoc ((cs.map Char.toNat).reverse ++ codes)) rest := by
  -- one or two quotes are held back until the character behind them is read: it makes them part of the text
  induction h generalizing codes with
  | nil => rfl
  | @three cs h ih =>
    simp only [List.forall_mem_cons] at hcs
    have hread : textAhead? (inDoc codes) (TripleQuoted.escape ('"' :: '"' :: '"' :: cs) ++ rest) =
        textAhead? (inDoc (34 :: 34 :: 34 :: codes)) (TripleQuoted.escape cs ++ rest) := by
      rw [TripleQuoted.escape]
      rfl
    rw [hread, ih hcs.2.2.2]
    simp
  | @char c cs hc h ih =>
    rw [List.forall_mem_cons] at hcs
    have hread : textAhead? (inDoc codes) (TripleQuoted.escape (c :: cs) ++ rest) =
        textAhead? (inDoc (c.toNat :: codes)) (TripleQuoted.escape cs ++ rest) := by
      by_cases hslash : c = '\\'
      · subst hslash
        rw [TripleQuoted.escape_slash]
        rfl
      · rw [TripleQuoted.escape_plain hc hslash, ← step_inDoc hcs.1 hc hslash]
        rfl
    rw [hread, ih hcs.2]
    simp
  | @one c cs hc h ih =>
    simp only [List.forall_mem_cons] at hcs
    have hread : textAhead? (inDoc codes) (TripleQuoted.escape ('"' :: c :: cs) ++ rest) =
        textAhead? (State.onLine (.closing 1 codes) 0 [] 0 []) (TripleQuoted.escape (c :: cs) ++ rest) := by
      rw [TripleQuoted.escape_one hc]
      rfl
    rw [hread, textAhead?_closing hcs.2.1 hc, ih (List.forall_mem_cons.mpr hcs.2)]
    simp
  | @two c cs hc h ih =>
    simp only [List.forall_mem_cons] at hcs
    have hread : textAhead? (inDoc codes) (TripleQuoted.escape ('"' :: '"' :: c :: cs) ++ rest) =
        textAhead? (State.onLine (.closing 2 codes) 0 [] 0 []) (TripleQuoted.escape (c :: cs) ++ rest) := by
      rw [TripleQuoted.escape_two hc]
      rfl
    rw [hread, textAhead?_closing hcs.2.2.1 hc, ih (List.forall_mem_cons.mpr hcs.2.2)]
    simp

/-- **What is read of a text in three quotes**: the text without the quotes that are left at its end, which stay behind
the closing ones. -/
theorem textAhead?_encode {cs : List Char} (hcs : ∀ c ∈ cs, Legible c) (behind : List Char) :
    textAhead? (State.atStart []) (TripleQuoted.encode cs ++ behind) =
      some ((cs.take (cs.length - Text.TripleQuoted.strayQuotes cs)).map Char.toNat,
        List.replicate (Text.TripleQuoted.strayQuotes cs) '"' ++ behind) := by
  obtain ⟨body, r, rfl, hclosed, hr⟩ := Text.TripleQuoted.exists_closed cs
  have hstray : Text.TripleQuoted.strayQuotes (body ++ List.replicate r '"') = r := by
    have hbody := hclosed.strayQuotes_eq
    rw [Text.TripleQuoted.strayQuotes] at hbody ⊢
    rw [Text.TripleQuoted.quotesAtEnd_replicate]
    omega
  have hopen (rest : List Char) : textAhead? (State.atStart []) (Text.TripleQuoted.delimiter ++ rest) =
      textAhead? (inDoc []) rest := rfl
  have hclose (codes : List Nat) (rest : List Char) :
      textAhead? (inDoc codes) (Text.TripleQuoted.delimiter ++ rest) = some (codes.reverse, rest) := by
    cases rest <;> rfl
  -- the reader closes the text with the first three of the quotes that it meets
  have hfirst : List.replicate r '"' ++ (Text.TripleQuoted.delimiter ++ behind) =
      Text.TripleQuoted.delimiter ++ (List.replicate r '"' ++ behind) := by
    have hdelimiter : Text.TripleQuoted.delimiter = List.replicate 3 '"' := rfl
    rw [← List.append_assoc, ← List.append_assoc, hdelimiter, List.replicate_append_replicate,
      List.replicate_append_replicate, Nat.add_comm]
  rw [List.forall_mem_append] at hcs
  rw [hstray, TripleQuoted.encode, hclosed.escape_append hr, List.append_assoc, List.append_assoc, List.append_assoc,
    hopen, textAhead?_closed hclosed hcs.1, hfirst, hclose, List.append_nil, List.reverse_reverse,
    List.length_append, List.length_replicate, Nat.add_sub_cancel, List.take_left]

end Source

namespace ModuleText

open Source (Legible State codesOf textAhead?)
open Text.TripleQuoted (quotesAtEnd strayQuotes)

variable {runtime doc : String} {first : CommandPlan} {rest : List CommandPlan}

/-- A module begins with its docstring, behind which the line ends. -/
theorem exists_behind (hdoc : doc ≠ "") : ∃ text behind, render runtime (some doc) (first :: rest) = .ok text ∧
    text.toList = Text.TripleQuoted.encode doc.toList ++ '\n' :: behind := by
  have htext : docText (some doc) first.program = doc := by simp [docText, hdoc]
  obtain ⟨lines, hlines⟩ : ∃ lines, moduleLines runtime (some doc) first rest = Text.tripleQuoted doc :: lines := by
    rw [moduleLines, htext]
    exact ⟨_, rfl⟩
  refine ⟨_, lines.flatMap fun t => t.toList ++ ['\n'], rfl, ?_⟩
  rw [hlines, toList_joinLines (List.cons_ne_nil _ _), List.flatMap_cons, Text.tripleQuoted, String.toList_ofList,
    List.append_assoc, List.singleton_append]

/-- **The docstring that is read of a module** is the text that was asked for, without the quotes that are left at its
end when runs of three are escaped: those stay behind the closing quotes.  So it ends with its closing quotes and is the
text that was asked for exactly if the quotes at the end of that text come by threes. -/
theorem docstring_read_iff (hdoc : doc ≠ "") (hlegible : ∀ c ∈ doc.toList, Legible c) :
    ∃ text behind, render runtime (some doc) (first :: rest) = .ok text ∧
      text.toList = Text.TripleQuoted.encode doc.toList ++ '\n' :: behind ∧
      textAhead? (State.atStart []) text.toList =
        some (codesOf (String.ofList (doc.toList.take (doc.toList.length - strayQuotes doc.toList))),
          List.replicate (strayQuotes doc.toList) '"' ++ '\n' :: behind) ∧
      (textAhead? (State.atStart []) text.toList = some (codesOf doc, '\n' :: behind) ↔
        3 ∣ quotesAtEnd doc.toList) := by
  obtain ⟨text, behind, hrender, htext⟩ := @exists_behind runtime doc first rest hdoc
  have hread := Source.textAhead?_encode hlegible ('\n' :: behind)
  rw [← htext] at hread
  refine ⟨text, behind, hrender, htext, ?_, ?_⟩
  · rw [hread, codesOf, String.toList_ofList]
  · rw [hread, Option.some.injEq, Prod.mk.injEq, Nat.dvd_iff_mod_eq_zero, ← strayQuotes]
    constructor
    · -- a quote that is left stands behind the docstring, in front of the end of the line
      rintro ⟨-, hbehind⟩
      have hlength := congrArg List.length hbehind
      rw [List.length_append, List.length_replicate] at hlength
      omega
    · intro hnone
      rw [hnone, Nat.sub_zero, List.take_length]
      exact ⟨rfl, rfl⟩

/-- A quote at the end of the text stays behind the docstring. -/
theorem docstring_read_strayQuote : ∃ text behind,
    render defaultRuntime (some "say \"hi\"") [CommandGraph.planOfFlag "env"] = .ok text ∧
      textAhead? (State.atStart []) text.toList = some (codesOf "say \"hi", '"' :: '\n' :: behind) ∧
      ¬ textAhead? (State.atStart []) text.toList = some (codesOf "say \"hi\"", '\n' :: behind) := by
  obtain ⟨text, behind, hrender, -, hread, hiff⟩ := @docstring_read_iff defaultRuntime "say \"hi\""
    (CommandGraph.planOfFlag "env") [] (by decide) (by decide)
  have hstray : strayQuotes "say \"hi\"".toList = 1 := by decide
  rw [hstray] at hread
  refine ⟨text, behind, hrender, hread, fun h => ?_⟩
  exact absurd (hiff.mp h) (by decide)

end ModuleText

end CommandWrap
