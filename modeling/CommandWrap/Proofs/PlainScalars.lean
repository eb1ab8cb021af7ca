import CommandWrap.Proofs.WrittenScalars

/-!
# Texts without quotes are read back

A plain text ends at the first line that is not indented deeper than the map around it.  `PlainScan` says what
is read of it; like the text between quotes, it is built up from the back, by one part without spaces at a time.
The main lemma is `plainScan_foldRuns`.
-/
namespace CommandWrap.Yaml

/-! ## Columns -/

namespace Cursor

variable {cur : Cursor} {c : Char} {rest : List Char}

theorem column_le_advance (h : cur.rest = c :: rest) (hc : isBreak c = false) : cur.column ≤ cur.advance.column := by
  have hreturn : (c == '\r') = false := by
    rw [beq_eq_false_iff_ne]
    rintro rfl
    cases hc
  simp only [advance, h, hreturn, hc, Bool.false_eq_true, if_false]
  split_ifs
  · exact Nat.le_refl _
  · exact Nat.le_succ _

theorem column_le_advanceBy {cs : List Char} (h : cur.rest = cs ++ rest) (hcs : ∀ c ∈ cs, isBreak c = false) :
    cur.column ≤ (cur.advanceBy cs.length).column := by
  induction cs generalizing cur with
  | nil => exact Nat.le_refl _
  | cons c cs ih =>
    rw [List.forall_mem_cons] at hcs
    exact (column_le_advance h hcs.1).trans (ih (advance_rest h) hcs.2)

theorem column_advance (h : cur.rest = c :: rest) (hc : isBreak c = false) (hmark : c ≠ '\ufeff') :
    cur.advance.column = cur.column + 1 := by
  have hreturn : (c == '\r') = false := by
    rw [beq_eq_false_iff_ne]
    rintro rfl
    cases hc
  simp [advance, h, hreturn, hc, hmark]

theorem column_advanceBy {cs : List Char} (h : cur.rest = cs ++ rest)
    (hcs : ∀ c ∈ cs, isBreak c = false ∧ c ≠ '\ufeff') :
    (cur.advanceBy cs.length).column = cur.column + cs.length := by
  induction cs generalizing cur with
  | nil => rfl
  | cons c cs ih =>
    rw [List.forall_mem_cons] at hcs
    have hadvance := column_advance h hcs.1.1 hcs.1.2
    have hrest := ih (advance_rest h) hcs.2
    rw [List.length_cons, advanceBy, hrest, hadvance]
    omega

theorem column_spaces {n : Nat} (h : cur.rest = List.replicate n ' ' ++ rest) :
    (cur.advanceBy n).column = cur.column + n := by
  have hspaces : ∀ c ∈ List.replicate n ' ', isBreak c = false ∧ c ≠ '\ufeff' := by
    intro c hc
    rw [List.eq_of_mem_replicate hc]
    decide
  have hcolumn := column_advanceBy h hspaces
  rwa [List.length_replicate] at hcolumn

theorem column_lineFeed (h : cur.rest = '\n' :: rest) : cur.advance.column = 0 := by
  simp [advance, h, isBreak]

/-- A line feed and the indentation of the next line. -/
theorem column_newLine {k : Nat} (h : cur.rest = '\n' :: (List.replicate k ' ' ++ rest)) :
    (cur.advance.advanceBy k).column = k ∧ (cur.advance.advanceBy k).rest = rest := by
  have hbehind := advance_rest h
  refine ⟨?_, rest_advanceBy_replicate hbehind⟩
  rw [column_spaces hbehind, column_lineFeed h, Nat.zero_add]

end Cursor

/-! ## Lines -/

/-- What begins a token: nothing more, or neither a space nor a line break nor a comment. -/
structure IsToken (text : List Char) : Prop where
  noSpace : text.head? ≠ some ' '
  noBreak : isBreak (text.headD '\x00') = false
  noComment : text.head? ≠ some '#'

/-- What begins the next line: a token, but no document marker. -/
structure IsLine (text : List Char) : Prop extends IsToken text where
  noMarker : ∀ c : Cursor, c.rest = text → c.atSeparator = false

theorem atSeparator_indented {indent : Nat} (hindent : 0 < indent) {text : List Char} {c : Cursor}
    (hc : c.rest = List.replicate indent ' ' ++ text) : c.atSeparator = false := by
  obtain ⟨j, rfl⟩ := Nat.exists_eq_add_one.mpr hindent
  have hpeek : c.peek = ' ' := Cursor.peek_eq hc
  exact Cursor.atSeparator_eq_false (by rw [hpeek]; decide) (by rw [hpeek]; decide)

theorem IsLine.atSeparator {text : List Char} (h : IsLine text) {j : Nat} {c : Cursor}
    (hc : c.rest = List.replicate j ' ' ++ text) : c.atSeparator = false := by
  by_cases hj : 0 < j
  · exact atSeparator_indented hj hc
  · obtain rfl : j = 0 := by omega
    exact h.noMarker c hc

/-! ## Parts without spaces -/

theorem plainLength_eq {cs : List Char} (hcs : ∀ c ∈ cs, isGap c = false)
    (hinner : ScalarStyle.hasInnerIndicator cs = false) {tail : List Char} (htail : isGap (tail.headD '\x00') = true) :
    plainLength false (cs ++ tail) = cs.length := by
  induction cs with
  | nil =>
    cases tail with
    | nil => rfl
    | cons d tail =>
      have hd : isGap d = true := htail
      simp [plainLength, hd]
  | cons c cs ih =>
    rw [List.forall_mem_cons] at hcs
    simp only [ScalarStyle.hasInnerIndicator, Bool.or_eq_false_iff] at hinner
    obtain ⟨⟨hcolon, -⟩, hinner⟩ := hinner
    have hend : (c == ':' && isGap ((cs ++ tail).headD '\x00')) = false := by
      cases cs with
      | nil =>
        -- a colon at the end of the part would be an indicator
        have hspace : isGap ' ' = true := rfl
        simp only [List.headD_nil, hspace, Bool.and_true] at hcolon
        rw [hcolon, Bool.false_and]
      | cons d cs => exact hcolon
    rw [List.cons_append, plainLength]
    simp only [hcs.1, hend, Bool.false_and, Bool.or_false, Bool.false_eq_true, if_false]
    rw [ih hcs.2 hinner, List.length_cons, Nat.add_comm]

/-- A run of characters that a plain text goes on with. -/
structure IsPart (cs : List Char) : Prop where
  ne_nil : cs ≠ []
  noGap : ∀ c ∈ cs, isGap c = false
  noInner : ScalarStyle.hasInnerIndicator cs = false
  noComment : cs.head? ≠ some '#'

/-- **A plain text** in a map that is indented less than `least` is read as `out`; behind the end of its line the
next line goes on with `rest` at column `k`. -/
def PlainScan (least : Nat) (text out rest : List Char) (k : Nat) : Prop :=
  ∀ (space : List Char) (c : Cursor) (fuel : List Char) (broken : Bool), c.rest = text → least ≤ c.column →
    text.length < fuel.length →
    ∃ d, scanPlainFrom false least fuel space c broken = (space ++ out, d, true) ∧ d.rest = rest ∧ d.column = k

theorem IsPart.noBreak {cs : List Char} (h : IsPart cs) : ∀ c ∈ cs, isBreak c = false := by
  intro c hc
  have hgap := h.noGap c hc
  simp only [isGap, isBreakOrEnd, Bool.or_eq_false_iff] at hgap
  exact hgap.2.1

theorem peek_ne_comment {text : List Char} (h : text.head? ≠ some '#') {c : Cursor} (hc : c.rest = text) :
    c.peek ≠ '#' := by
  cases text with
  | nil =>
    rw [Cursor.peek, hc]
    decide
  | cons d text =>
    rw [Cursor.peek_eq hc]
    exact fun heq => h (heq ▸ rfl)

namespace PlainScan

variable {least : Nat} {cs text out rest : List Char} {k : Nat}

/-- What is done behind a part. -/
theorem scanPlainFrom_part (hpart : IsPart cs) {tail : List Char} (htail : isGap (tail.headD '\x00') = true)
    {c : Cursor} (hc : c.rest = cs ++ tail) (g : Char) (fuel space : List Char) (broken : Bool) :
    scanPlainFrom false least (g :: fuel) space c broken =
      let (next, d, broken) := plainSpace fuel (c.advanceBy cs.length)
      if next.isEmpty || d.peek == '#' || (d.column : Int) < least then (space ++ cs, d, broken)
      else
        let (text, e, broken) := scanPlainFrom false least fuel next d broken
        (space ++ cs ++ text, e, broken) := by
  obtain ⟨hne, hgap, hinner, hcomment⟩ := hpart
  obtain ⟨d, ds, rfl⟩ := List.exists_cons_of_ne_nil hne
  have hpeek : (c.peek == '#') = false := by
    rw [Cursor.peek_eq hc, beq_eq_false_iff_ne]
    exact fun heq => hcomment (heq ▸ rfl)
  have hlength := plainLength_eq hgap hinner htail
  have htake : ((d :: ds) ++ tail).take (d :: ds).length = d :: ds := List.take_left
  rw [scanPlainFrom, hpeek, hc, hlength]
  dsimp only
  rw [htake]
  simp

theorem plainSpace_spaces {n : Nat} {tail : List Char} (htail : isGap (tail.headD '\x00') = false)
    {c : Cursor} (hc : c.rest = List.replicate n ' ' ++ tail) (fuel : List Char) :
    plainSpace fuel c = (List.replicate n ' ', c.advanceBy n, false) := by
  have hspace : (tail.headD '\x00' == ' ') = false := by
    rw [beq_eq_false_iff_ne]
    intro heq
    rw [heq] at htail
    cases htail
  have hbreak : isBreak (c.advanceBy n).peek = false := by
    rw [Cursor.peek, Cursor.rest_advanceBy_replicate hc]
    simp only [isGap, isBreakOrEnd, Bool.or_eq_false_iff] at htail
    exact htail.2.1
  rw [plainSpace, Cursor.takeWhile_replicate rfl hc hspace]
  simp [hbreak]

theorem plainSpace_newLine {j : Nat} {tail : List Char} (hspace : tail.head? ≠ some ' ')
    (hbreak : isBreak (tail.headD '\x00') = false) {c : Cursor}
    (hc : c.rest = '\n' :: (List.replicate j ' ' ++ tail)) (hmarker : c.advance.atSeparator = false)
    {fuel : List Char} (hfuel : fuel ≠ []) :
    plainSpace fuel c = ([' '], c.advance.advanceBy j, true) := by
  have hpeek : c.peek = '\n' := Cursor.peek_eq hc
  have hbehind := Cursor.advance_rest hc
  have hline := Cursor.lineBreak_eq hc rfl
  have hstop : (tail.headD '\x00' == ' ') = false := by
    cases tail with
    | nil => rfl
    | cons d tail => simpa using hspace
  have hbreaks : plainBreaks fuel c.advance = (some [], c.advance.advanceBy j) := by
    obtain ⟨g, fuel, rfl⟩ := List.exists_cons_of_ne_nil hfuel
    have hend : isBreak (c.advance.advanceBy j).peek = false := by
      rw [Cursor.peek, Cursor.rest_advanceBy_replicate hbehind]
      exact hbreak
    rw [plainBreaks, Cursor.skipSpaces, Cursor.skipWhile, Cursor.takeWhile_replicate rfl hbehind hstop]
    simp [hend]
  have hnone : c.takeWhile (· == ' ') = ([], c) := Cursor.takeWhile_stop (by rw [hpeek]; rfl)
  have hfeed : isBreak c.peek = true := by rw [hpeek]; rfl
  rw [plainSpace, hnone]
  simp only [hfeed, if_true, hline, hmarker, Bool.false_eq_true, if_false, hbreaks]
  rfl

/-- The last part of a plain text. -/
theorem last (hpart : IsPart cs) (hrest : IsLine rest) (hk : k < least) :
    PlainScan least (cs ++ '\n' :: (List.replicate k ' ' ++ rest)) cs rest k := by
  intro space c fuel broken hc hcolumn hfuel
  obtain ⟨g, fuel, rfl⟩ := List.exists_cons_of_ne_nil (List.ne_nil_of_length_pos (Nat.zero_lt_of_lt hfuel))
  have hbehind : (c.advanceBy cs.length).rest = '\n' :: (List.replicate k ' ' ++ rest) := by
    rw [Cursor.rest_advanceBy, hc, List.drop_left]
  have hfuel : fuel ≠ [] := by
    rintro rfl
    simp at hfuel
  obtain ⟨hcol, hline⟩ := Cursor.column_newLine hbehind
  have hmarker := hrest.atSeparator (Cursor.advance_rest hbehind)
  have hnext := plainSpace_newLine hrest.noSpace hrest.noBreak hbehind hmarker hfuel
  refine ⟨_, ?_, hline, hcol⟩
  rw [scanPlainFrom_part hpart rfl hc, hnext]
  simp [hcol, hk]

/-- A part with spaces behind it. -/
theorem spaces (h : PlainScan least text out rest k) (hpart : IsPart cs) {n : Nat} (hn : 0 < n)
    (htext : isGap (text.headD '\x00') = false) (hcomment : text.head? ≠ some '#') :
    PlainScan least (cs ++ (List.replicate n ' ' ++ text)) (cs ++ (List.replicate n ' ' ++ out)) rest k := by
  intro space c fuel broken hc hcolumn hfuel
  obtain ⟨g, fuel, rfl⟩ := List.exists_cons_of_ne_nil (List.ne_nil_of_length_pos (Nat.zero_lt_of_lt hfuel))
  have hbehind : (c.advanceBy cs.length).rest = List.replicate n ' ' ++ text := by
    rw [Cursor.rest_advanceBy, hc, List.drop_left]
  have hgap : isGap ((List.replicate n ' ' ++ text).headD '\x00') = true := by
    obtain ⟨m, rfl⟩ := Nat.exists_eq_add_one.mpr hn
    rfl
  have hdrest := Cursor.rest_advanceBy_replicate hbehind
  have hdcolumn : least ≤ ((c.advanceBy cs.length).advanceBy n).column := by
    have hpartColumn := Cursor.column_le_advanceBy hc hpart.noBreak
    have hspaceColumn := Cursor.column_spaces hbehind
    omega
  have hlength : text.length < fuel.length := by
    simp only [List.length_append, List.length_replicate, List.length_cons] at hfuel
    omega
  obtain ⟨e, he, hrest, hk⟩ := h (List.replicate n ' ') _ fuel false hdrest hdcolumn hlength
  refine ⟨e, ?_, hrest, hk⟩
  have hgoes := peek_ne_comment hcomment hdrest
  rw [scanPlainFrom_part hpart hgap hc, plainSpace_spaces htext hbehind]
  simp [hgoes, Nat.ne_of_gt hn, Nat.not_lt_of_le hdcolumn, he]

/-- A part at the end of a line that is too long. -/
theorem fold (h : PlainScan least text out rest k) (hpart : IsPart cs) {indent : Nat} (hindent : least ≤ indent)
    (hpos : 0 < indent) (htext : isGap (text.headD '\x00') = false) (hcomment : text.head? ≠ some '#') :
    PlainScan least (cs ++ (ScalarStyle.newLine indent ++ text)) (cs ++ ' ' :: out) rest k := by
  intro space c fuel broken hc hcolumn hfuel
  obtain ⟨g, fuel, rfl⟩ := List.exists_cons_of_ne_nil (List.ne_nil_of_length_pos (Nat.zero_lt_of_lt hfuel))
  have hbehind : (c.advanceBy cs.length).rest = '\n' :: (List.replicate indent ' ' ++ text) := by
    rw [Cursor.rest_advanceBy, hc, List.drop_left]
    rfl
  obtain ⟨hdcolumn, hdrest⟩ := Cursor.column_newLine hbehind
  have hspace : text.head? ≠ some ' ' := by
    intro heq
    rw [List.eq_cons_of_mem_head? heq] at htext
    cases htext
  have hbreak : isBreak (text.headD '\x00') = false := by
    simp only [isGap, isBreakOrEnd, Bool.or_eq_false_iff] at htext
    exact htext.2.1
  have hmarker := atSeparator_indented hpos (Cursor.advance_rest hbehind)
  have hlength : text.length < fuel.length := by
    simp only [List.length_append, List.length_cons, ScalarStyle.newLine] at hfuel
    omega
  have hcontinues : least ≤ ((c.advanceBy cs.length).advance.advanceBy indent).column := by rwa [hdcolumn]
  obtain ⟨e, he, hrest, hk⟩ := h [' '] _ fuel true hdrest hcontinues hlength
  have hnext := plainSpace_newLine hspace hbreak hbehind hmarker (List.ne_nil_of_length_pos (Nat.zero_lt_of_lt hlength))
  have hgoes := peek_ne_comment hcomment hdrest
  refine ⟨e, ?_, hrest, hk⟩
  rw [scanPlainFrom_part hpart rfl hc, hnext]
  simp [hgoes, Nat.not_lt_of_le hcontinues, he]

end PlainScan

/-! ## Plain texts -/

namespace ScalarStyle

theorem hasInnerIndicator_right {cs ds : List Char} (h : hasInnerIndicator (cs ++ ds) = false) :
    hasInnerIndicator ds = false := by
  induction cs with
  | nil => exact h
  | cons c cs ih =>
    rw [List.cons_append, hasInnerIndicator, Bool.or_eq_false_iff] at h
    exact ih h.2

theorem hasInnerIndicator_left {cs ds : List Char} (h : hasInnerIndicator (cs ++ ds) = false)
    (hds : isGap (ds.headD ' ') = true) : hasInnerIndicator cs = false := by
  induction cs with
  | nil => rfl
  | cons c cs ih =>
    rw [List.cons_append, hasInnerIndicator, Bool.or_eq_false_iff, Bool.or_eq_false_iff] at h
    obtain ⟨⟨hcolon, hcomment⟩, hbehind⟩ := h
    rw [hasInnerIndicator, ih hbehind]
    cases cs with
    | nil =>
      have hspace : isGap ' ' = true := rfl
      rw [List.nil_append, hds, Bool.and_true] at hcolon
      simp [hcolon]
    | cons d cs => simpa using ⟨by simpa using hcolon, by simpa using hcomment⟩

/-- No number sign stands behind a gap. -/
theorem head_ne_comment {cs ds : List Char} {c : Char} (h : hasInnerIndicator (cs ++ c :: ds) = false)
    (hc : isGap c = true) : ds.head? ≠ some '#' := by
  have hright := hasInnerIndicator_right h
  rw [hasInnerIndicator, Bool.or_eq_false_iff, Bool.or_eq_false_iff, hc, Bool.true_and] at hright
  simpa using hright.1.2

/-- The characters of a text that may be written plain. -/
structure IsPlainText (cs : List Char) : Prop where
  noInner : hasInnerIndicator cs = false
  noBreak : ∀ c ∈ cs, isWrittenBreak c = false
  noComment : cs.head? ≠ some '#'
  lastNoSpace : cs.getLast? ≠ some ' '

theorem exists_solid {r : Run} (h : r.isSolid = true) : ∃ cs, r = .solid cs := by
  cases r with
  | solid cs => exact ⟨cs, rfl⟩
  | _ => exact absurd h Bool.false_ne_true

theorem IsPlainText.behind {cs ds : List Char} {m : Nat} (h : IsPlainText (cs ++ (List.replicate (m + 1) ' ' ++ ds))) :
    ds ≠ [] ∧ IsPlainText ds := by
  have hspace : cs ++ (List.replicate (m + 1) ' ' ++ ds) = (cs ++ List.replicate m ' ') ++ ' ' :: ds := by
    simp [List.replicate_succ']
  rw [hspace] at h
  have hne : ds ≠ [] := by
    rintro rfl
    exact h.lastNoSpace (List.getLast?_concat ..)
  refine ⟨hne, ?_, ?_, head_ne_comment h.noInner rfl, ?_⟩
  · have hright := hasInnerIndicator_right h.noInner
    rw [hasInnerIndicator, Bool.or_eq_false_iff] at hright
    exact hright.2
  · exact fun c hc => h.noBreak c (by simp [hc])
  · have hlast := h.lastNoSpace
    rwa [List.getLast?_append_of_ne_nil _ (List.cons_ne_nil _ _), List.getLast?_cons_of_ne_nil hne] at hlast

/-- **The runs of a plain text**: characters and spaces take turns, and characters come first and last. -/
inductive PlainRuns : List Run → Prop
  | last {cs : List Char} (hpart : IsPart cs) : PlainRuns [.solid cs]
  | more {cs : List Char} {m : Nat} {rs : List Run} (hpart : IsPart cs) (hrest : PlainRuns rs) :
      PlainRuns (.solid cs :: .spaces (m + 1) :: rs)

theorem plainRuns {rs : List Run} (hne : rs ≠ []) (hholds : ∀ r ∈ rs, r.Holds) (hchain : rs.IsChain Run.Apart)
    (hfirst : ∀ r ∈ rs.head?, r.isSolid = true) (htext : IsPlainText (rs.flatMap Run.chars)) : PlainRuns rs := by
  -- two runs are taken at once, so the induction is on the length
  induction hlength : rs.length using Nat.strongRecOn generalizing rs with
  | _ length ih =>
    obtain ⟨r, rs, rfl⟩ := List.exists_cons_of_ne_nil hne
    obtain ⟨cs, rfl⟩ := exists_solid (hfirst r rfl)
    rw [List.forall_mem_cons] at hholds
    rw [List.isChain_cons] at hchain
    have hcomment : cs.head? ≠ some '#' := by
      have hhead := htext.noComment
      rwa [List.flatMap_cons, Run.chars, List.head?_append_of_ne_nil _ hholds.1.1] at hhead
    cases rs with
    | nil =>
      rw [List.flatMap_singleton] at htext
      exact .last ⟨hholds.1.1, hholds.1.2, htext.noInner, hcomment⟩
    | cons r' rs =>
      have hkind : r'.isSolid = false := Bool.eq_false_iff.mpr (hchain.1 r' rfl).symm
      have hsolid : ∀ r ∈ rs.head?, r.isSolid = true := fun r hr =>
        Bool.eq_true_of_not_eq_false fun hr' => (List.isChain_cons.mp hchain.2).1 r hr (hkind.trans hr'.symm)
      rw [List.forall_mem_cons] at hholds
      cases r' with
      | solid => cases hkind
      | breaks bs =>
        obtain ⟨b, bs', rfl⟩ := List.exists_cons_of_ne_nil hholds.2.1.1
        have hbreak := hholds.2.1.2 b List.mem_cons_self
        rw [htext.noBreak b (by simp [Run.chars])] at hbreak
        cases hbreak
      | spaces n =>
        obtain ⟨m, rfl⟩ := Nat.exists_eq_add_one.mpr (show 0 < n from hholds.2.1)
        have hchars : (Run.solid cs :: Run.spaces (m + 1) :: rs).flatMap Run.chars =
            cs ++ (List.replicate (m + 1) ' ' ++ rs.flatMap Run.chars) := rfl
        rw [hchars] at htext
        obtain ⟨hmore, hbehind⟩ := htext.behind
        have hrs : rs ≠ [] := by
          rintro rfl
          exact hmore rfl
        refine .more ⟨hholds.1.1, hholds.1.2, hasInnerIndicator_left htext.noInner rfl, hcomment⟩ ?_
        exact ih _ (by rw [← hlength]; simp) hrs hholds.2.2 hchain.2.tail hsolid hbehind rfl

/-- A plain text that is written begins like the text. -/
theorem PlainRuns.head {rs : List Run} (h : PlainRuns rs) (indent : Nat) (isFirst : Bool) (column : Nat)
    (more : List Char) :
    isGap ((foldRuns 0 indent isFirst column rs ++ more).headD '\x00') = false ∧
      (foldRuns 0 indent isFirst column rs ++ more).head? ≠ some '#' := by
  have hpart {cs : List Char} (hpart : IsPart cs) (more : List Char) :
      isGap ((cs ++ more).headD '\x00') = false ∧ (cs ++ more).head? ≠ some '#' := by
    obtain ⟨c, cs, rfl⟩ := List.exists_cons_of_ne_nil hpart.ne_nil
    exact ⟨hpart.noGap c List.mem_cons_self, hpart.noComment⟩
  cases h with
  | last hcs =>
    rw [foldRuns, List.append_assoc]
    exact hpart hcs _
  | more hcs =>
    rw [foldRuns, List.append_assoc]
    exact hpart hcs _

/-- **A plain text** is read back. -/
theorem plainScan_foldRuns {least indent k : Nat} (hindent : least ≤ indent) (hpos : 0 < indent) (hk : k < least)
    {rest : List Char} (hrest : IsLine rest) (isFirst : Bool) (column : Nat) {rs : List Run} (h : PlainRuns rs) :
    PlainScan least (foldRuns 0 indent isFirst column rs ++ '\n' :: (List.replicate k ' ' ++ rest))
      (rs.flatMap Run.chars) rest k := by
  induction h generalizing isFirst column with
  | last hpart =>
    rw [foldRuns, foldRuns, List.flatMap_singleton, List.append_nil]
    exact .last hpart hrest hk
  | @more cs m rs hpart hrest' ih =>
    have hwritten : foldRuns 0 indent isFirst column (.solid cs :: .spaces (m + 1) :: rs) =
        cs ++ foldRuns 0 indent false (column + cs.length) (.spaces (m + 1) :: rs) := rfl
    have hchars : (Run.solid cs :: Run.spaces (m + 1) :: rs).flatMap Run.chars =
        cs ++ (List.replicate (m + 1) ' ' ++ rs.flatMap Run.chars) := rfl
    have hhead (column : Nat) := hrest'.head indent false column ('\n' :: (List.replicate k ' ' ++ rest))
    rw [hwritten, hchars, foldRuns]
    split
    · rename_i hfold
      simp only [Bool.and_eq_true, decide_eq_true_eq] at hfold
      obtain ⟨⟨⟨hone, -⟩, -⟩, -⟩ := hfold
      obtain rfl : m = 0 := by omega
      rw [List.append_assoc, List.append_assoc]
      exact (ih _ _).fold hpart hindent hpos (hhead _).1 (hhead _).2
    · rw [List.append_assoc, List.append_assoc]
      exact (ih _ _).spaces hpart (Nat.succ_pos m) (hhead _).1 (hhead _).2

theorem isPlainText_of_allowsPlain {cs : List Char} (h : allowsPlain cs = true) : IsPlainText cs := by
  simp only [allowsPlain, hasIndicator, Bool.and_eq_true, Bool.not_eq_true', Bool.or_eq_false_iff, bne_iff_ne] at h
  obtain ⟨⟨⟨⟨-, hbreak⟩, ⟨⟨hleading, hinner⟩, -⟩, -⟩, -⟩, hlast⟩ := h
  refine ⟨hinner, fun c hc => ?_, ?_, hlast⟩
  · exact Bool.eq_false_iff.mpr (List.any_eq_false.mp hbreak c hc)
  · cases cs with
    | nil => exact Option.some_ne_none _ |>.symm
    | cons c cs =>
      intro heq
      obtain rfl : c = '#' := Option.some.inj heq
      cases hleading

/-- The first run of a plain text holds neither spaces nor line breaks. -/
theorem head_runs {cs : List Char} (h : allowsPlain cs = true) : ∀ r ∈ (runs cs).head?, r.isSolid = true := by
  intro r hr
  have hsingle : allowsSingle cs = true := by
    simp only [allowsPlain, Bool.and_eq_true] at h
    exact h.1.1.1.1
  have hspace : cs.head? ≠ some ' ' := by
    simp only [allowsPlain, Bool.and_eq_true, bne_iff_ne] at h
    exact h.1.2
  obtain ⟨hholds, -⟩ := runs_spec hsingle
  have hr' := hholds r (List.mem_of_mem_head? hr)
  have hchars := chars_runs cs
  rw [List.eq_cons_of_mem_head? hr, List.flatMap_cons] at hchars
  cases r with
  | solid ds => rfl
  | spaces n =>
    obtain ⟨m, rfl⟩ := Nat.exists_eq_add_one.mpr (show 0 < n from hr')
    exact absurd (hchars ▸ rfl) hspace
  | breaks bs =>
    obtain ⟨b, bs, rfl⟩ := List.exists_cons_of_ne_nil hr'.1
    have hbreak := (isPlainText_of_allowsPlain h).noBreak b (hchars ▸ List.mem_cons_self)
    rw [hr'.2 b List.mem_cons_self] at hbreak
    cases hbreak

theorem plainScan_write {cs : List Char} (h : allowsPlain cs = true) (hne : cs ≠ []) {least indent k : Nat}
    (hindent : least ≤ indent) (hpos : 0 < indent) (hk : k < least) {rest : List Char} (hrest : IsLine rest)
    (column : Nat) :
    PlainScan least (write .plain indent column cs ++ '\n' :: (List.replicate k ' ' ++ rest)) cs rest k := by
  have hsingle : allowsSingle cs = true := by
    simp only [allowsPlain, Bool.and_eq_true] at h
    exact h.1.1.1.1
  obtain ⟨hholds, hchain⟩ := runs_spec hsingle
  have hchars := chars_runs cs
  have hruns : runs cs ≠ [] := by
    intro heq
    rw [heq] at hchars
    exact hne hchars.symm
  have hplain : PlainRuns (runs cs) :=
    plainRuns hruns hholds hchain (head_runs h) (by rw [hchars]; exact isPlainText_of_allowsPlain h)
  have hscan := plainScan_foldRuns hindent hpos hk hrest true column hplain
  rwa [hchars] at hscan

/-- How a plain scalar begins: with a character that is no indicator, or with one that does not stand alone. -/
def BeginsPlain (text : List Char) : Prop :=
  ∃ c more, text = c :: more ∧ isGap c = false ∧
    ("-?:,[]\x7b\x7d#&*!|>'\"%@`".toList.contains c = false ∨
      isGap (more.headD '\x00') = false ∧ (c = '-' ∨ c = '?' ∨ c = ':'))

/-- Behind characters of a text come spaces, line breaks or the end. -/
theorem isGap_behind {cs : List Char} {rs : List Run} (hholds : ∀ r ∈ rs, r.Holds)
    (hchain : (Run.solid cs :: rs).IsChain Run.Apart) : isGap ((rs.flatMap Run.chars).headD ' ') = true := by
  cases rs with
  | nil => rfl
  | cons r rs =>
    have hapart := (List.isChain_cons.mp hchain).1 r rfl
    have hr := hholds r List.mem_cons_self
    cases r with
    | solid ds => exact absurd rfl hapart
    | spaces n =>
      obtain ⟨m, rfl⟩ := Nat.exists_eq_add_one.mpr (show 0 < n from hr)
      rfl
    | breaks bs =>
      obtain ⟨b, bs, rfl⟩ := List.exists_cons_of_ne_nil hr.1
      have hbreak := Cursor.isBreak_of_written (hr.2 b List.mem_cons_self)
      change isGap b = true
      simp [isGap, isBreakOrEnd, hbreak]

theorem beginsPlain_write {cs : List Char} (h : allowsPlain cs = true) (hne : cs ≠ []) (indent column : Nat)
    (more : List Char) : BeginsPlain (write .plain indent column cs ++ more) := by
  have hfirst := head_runs h
  simp only [allowsPlain, hasIndicator, Bool.and_eq_true, Bool.not_eq_true', Bool.or_eq_false_iff] at h
  obtain ⟨⟨⟨⟨hsingle, -⟩, ⟨⟨hleading, hinner⟩, -⟩, -⟩, -⟩, -⟩ := h
  obtain ⟨hholds, hchain⟩ := runs_spec hsingle
  have hchars := chars_runs cs
  rw [write]
  cases hruns : runs cs with
  | nil =>
    rw [hruns] at hchars
    exact absurd hchars.symm hne
  | cons r rs =>
    rw [hruns] at hchars hholds hchain hfirst
    obtain ⟨ds, rfl⟩ := exists_solid (hfirst r rfl)
    rw [List.forall_mem_cons] at hholds
    obtain ⟨c, ds, rfl⟩ := List.exists_cons_of_ne_nil hholds.1.1
    have hcs : cs = c :: (ds ++ rs.flatMap Run.chars) := hchars.symm
    rw [hcs] at hleading hinner
    have hgap := hholds.1.2
    refine ⟨c, ds ++ foldRuns 0 indent false (column + (ds.length + 1)) rs ++ more, rfl, hgap c List.mem_cons_self, ?_⟩
    by_cases hmark : c = '-' ∨ c = '?' ∨ c = ':'
    · refine .inr ⟨?_, hmark⟩
      cases ds with
      | cons d ds => exact hgap d (by simp)
      | nil =>
        -- an indicator that stands alone is not written plain
        have hbehind := isGap_behind hholds.2 hchain
        rw [List.nil_append] at hleading hinner
        rw [hasInnerIndicator, hbehind] at hinner
        dsimp only at hleading
        rw [hbehind] at hleading
        rcases hmark with rfl | rfl | rfl
        · simp at hleading
        · simp at hleading
        · simp at hinner
    · refine .inl ?_
      simp only [isLeadingIndicator, Bool.or_eq_false_iff] at hleading
      push Not at hmark
      have hlist := hleading.1
      simp [hmark] at hlist ⊢
      tauto

/-! ## Scalars in any style -/

/-- A text that is written plain is a text for every reader. -/
theorem plain_spec {schema : Schema} {s : String} (h : choose schema s = .plain) :
    schema.kindOf s = .text ∧ allowsPlain s.toList = true := by
  rw [choose] at h
  split_ifs at h with hplain
  simpa using hplain

theorem single_spec {schema : Schema} {s : String} (h : choose schema s = .single) : allowsSingle s.toList = true := by
  rw [choose] at h
  split_ifs at h with _ hsingle
  exact hsingle

/-- **What is read back of a text** that is written behind the key of an entry. -/
def readBack (schema : Schema) (indent : Nat) (s : String) : String :=
  match choose schema s with
  | .plain => s
  | .single => String.ofList (singleBack s.toList)
  | .double => String.ofList (escapedBack indent true s.toList)

/-- **A text survives** a file unless it is written between single quotes and holds the line break `U+0085`, or
between double quotes on lines that are indented too far. -/
def Survives (schema : Schema) (indent : Nat) (s : String) : Prop :=
  match choose schema s with
  | .plain => True
  | .single => '\u0085' ∉ s.toList
  | .double => indent < maxWidth ∨ hasSpoiltSpace s.toList.tail = false

theorem readBack_eq_iff (schema : Schema) (indent : Nat) (s : String) :
    readBack schema indent s = s ↔ Survives schema indent s := by
  rw [readBack, Survives]
  cases hstyle : choose schema s with
  | plain => simp
  | single => exact String.ofList_eq.trans (singleBack_eq_iff (single_spec hstyle))
  | double => exact String.ofList_eq.trans (escapedBack_eq_iff indent true s.toList)

theorem back_ne_nil {r : Run} (h : r.Holds) : r.back ≠ [] := by
  cases r with
  | spaces n => exact Run.chars_ne_nil h
  | solid cs => exact h.1
  | breaks cs =>
    obtain ⟨b, bs, rfl⟩ := List.exists_cons_of_ne_nil h.1
    have hfold (first others : List Char) (hfirst : first ≠ []) : Cursor.foldBreaks first others ≠ [] := by
      rw [Cursor.foldBreaks]
      split_ifs with _ hempty
      · exact List.append_ne_nil_of_left_ne_nil hfirst _
      · exact List.cons_ne_nil _ _
      · simpa using hempty
    exact hfold _ _ (List.cons_ne_nil _ _)

theorem singleBack_ne_nil {cs : List Char} (h : allowsSingle cs = true) (hne : cs ≠ []) : singleBack cs ≠ [] := by
  obtain ⟨hholds, -⟩ := runs_spec h
  have hchars := chars_runs cs
  rw [singleBack]
  cases hruns : runs cs with
  | nil =>
    rw [hruns] at hchars
    exact absurd hchars.symm hne
  | cons r rs =>
    rw [hruns, List.forall_mem_cons] at hholds
    rw [List.flatMap_cons]
    exact List.append_ne_nil_of_left_ne_nil (back_ne_nil hholds.1) _

/-- No text that is written is read back as the empty text, except for the empty text. -/
theorem readBack_ne_empty {schema : Schema} {indent : Nat} {s : String} (h : s ≠ "") :
    readBack schema indent s ≠ "" := by
  have hne : s.toList ≠ [] := by simpa using h
  rw [readBack]
  cases hstyle : choose schema s with
  | plain => exact h
  | single => exact fun heq => singleBack_ne_nil (single_spec hstyle) hne (String.ofList_eq.mp heq)
  | double =>
    obtain ⟨c, cs, hcs⟩ := List.exists_cons_of_ne_nil hne
    rw [hcs]
    intro heq
    cases String.ofList_eq.mp heq

end ScalarStyle

end CommandWrap.Yaml
