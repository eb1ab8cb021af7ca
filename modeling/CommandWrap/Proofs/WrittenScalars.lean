import CommandWrap.Proofs.QuotedScalars

/-!
# Texts between quotes are read back

A text is written between single quotes in runs, and between double quotes by one character after the other.
-/
namespace CommandWrap.Yaml

/-! ## Hexadecimal digits -/

theorem hexValue?_toUpper {n : Nat} (h : n < 16) : Text.hexValue? (Text.hexDigit n).toUpper = some n := by
  decide +revert

theorem hexNumber?_eq (width n value : Nat) :
    ((Text.hexPadded width n).map Char.toUpper).foldlM (fun n c => (Text.hexValue? c).map (16 * n + ·)) value =
      some (16 ^ width * value + n % 16 ^ width) := by
  induction width generalizing value with
  | zero => simp [Text.hexPadded, Nat.mod_one]
  | succ width ih =>
    rw [Text.hexPadded, List.map_cons, List.foldlM_cons, hexValue?_toUpper (Nat.mod_lt _ (by decide))]
    change List.foldlM _ _ _ = _
    have hpow : Nat.pow 16 width = 16 ^ width := rfl
    rw [ih, Nat.pow_succ, Nat.mod_mul, hpow]
    ring_nf

theorem hexNumber?_hexPadded {width n : Nat} (h : n < 16 ^ width) :
    Text.hexNumber? ((Text.hexPadded width n).map Char.toUpper) = some n := by
  rw [Text.hexNumber?, hexNumber?_eq, Nat.mul_zero, Nat.zero_add, Nat.mod_eq_of_lt h]

namespace ScalarStyle

/-! ## Escapes -/

theorem escapeLetter?_spec {c letter : Char} (h : ScalarStyle.escapeLetter? c = some letter) :
    Yaml.escapeLetter? letter = some c := by
  have hc {n : Nat} (hn : c.toNat = n) : c = Char.ofNat n := by rw [← hn, Char.ofNat_toNat]
  rw [ScalarStyle.escapeLetter?] at h
  split at h <;> cases h
  all_goals
    rename_i hn
    exact (congrArg some (hc hn)).symm

theorem scan_code {c letter : Char} {width : Nat} (hletter : Yaml.escapeLetter? letter = none)
    (hwidth : escapeWidth? letter = some width) (hc : c.toNat < 16 ^ width) {text out rest : List Char}
    (h : Scan '"' text out rest) :
    Scan '"' ('\\' :: letter :: ((Text.hexPadded width c.toNat).map Char.toUpper ++ text)) (c :: out) rest := by
  have hlength : ((Text.hexPadded width c.toNat).map Char.toUpper).length = width := by
    rw [List.length_map, Text.length_hexPadded]
  have hcode := h.code hletter hwidth hlength (hexNumber?_hexPadded hc) (Text.code_lt c)
  rwa [Char.ofNat_toNat] at hcode

theorem scan_escape (c : Char) {text out rest : List Char} (h : Scan '"' text out rest) :
    Scan '"' (escape c ++ text) (c :: out) rest := by
  rw [escape]
  split
  · rename_i hletter
    exact h.letter (escapeLetter?_spec hletter)
  split_ifs with h2 h4
  · exact scan_code rfl rfl (Nat.lt_succ_of_le h2) h
  · exact scan_code rfl rfl (Nat.lt_succ_of_le h4) h
  · exact scan_code rfl rfl ((Text.code_lt c).trans (by decide)) h

/-- The escape of a character is a backslash and at least one more character. -/
theorem escape_eq_cons (c : Char) : ∃ d more, escape c = '\\' :: d :: more := by
  rw [escape]
  split
  · exact ⟨_, _, rfl⟩
  · split_ifs <;> exact ⟨_, _, rfl⟩

theorem two_le_length_escape (c : Char) : 2 ≤ (escape c).length := by
  obtain ⟨d, more, hescape⟩ := escape_eq_cons c
  rw [hescape]
  exact Nat.le_add_left ..

/-! ## Texts with escapes -/

/-- **What is read back of a text between double quotes.**  Lines that are indented by eighty columns or more are
too long from their beginning, and a space that should begin such a line is written behind one backslash too
many. -/
def escapedBack (indent : Nat) (isFirst : Bool) : List Char → List Char
  | [] => []
  | c :: rest =>
    let isSpoilt := !isFirst && !isDirect c && maxWidth ≤ indent && rest.head? == some ' ' && 1 < rest.length
    c :: (if isSpoilt then ['\\', ' '] else []) ++ escapedBack indent false rest

theorem isGap_of_isDirect {c : Char} (hc : isDirect c = true) (hspace : c ≠ ' ') : isGap c = false := by
  have hne (d : Char) (hd : isDirect d = false) : (c == d) = false := by
    rw [beq_eq_false_iff_ne]
    rintro rfl
    rw [hc] at hd
    cases hd
  simp [isGap, isSpace, isBreakOrEnd, isBreak, beq_eq_false_iff_ne.mpr hspace, hne '\t' rfl, hne '\n' rfl, hne '\r' rfl,
    hne '\u0085' rfl, hne '\u2028' rfl, hne '\u2029' rfl, hne '\x00' rfl]

/-- No line breaks off behind spaces without a backslash. -/
theorem clear_escapeFrom (indent : Nat) (isFirst afterEscape : Bool) (column : Nat) (cs tail : List Char) :
    isBreakOrEnd (((escapeFrom indent isFirst afterEscape column cs ++ '"' :: tail).dropWhile isSpace).headD
      '\x00') = false := by
  have hslash (more : List Char) : isBreakOrEnd ((('\\' :: more).dropWhile isSpace).headD '\x00') = false := rfl
  have hdirect {c : Char} (hc : isDirect c = true) {more : List Char}
      (ih : isBreakOrEnd ((more.dropWhile isSpace).headD '\x00') = false) :
      isBreakOrEnd (((c :: more).dropWhile isSpace).headD '\x00') = false := by
    by_cases hspace : c = ' '
    · subst hspace
      exact ih
    · have hgap := isGap_of_isDirect hc hspace
      rw [isGap, Bool.or_eq_false_iff] at hgap
      rw [List.dropWhile_cons_of_neg (Bool.not_eq_true _ ▸ hgap.1)]
      exact hgap.2
  induction cs generalizing isFirst afterEscape column with
  | nil => rfl
  | cons c cs ih =>
    rw [escapeFrom]
    split
    · rename_i hc
      split
      · exact hslash _
      · exact hdirect hc (ih ..)
    · obtain ⟨d, more, hescape⟩ := escape_eq_cons c
      rw [hescape]
      dsimp only
      split <;> exact hslash _

/-- Behind a fold, a text with escapes begins with no gap. -/
theorem isGap_escapeFrom {indent column : Nat} {afterEscape : Bool} {c : Char} {cs tail : List Char} (hc : c ≠ ' ') :
    isGap ((escapeFrom indent false afterEscape column (c :: cs) ++ tail).headD '\x00') = false := by
  rw [escapeFrom]
  split
  · rename_i hdirect
    split
    · rfl
    · exact isGap_of_isDirect hdirect hc
  · obtain ⟨d, more, hescape⟩ := escape_eq_cons c
    rw [hescape]
    dsimp only
    split <;> rfl

theorem scan_direct {c : Char} (hc : isDirect c = true) {text out rest : List Char} (h : Scan '"' text out rest)
    (hclear : isBreakOrEnd ((text.dropWhile isSpace).headD '\x00') = false) : Scan '"' (c :: text) (c :: out) rest := by
  by_cases hspace : c = ' '
  · subst hspace
    exact h.space rfl hclear
  by_cases hquote : c = '\''
  · exact h.foreign (.inl ⟨rfl, hquote⟩)
  refine h.ordinary ?_
  have hne (d : Char) (hd : isDirect d = false) : c ≠ d := by
    rintro rfl
    rw [hc] at hd
    cases hd
  simp [isOrdinary, isGap_of_isDirect hc hspace, hquote, hne '"' rfl, hne '\\' rfl]

/-- A line ends before a character that stands for itself. -/
theorem scan_foldBefore {indent : Nat} (hindent : 0 < indent) {c : Char} (hc : isDirect c = true)
    {text out rest : List Char} (h : Scan '"' text out rest)
    (hclear : isBreakOrEnd ((text.dropWhile isSpace).headD '\x00') = false) :
    Scan '"' (foldBefore indent c ++ c :: text) (c :: out) rest := by
  by_cases hspace : c = ' '
  · subst hspace
    have hletter : Scan '"' ('\\' :: ' ' :: text) (' ' :: out) rest := h.letter rfl
    have htext : foldBefore indent ' ' ++ ' ' :: text = '\\' :: newLine indent ++ '\\' :: ' ' :: text := by
      simp [foldBefore]
    rw [htext]
    exact hletter.fold rfl hindent
  · have hfold := (scan_direct hc h hclear).fold (isGap_of_isDirect hc hspace) hindent
    rwa [foldBefore, if_neg (by simpa using hspace), List.append_nil]

theorem escapeFrom_direct {c : Char} (hc : isDirect c = true) (indent : Nat) (isFirst afterEscape : Bool) (column : Nat)
    (cs : List Char) :
    escapeFrom indent isFirst afterEscape column (c :: cs) =
      if !isFirst && !cs.isEmpty && (c == ' ' || afterEscape) && decide (maxWidth < column) then
        foldBefore indent c ++ c :: escapeFrom indent false false (columnAfterFold indent c + 1) cs
      else c :: escapeFrom indent false false (column + 1) cs := by
  rw [escapeFrom, if_pos hc]

/-- The space that begins a line behind an escape: where the line is too long from its beginning, it is written
behind one backslash too many. -/
theorem scan_spaceBehindFold {indent : Nat} (hindent : 0 < indent) {cs out rest : List Char}
    (h : Scan '"' (escapeFrom indent false false (indent + 2) cs ++ '"' :: rest) out rest) :
    Scan '"' ('\\' :: (escapeFrom indent false true (indent + 1) (' ' :: cs) ++ '"' :: rest))
      ((if maxWidth ≤ indent ∧ cs ≠ [] then ['\\', ' '] else []) ++ ' ' :: out) rest := by
  have hletter : Scan '"' ('\\' :: ' ' :: (escapeFrom indent false false (indent + 2) cs ++ '"' :: rest)) (' ' :: out) rest :=
    h.letter rfl
  rw [escapeFrom_direct rfl]
  by_cases hspoilt : maxWidth ≤ indent ∧ cs ≠ []
  · have hline : ∀ c ∈ ['\n'], isWrittenBreak c = true := List.forall_mem_singleton.mpr rfl
    have hbreak := hletter.breaks rfl rfl hline hindent
    have hread : Cursor.foldBreaks [Cursor.readBreak '\n'] [] = [' '] := rfl
    have hslash : Scan '"' ('\\' :: '\\' :: _) ('\\' :: _) rest := hbreak.letter rfl
    rw [if_pos (by simpa [Nat.lt_succ_iff, and_comm] using hspoilt), if_pos hspoilt]
    simpa [foldBefore, newLine, columnAfterFold, hread, Nat.add_assoc] using hslash
  · rw [if_neg (by simpa [Nat.lt_succ_iff, and_comm] using hspoilt), if_neg hspoilt]
    exact hletter

theorem escapeFrom_escape {c : Char} (hc : isDirect c = false) (indent : Nat) (isFirst afterEscape : Bool)
    (column : Nat) (cs : List Char) :
    escapeFrom indent isFirst afterEscape column (c :: cs) =
      escape c ++ if !isFirst && !cs.isEmpty && decide (maxWidth + 1 < column + (escape c).length) then
        foldBefore indent (cs.headD ' ') ++ escapeFrom indent false true (columnAfterFold indent (cs.headD ' ')) cs
      else escapeFrom indent false true (column + (escape c).length) cs := by
  rw [escapeFrom, if_neg (Bool.eq_false_iff.mp hc)]
  dsimp only
  split_ifs
  · rw [List.append_assoc]
  · rfl

/-- A line ends behind an escape and before a space. -/
theorem scan_escape_space {indent : Nat} (hindent : 0 < indent) {c : Char} (hc : isDirect c = false) {cs rest : List Char}
    (h : Scan '"' (escapeFrom indent false false (indent + 2) cs ++ '"' :: rest) (escapedBack indent false cs) rest) :
    Scan '"' (escape c ++ (foldBefore indent ' ' ++
        (escapeFrom indent false true (columnAfterFold indent ' ') (' ' :: cs) ++ '"' :: rest)))
      (escapedBack indent false (c :: ' ' :: cs)) rest := by
  have hback : escapedBack indent false (c :: ' ' :: cs) =
      c :: ((if maxWidth ≤ indent ∧ cs ≠ [] then ['\\', ' '] else []) ++ ' ' :: escapedBack indent false cs) := by
    have hspace : isDirect ' ' = true := rfl
    simp [escapedBack, hc, hspace, List.length_pos_iff]
  have htext : foldBefore indent ' ' ++
      (escapeFrom indent false true (columnAfterFold indent ' ') (' ' :: cs) ++ '"' :: rest) =
        '\\' :: newLine indent ++ '\\' :: (escapeFrom indent false true (indent + 1) (' ' :: cs) ++ '"' :: rest) := by
    simp [foldBefore, columnAfterFold]
  rw [hback, htext]
  exact scan_escape c ((scan_spaceBehindFold hindent h).fold rfl hindent)

/-- A line ends behind an escape and before something else. -/
theorem scan_escape_other {indent : Nat} (hindent : 0 < indent) {c d : Char} (hspace : d ≠ ' ') {cs rest : List Char}
    (h : Scan '"' (escapeFrom indent false true indent (d :: cs) ++ '"' :: rest) (escapedBack indent false (d :: cs)) rest) :
    Scan '"' (escape c ++ (foldBefore indent d ++
        (escapeFrom indent false true (columnAfterFold indent d) (d :: cs) ++ '"' :: rest)))
      (escapedBack indent false (c :: d :: cs)) rest := by
  have hback : escapedBack indent false (c :: d :: cs) = c :: escapedBack indent false (d :: cs) := by
    simp [escapedBack, hspace]
  have htext : foldBefore indent d = '\\' :: newLine indent := by
    simp [foldBefore, hspace]
  have hcolumn : columnAfterFold indent d = indent := by
    simp [columnAfterFold, hspace]
  rw [hback, htext, hcolumn]
  exact scan_escape c (h.fold (isGap_escapeFrom hspace) hindent)

/-- No backslash is too many where no line ends. -/
theorem escapedBack_unfolded {indent column width : Nat} (hcolumn : indent ≤ column) (hwidth : 2 ≤ width)
    {isFirst : Bool} {cs : List Char}
    (hfold : ¬ (!isFirst && !cs.isEmpty && decide (maxWidth + 1 < column + width)) = true) (c : Char) :
    escapedBack indent isFirst (c :: cs) = c :: escapedBack indent false cs := by
  rw [escapedBack, if_neg]
  · rfl
  · intro hspoilt
    simp only [Bool.and_eq_true, Bool.not_eq_true', decide_eq_true_eq] at hspoilt
    obtain ⟨⟨⟨⟨rfl, -⟩, hwide⟩, -⟩, hmore⟩ := hspoilt
    refine hfold ?_
    simp only [Bool.and_eq_true, Bool.not_eq_true', decide_eq_true_eq, List.isEmpty_eq_false_iff]
    exact ⟨⟨trivial, List.ne_nil_of_length_pos (Nat.zero_lt_of_lt hmore)⟩, by omega⟩

/-- **A text between double quotes** is read back as `escapedBack` says. -/
theorem scan_escapeFrom {indent : Nat} (hindent : 0 < indent) (isFirst afterEscape : Bool) {column : Nat}
    (hcolumn : indent ≤ column) (cs rest : List Char) :
    Scan '"' (escapeFrom indent isFirst afterEscape column cs ++ '"' :: rest) (escapedBack indent isFirst cs) rest := by
  -- on the length: a line that ends in front of a space takes an escape and the space at once
  induction hlength : cs.length using Nat.strongRecOn generalizing isFirst afterEscape column cs with
  | _ length ih =>
    cases cs with
    | nil => exact .double
    | cons c cs =>
      have hlt : cs.length < length := hlength ▸ Nat.lt_succ_self _
      cases hdirect : isDirect c with
      | true =>
        have hback : escapedBack indent isFirst (c :: cs) = c :: escapedBack indent false cs := by
          simp [escapedBack, hdirect]
        have hclear (column : Nat) := clear_escapeFrom indent false false column cs rest
        have hrest (column : Nat) (hcolumn : indent ≤ column) := ih _ hlt false false hcolumn cs rfl
        rw [hback, escapeFrom_direct hdirect]
        split
        · rw [List.append_assoc]
          refine scan_foldBefore hindent hdirect (hrest _ ?_) (hclear _)
          rw [columnAfterFold]
          split <;> omega
        · exact scan_direct hdirect (hrest _ (Nat.le_succ_of_le hcolumn)) (hclear _)
      | false =>
        rw [escapeFrom_escape hdirect, List.append_assoc]
        split
        · rename_i hfold
          simp only [Bool.and_eq_true, Bool.not_eq_true', decide_eq_true_eq, List.isEmpty_eq_false_iff] at hfold
          obtain ⟨⟨rfl, hne⟩, hlong⟩ := hfold
          obtain ⟨d, cs, rfl⟩ := List.exists_cons_of_ne_nil hne
          rw [List.append_assoc, List.headD_cons]
          by_cases hspace : d = ' '
          · subst hspace
            have hlt : cs.length < length := (Nat.lt_succ_self _).trans hlt
            exact scan_escape_space hindent hdirect (ih _ hlt false false (Nat.le_add_right indent 2) cs rfl)
          · exact scan_escape_other hindent hspace (ih _ hlt false true (Nat.le_refl _) (d :: cs) rfl)
        · rename_i hfold
          rw [escapedBack_unfolded hcolumn (two_le_length_escape c) hfold]
          exact scan_escape c (ih _ hlt false true (Nat.le_add_right_of_le hcolumn) cs rfl)

/-- Does a space that is not the last character stand behind a character that is escaped? -/
def hasSpoiltSpace : List Char → Bool
  | [] => false
  | c :: rest => (!isDirect c && rest.head? == some ' ' && 1 < rest.length) || hasSpoiltSpace rest

theorem length_le_escapedBack (indent : Nat) (isFirst : Bool) (cs : List Char) :
    cs.length ≤ (escapedBack indent isFirst cs).length := by
  induction cs generalizing isFirst with
  | nil => exact Nat.zero_le _
  | cons c cs ih =>
    have := ih false
    simp only [escapedBack, List.length_cons, List.length_append]
    omega

/-- Only behind an escape on a line that is indented too far a text between double quotes is not read back. -/
theorem escapedBack_eq_iff (indent : Nat) (isFirst : Bool) (cs : List Char) :
    escapedBack indent isFirst cs = cs ↔
      indent < maxWidth ∨ hasSpoiltSpace (if isFirst then cs.tail else cs) = false := by
  induction cs generalizing isFirst with
  | nil => cases isFirst <;> simp [escapedBack, hasSpoiltSpace]
  | cons c cs ih =>
    have hrest := ih false
    have hlength := length_le_escapedBack indent false cs
    cases isFirst with
    | true => simpa [escapedBack] using hrest
    | false =>
      simp only [Bool.false_eq_true, if_false] at hrest ⊢
      rw [hasSpoiltSpace]
      by_cases hspoilt : maxWidth ≤ indent ∧ (!isDirect c && cs.head? == some ' ' && decide (1 < cs.length)) = true
      · -- the space is lost, so what is read back is shorter
        have hne : escapedBack indent false (c :: cs) ≠ c :: cs := by
          intro heq
          have hboth := congrArg List.length heq
          simp only [Bool.and_eq_true, Bool.not_eq_true', decide_eq_true_eq] at hspoilt
          simp [escapedBack, hspoilt] at hboth
          omega
        simp only [hne, hspoilt.2, Bool.true_or, Bool.true_eq_false, or_false, false_iff]
        omega
      · -- the character is read back, and the rest decides
        have hback : escapedBack indent false (c :: cs) = c :: escapedBack indent false cs := by
          rw [escapedBack, if_neg]
          · rfl
          · intro hall
            simp only [Bool.and_eq_true, decide_eq_true_eq] at hall hspoilt
            exact hspoilt ⟨hall.1.1.2, ⟨hall.1.1.1.2, hall.1.2⟩, hall.2⟩
        rw [hback, List.cons_inj_right, hrest]
        by_cases hwide : maxWidth ≤ indent
        · have hsafe := Bool.eq_false_iff.mpr fun h => hspoilt ⟨hwide, h⟩
          rw [hsafe, Bool.false_or]
        · have hnarrow : indent < maxWidth := Nat.lt_of_not_le hwide
          simp [hnarrow]

/-! ## Runs -/

namespace Run

/-- The characters of a run. -/
def chars : Run → List Char
  | .spaces n => List.replicate n ' '
  | .breaks cs => cs
  | .solid cs => cs

/-- Does the run hold neither spaces nor line breaks? -/
def isSolid : Run → Bool
  | .solid _ => true
  | _ => false

/-- A run has at least one character, and its characters are of one kind. -/
def Holds : Run → Prop
  | .spaces n => 0 < n
  | .breaks cs => cs ≠ [] ∧ ∀ c ∈ cs, isWrittenBreak c = true
  | .solid cs => cs ≠ [] ∧ ∀ c ∈ cs, isGap c = false

/-- What is read back of a run between single quotes. -/
def back : Run → List Char
  | .spaces n => List.replicate n ' '
  | .breaks [] => []
  | .breaks (b :: bs) =>
    let rest := if b = '\n' then b :: bs else bs
    Cursor.foldBreaks [Cursor.readBreak b] (rest.map Cursor.readBreak)
  | .solid cs => cs

end Run

theorem chars_extend (c : Char) (rs : List Run) : (extend c rs).flatMap Run.chars = c :: rs.flatMap Run.chars := by
  fun_cases extend c rs
  case case1 hc _ _ | case2 hc _ =>
    obtain rfl : c = ' ' := by simpa using hc
    rfl
  all_goals rfl

theorem chars_runs (cs : List Char) : (runs cs).flatMap Run.chars = cs := by
  induction cs with
  | nil => rfl
  | cons c cs ih =>
    rw [runs, List.foldr_cons, chars_extend]
    exact congrArg (c :: ·) ih

/-- One of two runs next to each other holds neither spaces nor line breaks, and the other one does. -/
def Run.Apart (r r' : Run) : Prop :=
  r.isSolid ≠ r'.isSolid

theorem Run.isChain_of_isSolid_eq {r r' : Run} {rs : List Run} (hchain : (r :: rs).IsChain Run.Apart)
    (h : r.isSolid = r'.isSolid) : (r' :: rs).IsChain Run.Apart :=
  hchain.imp_head fun hapart => by rwa [Run.Apart, ← h]

theorem Run.chars_ne_nil {r : Run} (h : r.Holds) : r.chars ≠ [] := by
  cases r with
  | spaces n => simpa [Run.chars] using Nat.pos_iff_ne_zero.mp h
  | breaks => exact h.1
  | solid => exact h.1

theorem isGap_of_isSpecial {c : Char} (hc : isSpecial c = false) (hspace : c ≠ ' ')
    (hbreak : isWrittenBreak c = false) : isGap c = false := by
  have hne (d : Char) (hd : isSpecial d = true) : c ≠ d := by
    rintro rfl
    rw [hc] at hd
    cases hd
  simp only [isWrittenBreak, Bool.or_eq_false_iff, beq_eq_false_iff_ne] at hbreak
  simp [isGap, isSpace, isBreakOrEnd, isBreak, hspace, hbreak, hne '\t' rfl, hne '\r' rfl, hne '\x00' rfl]

/-- A character in front of the runs extends the first of them or is a run of its own. -/
theorem extend_spec {c : Char} (hc : isSpecial c = false) {rs : List Run} (hholds : ∀ r ∈ rs, r.Holds)
    (hchain : rs.IsChain Run.Apart)
    (hnext : ∀ d ∈ (rs.flatMap Run.chars).head?, (c = ' ' → isWrittenBreak d = false) ∧
      (isWrittenBreak c = true → d ≠ ' ')) :
    (∀ r ∈ extend c rs, r.Holds) ∧ (extend c rs).IsChain Run.Apart := by
  have hhead (r : Run) (hr : r ∈ rs.head?) :
      ∃ d, d ∈ r.chars ∧ (c = ' ' → isWrittenBreak d = false) ∧ (isWrittenBreak c = true → d ≠ ' ') := by
    obtain ⟨r', rest, rfl⟩ := List.exists_cons_of_ne_nil (l := rs) (by rintro rfl; cases hr)
    obtain rfl : r' = r := Option.some.inj hr
    obtain ⟨d, more, hchars⟩ := List.exists_cons_of_ne_nil (Run.chars_ne_nil (hholds _ List.mem_cons_self))
    rw [List.flatMap_cons, hchars] at hnext
    exact ⟨d, hchars ▸ List.mem_cons_self, hnext d rfl⟩
  -- a run that the character begins stands before one of the other kind, since spaces and breaks do not meet
  fun_cases extend c rs
  case case1 hspace n rest =>
    rw [List.forall_mem_cons] at hholds ⊢
    exact ⟨⟨Nat.succ_pos n, hholds.2⟩, Run.isChain_of_isSolid_eq hchain rfl⟩
  case case2 hspace hne =>
    rw [List.forall_mem_cons]
    refine ⟨⟨Nat.one_pos, hholds⟩, hchain.cons fun r hr => ?_⟩
    obtain ⟨d, hd, hbreak, -⟩ := hhead r hr
    cases r with
    | spaces n => exact (hne n _ (List.eq_cons_of_mem_head? hr)).elim
    | breaks bs =>
      have := (hholds _ (List.mem_of_mem_head? hr)).2 d hd
      rw [hbreak (beq_iff_eq.mp hspace)] at this
      cases this
    | solid cs => exact Bool.false_ne_true
  case case3 hspace hbreak bs rest =>
    rw [List.forall_mem_cons] at hholds ⊢
    exact ⟨⟨⟨List.cons_ne_nil _ _, List.forall_mem_cons.mpr ⟨hbreak, hholds.1.2⟩⟩, hholds.2⟩, Run.isChain_of_isSolid_eq hchain rfl⟩
  case case4 hspace hbreak hne =>
    rw [List.forall_mem_cons]
    refine ⟨⟨⟨List.cons_ne_nil _ _, List.forall_mem_singleton.mpr hbreak⟩, hholds⟩, hchain.cons fun r hr => ?_⟩
    obtain ⟨d, hd, -, hblank⟩ := hhead r hr
    cases r with
    | spaces n => exact absurd (List.eq_of_mem_replicate hd) (hblank hbreak)
    | breaks bs => exact (hne bs _ (List.eq_cons_of_mem_head? hr)).elim
    | solid cs => exact Bool.false_ne_true
  case case5 hspace hbreak ds rest =>
    have hgap := isGap_of_isSpecial hc (by simpa using hspace) (Bool.eq_false_iff.mpr hbreak)
    rw [List.forall_mem_cons] at hholds ⊢
    exact ⟨⟨⟨List.cons_ne_nil _ _, List.forall_mem_cons.mpr ⟨hgap, hholds.1.2⟩⟩, hholds.2⟩, Run.isChain_of_isSolid_eq hchain rfl⟩
  case case6 hspace hbreak hne =>
    have hgap := isGap_of_isSpecial hc (by simpa using hspace) (Bool.eq_false_iff.mpr hbreak)
    rw [List.forall_mem_cons]
    refine ⟨⟨⟨List.cons_ne_nil _ _, List.forall_mem_singleton.mpr hgap⟩, hholds⟩, hchain.cons fun r hr => ?_⟩
    cases r with
    | spaces n => exact Bool.false_ne_true.symm
    | breaks bs => exact Bool.false_ne_true.symm
    | solid ds => exact (hne ds _ (List.eq_cons_of_mem_head? hr)).elim

/-- **The runs of a text that needs no escapes**: each is of one kind, and spaces and line breaks are apart. -/
theorem runs_spec {cs : List Char} (h : allowsSingle cs = true) :
    (∀ r ∈ runs cs, r.Holds) ∧ (runs cs).IsChain Run.Apart := by
  induction cs with
  | nil => exact ⟨List.forall_mem_nil _, .nil⟩
  | cons c cs ih =>
    simp only [allowsSingle, List.any_cons, Bool.and_eq_true, Bool.not_eq_true', Bool.or_eq_false_iff] at h
    obtain ⟨⟨⟨hc, hspecial⟩, hbreakSpace⟩, hspaceBreak⟩ := h
    have htail (p q : Char → Bool) (hpair : hasPair p q (c :: cs) = false) :
        hasPair p q cs = false ∧ ∀ d ∈ cs.head?, p c = true → q d = false := by
      cases cs with
      | nil => simp [hasPair]
      | cons d cs => simpa [hasPair, and_comm] using hpair
    obtain ⟨hbreakSpace, hafterBreak⟩ := htail _ _ hbreakSpace
    obtain ⟨hspaceBreak, hafterSpace⟩ := htail _ _ hspaceBreak
    obtain ⟨hholds, hchain⟩ := ih (by simp [allowsSingle, hspecial, hbreakSpace, hspaceBreak])
    rw [runs, List.foldr_cons, ← runs]
    refine extend_spec hc hholds hchain fun d hd => ?_
    rw [chars_runs] at hd
    exact ⟨fun hspace => hafterSpace d hd (beq_iff_eq.mpr hspace),
      fun hbreak => beq_eq_false_iff_ne.mp (hafterBreak d hd hbreak)⟩

/-! ## Texts between single quotes -/

/-- Characters between single quotes, where a single quote is written twice. -/
theorem scan_solid {cs : List Char} (hcs : ∀ c ∈ cs, isGap c = false) {text out rest : List Char}
    (h : Scan '\'' text out rest) :
    Scan '\'' ((cs.flatMap fun c => if c == '\'' then ['\'', '\''] else [c]) ++ text) (cs ++ out) rest := by
  induction cs with
  | nil => exact h
  | cons c cs ih =>
    rw [List.forall_mem_cons] at hcs
    rw [List.flatMap_cons, List.append_assoc, List.cons_append]
    by_cases hquote : c = '\''
    · subst hquote
      exact (ih hcs.2).pair
    rw [if_neg (by simpa using hquote)]
    by_cases hforeign : c = '"' ∨ c = '\\'
    · exact (ih hcs.2).foreign (.inr ⟨by decide, hforeign⟩)
    · refine (ih hcs.2).ordinary ?_
      simpa [isOrdinary, hcs.1, hquote] using hforeign

theorem scan_spaces (n : Nat) {text out rest : List Char} (h : Scan '\'' text out rest)
    (htext : isGap (text.headD '\x00') = false) :
    Scan '\'' (List.replicate n ' ' ++ text) (List.replicate n ' ' ++ out) rest := by
  induction n with
  | zero => exact h
  | succ n ih =>
    rw [List.replicate_succ, List.cons_append, List.cons_append]
    refine ih.space rfl ?_
    rw [isGap, Bool.or_eq_false_iff] at htext
    rw [List.dropWhile_append_of_pos fun c hc => by rw [List.eq_of_mem_replicate hc]; rfl]
    cases text with
    | nil => exact htext.2
    | cons c text =>
      rw [List.dropWhile_cons_of_neg (Bool.not_eq_true _ ▸ htext.1)]
      exact htext.2

theorem scan_breaks {indent : Nat} (hindent : 0 < indent) {cs : List Char} (hcs : (Run.breaks cs).Holds)
    {text out rest : List Char} (h : Scan '\'' text out rest) (htext : isGap (text.headD '\x00') = false) :
    Scan '\'' (breakText indent cs ++ text) ((Run.breaks cs).back ++ out) rest := by
  obtain ⟨hne, hbreak⟩ := hcs
  obtain ⟨b, bs, rfl⟩ := List.exists_cons_of_ne_nil hne
  by_cases hfeed : b = '\n'
  · subst hfeed
    exact h.breaks rfl htext (List.forall_mem_cons.mpr ⟨rfl, hbreak⟩) hindent
  · have hbreaks := h.breaks rfl htext hbreak hindent
    simpa [breakText, Run.back, hfeed] using hbreaks

/-- What comes behind spaces or line breaks is no gap. -/
theorem isGap_foldRuns {indent column : Nat} {rs : List Run} (hholds : ∀ r ∈ rs, r.Holds)
    (hsolid : ∀ r ∈ rs.head?, r.isSolid = true) (rest : List Char) :
    isGap ((foldRuns 1 indent false column rs ++ '\'' :: rest).headD '\x00') = false := by
  cases rs with
  | nil => rfl
  | cons r rs =>
    cases r with
    | spaces => exact absurd (hsolid _ rfl) Bool.false_ne_true
    | breaks => exact absurd (hsolid _ rfl) Bool.false_ne_true
    | solid cs =>
      obtain ⟨hne, hgap⟩ := hholds _ List.mem_cons_self
      obtain ⟨c, cs, rfl⟩ := List.exists_cons_of_ne_nil hne
      have hc := hgap c List.mem_cons_self
      rw [foldRuns, if_neg Nat.one_ne_zero, List.flatMap_cons]
      split_ifs
      · rfl
      · exact hc

/-- **A text between single quotes** is read back run by run. -/
theorem scan_foldRuns {indent : Nat} (hindent : 0 < indent) {rs : List Run} (hholds : ∀ r ∈ rs, r.Holds)
    (hchain : rs.IsChain Run.Apart) (isFirst : Bool) (column : Nat) {rest : List Char}
    (hrest : rest.head? ≠ some '\'') :
    Scan '\'' (foldRuns 1 indent isFirst column rs ++ '\'' :: rest) (rs.flatMap Run.back) rest := by
  induction rs generalizing isFirst column with
  | nil => exact .single hrest
  | cons r rs ih =>
    rw [List.forall_mem_cons] at hholds
    have hbehind (column : Nat) := ih hholds.2 hchain.tail false column
    -- behind spaces or line breaks stands a solid run, or the closing quote
    have hgap (hr : r.isSolid = false) (column : Nat) :
        isGap ((foldRuns 1 indent false column rs ++ '\'' :: rest).headD '\x00') = false := by
      refine isGap_foldRuns hholds.2 (fun r' hr' => ?_) rest
      have hapart := (List.isChain_cons.mp hchain).1 r' hr'
      rw [Run.Apart, hr] at hapart
      exact Bool.eq_true_of_not_eq_false hapart.symm
    rw [List.flatMap_cons]
    cases r with
    | solid cs =>
      rw [foldRuns, if_neg Nat.one_ne_zero, List.append_assoc]
      exact scan_solid hholds.1.2 (hbehind _)
    | spaces n =>
      rw [foldRuns]
      split
      · rename_i hfold
        simp only [Bool.and_eq_true, decide_eq_true_eq] at hfold
        obtain ⟨⟨⟨rfl, -⟩, -⟩, -⟩ := hfold
        have hline : ∀ c ∈ ['\n'], isWrittenBreak c = true := List.forall_mem_singleton.mpr rfl
        rw [List.append_assoc]
        exact (hbehind _).breaks rfl (hgap rfl _) hline hindent
      · rw [List.append_assoc]
        exact scan_spaces n (hbehind _) (hgap rfl _)
    | breaks cs =>
      rw [foldRuns, List.append_assoc]
      exact scan_breaks hindent hholds.1 (hbehind _) (hgap rfl _)

/-- What is read back of a text between single quotes. -/
def singleBack (cs : List Char) : List Char :=
  (runs cs).flatMap Run.back

theorem readBreak_ne (c : Char) : Cursor.readBreak c ≠ '\u0085' := by
  rw [Cursor.readBreak]
  split
  · decide
  · assumption

theorem map_readBreak {cs : List Char} (h : '\u0085' ∉ cs) : cs.map Cursor.readBreak = cs := by
  have hkeep (c : Char) (hc : c ∈ cs) : Cursor.readBreak c = c := if_neg fun heq : c = '\u0085' => h (heq ▸ hc)
  exact (List.map_congr_left hkeep).trans (List.map_id cs)

theorem mem_foldBreaks {c : Char} {first others : List Char} (h : c ∈ Cursor.foldBreaks first others) :
    c ∈ first ∨ c ∈ others ∨ c = ' ' := by
  rw [Cursor.foldBreaks] at h
  split_ifs at h
  · exact (List.mem_append.mp h).imp_right .inl
  · exact .inr (.inr (List.mem_singleton.mp h))
  · exact .inr (.inl h)

theorem back_eq_chars {r : Run} (h : '\u0085' ∉ r.chars) : r.back = r.chars := by
  cases r with
  | breaks cs =>
    cases cs with
    | nil => rfl
    | cons b bs =>
      have hrest := map_readBreak h
      obtain ⟨hb, hbs⟩ := List.cons.inj hrest
      by_cases hfeed : b = '\n'
      · simp [Run.back, Run.chars, Cursor.foldBreaks, hfeed, hbs, Cursor.readBreak]
      · simp [Run.back, Run.chars, Cursor.foldBreaks, hfeed, hb, hbs]
  | _ => rfl

theorem not_mem_back {r : Run} (h : r.Holds) : '\u0085' ∉ r.back := by
  cases r with
  | spaces n => exact fun hmem => absurd (List.eq_of_mem_replicate hmem) (by decide)
  | solid cs => exact fun hmem => absurd (h.2 _ hmem) (by decide)
  | breaks cs =>
    have hmap (ds : List Char) : '\u0085' ∉ ds.map Cursor.readBreak := by
      simpa using fun c _ => readBreak_ne c
    cases cs with
    | nil => exact List.not_mem_nil
    | cons b bs =>
      intro hmem
      rcases mem_foldBreaks hmem with hfirst | hothers | hspace
      · exact hmap [b] hfirst
      · exact hmap _ hothers
      · exact absurd hspace (by decide)

/-- A text between single quotes is read back unless it holds the line break `U+0085`. -/
theorem singleBack_eq_iff {cs : List Char} (h : allowsSingle cs = true) : singleBack cs = cs ↔ '\u0085' ∉ cs := by
  obtain ⟨hholds, -⟩ := runs_spec h
  constructor
  · intro heq hmem
    rw [← heq, singleBack, List.mem_flatMap] at hmem
    obtain ⟨r, hr, hmem⟩ := hmem
    exact not_mem_back (hholds r hr) hmem
  · intro hmem
    have hchars := chars_runs cs
    calc singleBack cs = (runs cs).flatMap Run.chars :=
          List.flatMap_congr fun r hr => back_eq_chars fun hr' => hmem (hchars ▸ List.mem_flatMap.mpr ⟨r, hr, hr'⟩)
      _ = cs := hchars

/-! ## The characters that are written -/

theorem not_special_hexPadded (width n : Nat) :
    ∀ d ∈ (Text.hexPadded width n).map Char.toUpper, isSpecial d = false := by
  have hdigit {k : Nat} (h : k < 16) : isSpecial (Text.hexDigit k).toUpper = false := by
    decide +revert
  induction width with
  | zero => exact List.forall_mem_nil _
  | succ width ih =>
    rw [Text.hexPadded, List.map_cons, List.forall_mem_cons]
    exact ⟨hdigit (Nat.mod_lt _ (by decide)), ih⟩

theorem not_special_escapeLetter {c letter : Char} (h : ScalarStyle.escapeLetter? c = some letter) :
    isSpecial letter = false := by
  rw [ScalarStyle.escapeLetter?] at h
  split at h <;> cases h <;> rfl

theorem not_special_escape (c : Char) : ∀ d ∈ escape c, isSpecial d = false := by
  rw [escape]
  split
  · rename_i hletter
    simpa using ⟨rfl, not_special_escapeLetter hletter⟩
  · have hdigits (width : Nat) := not_special_hexPadded width c.toNat
    split_ifs <;> simp only [List.forall_mem_cons] <;> exact ⟨rfl, rfl, hdigits _⟩

theorem not_special_of_isDirect {c : Char} (h : isDirect c = true) : isSpecial c = false := by
  simp only [isDirect, isSpecial, Bool.and_eq_true, Bool.or_eq_true, bne_iff_ne, decide_eq_true_eq, Bool.not_eq_false',
    beq_iff_eq] at h ⊢
  omega

theorem not_special_newLine (indent : Nat) : ∀ d ∈ newLine indent, isSpecial d = false := by
  rw [newLine, List.forall_mem_cons]
  exact ⟨rfl, fun d hd => by rw [List.eq_of_mem_replicate hd]; rfl⟩

theorem not_special_escapeFrom (indent : Nat) (isFirst afterEscape : Bool) (column : Nat) (cs : List Char) :
    ∀ d ∈ escapeFrom indent isFirst afterEscape column cs, isSpecial d = false := by
  have hfold (c : Char) : ∀ d ∈ foldBefore indent c, isSpecial d = false := by
    rw [foldBefore, List.cons_append, List.forall_mem_cons, List.forall_mem_append]
    refine ⟨rfl, not_special_newLine indent, ?_⟩
    split
    · exact List.forall_mem_singleton.mpr rfl
    · exact List.forall_mem_nil _
  induction cs generalizing isFirst afterEscape column with
  | nil => exact List.forall_mem_nil _
  | cons c cs ih =>
    cases hdirect : isDirect c with
    | true =>
      have hc := not_special_of_isDirect hdirect
      rw [escapeFrom_direct hdirect]
      split
      · exact List.forall_mem_append.mpr ⟨hfold c, List.forall_mem_cons.mpr ⟨hc, ih _ _ _⟩⟩
      · exact List.forall_mem_cons.mpr ⟨hc, ih _ _ _⟩
    | false =>
      rw [escapeFrom_escape hdirect, List.forall_mem_append]
      refine ⟨not_special_escape c, ?_⟩
      split
      · exact List.forall_mem_append.mpr ⟨hfold _, ih _ _ _⟩
      · exact ih _ _ _

theorem not_special_foldRuns (quoteWidth indent : Nat) (isFirst : Bool) (column : Nat) {rs : List Run}
    (h : ∀ c ∈ rs.flatMap Run.chars, isSpecial c = false) :
    ∀ d ∈ foldRuns quoteWidth indent isFirst column rs, isSpecial d = false := by
  have hspaces (n : Nat) : ∀ d ∈ List.replicate n ' ', isSpecial d = false := fun d hd => by
    rw [List.eq_of_mem_replicate hd]
    rfl
  -- folding puts in quotes, spaces and line breaks only
  induction rs generalizing isFirst column with
  | nil => exact List.forall_mem_nil _
  | cons r rs ih =>
    rw [List.flatMap_cons, List.forall_mem_append] at h
    cases r with
    | solid cs =>
      rw [foldRuns, List.forall_mem_append]
      refine ⟨?_, ih _ _ h.2⟩
      split
      · exact h.1
      · intro d hd
        obtain ⟨c, hc, hd⟩ := List.mem_flatMap.mp hd
        split at hd
        · simp only [List.mem_cons, List.not_mem_nil, or_false, or_self] at hd
          rw [hd]
          rfl
        · rw [List.mem_singleton.mp hd]
          exact h.1 c hc
    | spaces n =>
      rw [foldRuns]
      split
      · exact List.forall_mem_append.mpr ⟨not_special_newLine indent, ih _ _ h.2⟩
      · exact List.forall_mem_append.mpr ⟨hspaces n, ih _ _ h.2⟩
    | breaks cs =>
      rw [foldRuns, breakText]
      refine List.forall_mem_append.mpr ⟨List.forall_mem_append.mpr ⟨List.forall_mem_append.mpr ⟨?_, h.1⟩,
        hspaces indent⟩, ih _ _ h.2⟩
      split
      · exact List.forall_mem_singleton.mpr rfl
      · exact List.forall_mem_nil _

/-- No special character is written, in whatever style. -/
theorem not_special_write {schema : Schema} {s : String} (indent column : Nat) :
    ∀ d ∈ write (choose schema s) indent column s.toList, isSpecial d = false := by
  have hchars {quoteWidth column : Nat} (h : allowsSingle s.toList = true) :
      ∀ d ∈ foldRuns quoteWidth indent true column (runs s.toList), isSpecial d = false := by
    refine not_special_foldRuns _ _ _ _ ?_
    rw [chars_runs]
    simp only [allowsSingle, Bool.and_eq_true, Bool.not_eq_true', List.any_eq_false] at h
    exact fun c hc => Bool.eq_false_iff.mpr (h.1.1 c hc)
  rw [choose]
  split_ifs with hplain hsingle
  · simp only [allowsPlain, Bool.and_eq_true] at hplain
    exact hchars hplain.2.1.1.1.1
  · rw [write, List.forall_mem_append, List.forall_mem_cons]
    exact ⟨⟨rfl, hchars hsingle⟩, List.forall_mem_singleton.mpr rfl⟩
  · rw [write, List.forall_mem_append, List.forall_mem_cons]
    exact ⟨⟨rfl, not_special_escapeFrom _ _ _ _ _⟩, List.forall_mem_singleton.mpr rfl⟩

end ScalarStyle

end CommandWrap.Yaml
