import CommandWrap.Proofs.Outcomes
import CommandWrap.Yaml.ScalarStyle
import CommandWrap.Yaml.ScalarText
import Mathlib

/-!
# Reading between quotes

What a reader of a quoted scalar makes of a text does not depend on where the text stands, or on how many steps
the reader may take, as long as they are enough: `Scan` relates the text behind the opening quote to what is
read and to what is left behind the closing quote.  It is built up from the back, by one character, escape or
line break at a time.
-/
namespace CommandWrap.Yaml

/-! ## Positions -/

namespace Cursor

theorem rest_advance (c : Cursor) : c.advance.rest = c.rest.tail := by
  unfold advance
  split
  · rename_i h
    rw [h]
    rfl
  · rename_i h
    rw [h]
    split_ifs <;> rfl

theorem rest_advanceBy (n : Nat) (c : Cursor) : (advanceBy n c).rest = c.rest.drop n := by
  induction n generalizing c with
  | zero => rfl
  | succ n ih => rw [advanceBy, ih, rest_advance, List.drop_tail]

theorem rest_takeWhile (p : Char → Bool) (c : Cursor) : (c.takeWhile p).2.rest = c.rest.dropWhile p := by
  have hsplit : c.rest.takeWhile p ++ c.rest.dropWhile p = c.rest := List.takeWhile_append_dropWhile
  calc (c.takeWhile p).2.rest = c.rest.drop (c.rest.takeWhile p).length := rest_advanceBy ..
    _ = (c.rest.takeWhile p ++ c.rest.dropWhile p).drop (c.rest.takeWhile p).length := by rw [hsplit]
    _ = c.rest.dropWhile p := List.drop_left

variable {cur : Cursor} {c : Char} {rest : List Char}

theorem peek_eq (h : cur.rest = c :: rest) : cur.peek = c := by
  rw [peek, h]
  rfl

theorem peekAt_one (h : cur.rest = c :: rest) : cur.peekAt 1 = rest.headD '\x00' := by
  rw [peekAt, h]
  cases rest <;> rfl

theorem advance_rest (h : cur.rest = c :: rest) : cur.advance.rest = rest := by
  rw [rest_advance, h]
  rfl

theorem takeWhile_cons {p : Char → Bool} (h : cur.rest = c :: rest) (hc : p c = true) :
    cur.takeWhile p = (c :: (cur.advance.takeWhile p).1, (cur.advance.takeWhile p).2) := by
  have hrest := advance_rest h
  rw [takeWhile, takeWhile, h, hrest, List.takeWhile_cons_of_pos hc]
  rfl

theorem takeWhile_stop {p : Char → Bool} (h : p cur.peek = false) :
    cur.takeWhile p = ([], cur) := by
  have htaken : cur.rest.takeWhile p = [] := by
    cases hrest : cur.rest with
    | nil => rfl
    | cons c rest =>
      rw [peek_eq hrest] at h
      exact List.takeWhile_cons_of_neg (Bool.not_eq_true _ ▸ h)
  rw [takeWhile, htaken]
  rfl

/-! ### Line breaks -/

/-- What a line break that a writer leaves in a text is read as: the next line (`U+0085`) is a line feed. -/
def readBreak (c : Char) : Char :=
  if c = '\u0085' then '\n' else c

theorem isWrittenBreak_cases {b : Char} (h : ScalarStyle.isWrittenBreak b = true) :
    b = '\n' ∨ b = '\u0085' ∨ b = '\u2028' ∨ b = '\u2029' := by
  simpa [ScalarStyle.isWrittenBreak, or_assoc] using h

theorem isBreak_of_written {b : Char} (h : ScalarStyle.isWrittenBreak b = true) : isBreak b = true := by
  rcases isWrittenBreak_cases h with rfl | rfl | rfl | rfl <;> rfl

theorem lineBreak_eq (h : cur.rest = c :: rest) (hc : ScalarStyle.isWrittenBreak c = true) :
    cur.lineBreak = ([readBreak c], cur.advance) := by
  rw [lineBreak, peek_eq h]
  rcases isWrittenBreak_cases hc with rfl | rfl | rfl | rfl <;> rfl

theorem atSeparator_eq_false (h : cur.peek ≠ '-') (h' : cur.peek ≠ '.') : cur.atSeparator = false := by
  simp [atSeparator, atMarker, beq_eq_false_iff_ne.mpr h, beq_eq_false_iff_ne.mpr h']

theorem takeWhile_replicate {p : Char → Bool} (hc : p c = true) {n : Nat} (h : cur.rest = List.replicate n c ++ rest)
    (hrest : p (rest.headD '\x00') = false) :
    cur.takeWhile p = (List.replicate n c, cur.advanceBy n) := by
  have htaken : cur.rest.takeWhile p = List.replicate n c := by
    rw [h, List.takeWhile_append_of_pos fun d hd => List.eq_of_mem_replicate hd ▸ hc]
    cases rest with
    | nil => simp
    | cons d rest => rw [List.takeWhile_cons_of_neg (Bool.not_eq_true _ ▸ hrest), List.append_nil]
  rw [takeWhile, htaken, List.length_replicate]

theorem rest_advanceBy_replicate {n : Nat} (h : cur.rest = List.replicate n c ++ rest) :
    (cur.advanceBy n).rest = rest := by
  rw [rest_advanceBy, h, List.drop_left' List.length_replicate]

/-- Line breaks inside of a quoted scalar, and the indentation of the line behind them. -/
theorem flowBreaks_eq {bs : List Char} (hbs : ∀ b ∈ bs, ScalarStyle.isWrittenBreak b = true) {indent : Nat}
    (hindent : 0 < indent) (hrest : isGap (rest.headD '\x00') = false) (cur : Cursor) (f : List Char)
    (hcur : cur.rest = bs ++ List.replicate indent ' ' ++ rest) (hf : bs.length < f.length) :
    ∃ d, flowBreaks f cur = .ok (bs.map readBreak, d) ∧ d.rest = rest := by
  have hgap : isSpace (rest.headD '\x00') = false ∧ isBreak (rest.headD '\x00') = false := by
    simp only [isGap, isBreakOrEnd, Bool.or_eq_false_iff] at hrest
    exact ⟨hrest.1, hrest.2.1⟩
  -- on the breaks: only behind the last one are there spaces to skip
  induction bs generalizing cur f with
  | nil =>
    obtain ⟨g, f, rfl⟩ := List.exists_cons_of_ne_nil (List.ne_nil_of_length_pos (Nat.zero_lt_of_lt hf))
    obtain ⟨n, rfl⟩ := Nat.exists_eq_add_one.mpr hindent
    have hpeek : cur.peek = ' ' := peek_eq hcur
    rw [List.nil_append] at hcur
    have hbehind := rest_advanceBy_replicate hcur
    have hbreak : isBreak (cur.advanceBy (n + 1)).peek = false := by rw [peek, hbehind]; exact hgap.2
    rw [flowBreaks, atSeparator_eq_false (by rw [hpeek]; decide) (by rw [hpeek]; decide), skipWhile,
      takeWhile_replicate (by rfl) hcur hgap.1]
    exact ⟨_, by simp [hbreak], hbehind⟩
  | cons b bs ih =>
    obtain ⟨g, f, rfl⟩ := List.exists_cons_of_ne_nil (List.ne_nil_of_length_pos (Nat.zero_lt_of_lt hf))
    rw [List.forall_mem_cons] at hbs
    have hpeek : cur.peek = b := peek_eq hcur
    have hbreak := isBreak_of_written hbs.1
    have hne (c : Char) (hc : isBreak c = false) : b ≠ c := by
      rintro rfl
      rw [hbreak] at hc
      cases hc
    have hspace : isSpace cur.peek = false := by
      rw [hpeek]
      simp [isSpace, hne ' ' rfl, hne '\t' rfl]
    obtain ⟨d, hd, hrest⟩ := ih hbs.2 cur.advance f (advance_rest hcur) (Nat.lt_of_succ_lt_succ hf)
    refine ⟨d, ?_, hrest⟩
    rw [flowBreaks, atSeparator_eq_false (hpeek ▸ hne '-' rfl) (hpeek ▸ hne '.' rfl), skipWhile,
      takeWhile_stop hspace]
    simp [hpeek, hbreak, lineBreak_eq hcur hbs.1, hd]

end Cursor

theorem prepend_prepend (cs ds : List Char) (r : Scanned) : prepend cs (prepend ds r) = prepend (cs ++ ds) r := by
  cases r with
  | error fault => rfl
  | ok p => simp [prepend, Except.map]

theorem prepend_nil (r : Scanned) : prepend [] r = r := by
  cases r <;> rfl

theorem prepend_ok (cs text : List Char) (c : Cursor) : prepend cs (.ok (text, c)) = .ok (cs ++ text, c) :=
  rfl

/-! ## Behind the opening quote -/

/-- Read the characters ahead up to a gap, and then the rest of the scalar. -/
def scanFrom (quote : Char) (f f' : List Char) (c : Cursor) : Scanned := do
  let (solid, c) ← scanSolid (quote == '"') f c
  prepend solid (scanQuotedRest quote f' c)

theorem scanQuoted_eq (c : Cursor) :
    scanQuoted c = scanFrom c.peek ('\x00' :: c.rest) ('\x00' :: c.rest) c.advance :=
  rfl

/-- Characters that are read before a gap come first. -/
theorem scanFrom_prepend {quote : Char} {f f₁ f' cs : List Char} {c d : Cursor}
    (h : scanSolid (quote == '"') f c = prepend cs (scanSolid (quote == '"') f₁ d)) :
    scanFrom quote f f' c = prepend cs (scanFrom quote f₁ f' d) := by
  rw [scanFrom, scanFrom, h]
  cases scanSolid (quote == '"') f₁ d with
  | error fault => rfl
  | ok p => exact (prepend_prepend ..).symm

theorem scanFrom_stop {quote : Char} {f f' : List Char} {c : Cursor}
    (h : scanSolid (quote == '"') f c = .ok ([], c)) : scanFrom quote f f' c = scanQuotedRest quote f' c := by
  rw [scanFrom, h]
  exact prepend_nil _

/-- **The text behind an opening quote** is read as `out` up to the closing quote, and `rest` is left. -/
def Scan (quote : Char) (text out rest : List Char) : Prop :=
  ∀ (c : Cursor) (f f' : List Char), c.rest = text → text.length < f.length → text.length < f'.length →
    ∃ d, scanFrom quote f f' c = .ok (out, d) ∧ d.rest = rest

theorem Scan.scanQuoted {quote : Char} {text out rest : List Char} (h : Scan quote text out rest) {c : Cursor}
    (hc : c.rest = quote :: text) : ∃ d, Yaml.scanQuoted c = .ok (out, d) ∧ d.rest = rest := by
  rw [scanQuoted_eq, Cursor.peek_eq hc, hc]
  exact h _ _ _ (Cursor.advance_rest hc) (by simp) (by simp)

/-- Does the reader of a quoted scalar take the character as it is? -/
def isOrdinary (c : Char) : Bool :=
  c != '\'' && c != '"' && c != '\\' && !isGap c

section scanSolid

variable {double : Bool} {f rest : List Char} {c : Char} {cur : Cursor}

/-- What follows the ordinary characters that were read. -/
def solidFrom (double : Bool) (fuel run : List Char) (c : Cursor) : Scanned :=
  let ch := c.peek
  if !double && ch == '\'' && c.peekAt 1 == '\'' then
    prepend (run ++ ['\'']) (scanSolid double fuel (c.advanceBy 2))
  else if (double && ch == '\'') || (!double && (ch == '"' || ch == '\\')) then
    prepend (run ++ [ch]) (scanSolid double fuel c.advance)
  else if double && ch == '\\' then do
    let (cs, c) ← scanEscape fuel c.advance
    prepend (run ++ cs) (scanSolid double fuel c)
  else .ok (run, c)

theorem scanSolid_eq (double : Bool) (g : Char) (fuel : List Char) (cur : Cursor) :
    scanSolid double (g :: fuel) cur =
      solidFrom double fuel (cur.takeWhile isOrdinary).1 (cur.takeWhile isOrdinary).2 :=
  rfl

theorem solidFrom_cons (double : Bool) (fuel run : List Char) (x : Char) (cur : Cursor) :
    solidFrom double fuel (x :: run) cur = prepend [x] (solidFrom double fuel run cur) := by
  simp only [solidFrom]
  split_ifs
  · rw [prepend_prepend]
    rfl
  · rw [prepend_prepend]
    rfl
  · cases scanEscape fuel cur.advance with
    | error fault => rfl
    | ok p =>
      rw [bind_ok, bind_ok, prepend_prepend]
      rfl
  · rfl

theorem scanSolid_cons (hf : f ≠ []) (hrest : cur.rest = c :: rest) (hc : isOrdinary c = true) :
    scanSolid double f cur = prepend [c] (scanSolid double f cur.advance) := by
  obtain ⟨g, f, rfl⟩ := List.exists_cons_of_ne_nil hf
  rw [scanSolid_eq, scanSolid_eq, Cursor.takeWhile_cons hrest hc, solidFrom_cons]

theorem scanSolid_special {g : Char} (hc : isOrdinary cur.peek = false) :
    scanSolid double (g :: f) cur = solidFrom double f [] cur := by
  rw [scanSolid_eq, Cursor.takeWhile_stop hc]

/-- Before a gap nothing more is read. -/
theorem scanSolid_gap (hf : f ≠ []) (hc : isGap cur.peek = true) : scanSolid double f cur = .ok ([], cur) := by
  obtain ⟨g, f, rfl⟩ := List.exists_cons_of_ne_nil hf
  rw [scanSolid_special (by simp [isOrdinary, hc])]
  have hne (d : Char) (hd : isGap d = false) : (cur.peek == d) = false := by
    rw [beq_eq_false_iff_ne]
    rintro rfl
    rw [hc] at hd
    cases hd
  simp [solidFrom, hne '\'' (by decide), hne '"' (by decide), hne '\\' (by decide)]

end scanSolid

/-! ## One step at a time -/

namespace Scan

variable {quote c : Char} {text out rest : List Char}

/-- The closing quote. -/
theorem single (h : rest.head? ≠ some '\'') : Scan '\'' ('\'' :: rest) [] rest := by
  intro cur f f' hcur hf hf'
  obtain ⟨g, f, rfl⟩ := List.exists_cons_of_ne_nil (List.ne_nil_of_length_pos (Nat.zero_lt_of_lt hf))
  obtain ⟨g', f', rfl⟩ := List.exists_cons_of_ne_nil (List.ne_nil_of_length_pos (Nat.zero_lt_of_lt hf'))
  have hpeek := Cursor.peek_eq hcur
  have hnext : (cur.peekAt 1 == '\'') = false := by
    rw [Cursor.peekAt_one hcur]
    cases rest with
    | nil => rfl
    | cons d rest => simpa using h
  refine ⟨cur.advance, ?_, Cursor.advance_rest hcur⟩
  rw [scanFrom_stop, scanQuotedRest, hpeek]
  · rfl
  · rw [scanSolid_special (by rw [hpeek]; rfl)]
    simp [solidFrom, hpeek, hnext]

/-- The closing quote of a text with escapes. -/
theorem double : Scan '"' ('"' :: rest) [] rest := by
  intro cur f f' hcur hf hf'
  obtain ⟨g, f, rfl⟩ := List.exists_cons_of_ne_nil (List.ne_nil_of_length_pos (Nat.zero_lt_of_lt hf))
  obtain ⟨g', f', rfl⟩ := List.exists_cons_of_ne_nil (List.ne_nil_of_length_pos (Nat.zero_lt_of_lt hf'))
  have hpeek := Cursor.peek_eq hcur
  refine ⟨cur.advance, ?_, Cursor.advance_rest hcur⟩
  rw [scanFrom_stop, scanQuotedRest, hpeek]
  · rfl
  · rw [scanSolid_special (by rw [hpeek]; rfl)]
    simp [solidFrom, hpeek]

/-- Characters that are read before a gap. -/
theorem solid {text' : List Char} (cs : List Char) (h : Scan quote text' out rest) (hlength : text'.length < text.length)
    (hstep : ∀ (cur : Cursor) (f : List Char), cur.rest = text → text.length < f.length →
      ∃ d f₁, d.rest = text' ∧ text'.length < f₁.length ∧
        scanSolid (quote == '"') f cur = prepend cs (scanSolid (quote == '"') f₁ d)) :
    Scan quote text (cs ++ out) rest := by
  intro cur f f' hcur hf hf'
  obtain ⟨d, f₁, hd, hf₁, hsolid⟩ := hstep cur f hcur hf
  obtain ⟨e, he, hrest⟩ := h d f₁ f' hd hf₁ (hlength.trans hf')
  exact ⟨e, by rw [scanFrom_prepend hsolid, he, prepend_ok], hrest⟩

theorem ordinary (h : Scan quote text out rest) (hc : isOrdinary c = true) : Scan quote (c :: text) (c :: out) rest := by
  refine h.solid [c] (Nat.lt_add_one _) fun cur f hcur hf => ?_
  have hne : f ≠ [] := List.ne_nil_of_length_pos (Nat.zero_lt_of_lt hf)
  exact ⟨cur.advance, f, Cursor.advance_rest hcur, Nat.lt_of_succ_lt hf, scanSolid_cons hne hcur hc⟩

/-- A quote that does not close the text, or a backslash between single quotes. -/
theorem foreign (h : Scan quote text out rest)
    (hc : quote = '"' ∧ c = '\'' ∨ quote ≠ '"' ∧ (c = '"' ∨ c = '\\')) : Scan quote (c :: text) (c :: out) rest := by
  refine h.solid [c] (Nat.lt_add_one _) fun cur f hcur hf => ?_
  obtain ⟨g, f, rfl⟩ := List.exists_cons_of_ne_nil (List.ne_nil_of_length_pos (Nat.zero_lt_of_lt hf))
  refine ⟨cur.advance, f, Cursor.advance_rest hcur, Nat.lt_of_succ_lt_succ hf, ?_⟩
  have hpeek := Cursor.peek_eq hcur
  rcases hc with ⟨rfl, rfl⟩ | ⟨hquote, rfl | rfl⟩
  · rw [scanSolid_special (by rw [hpeek]; rfl), solidFrom, hpeek]
    simp
  · rw [scanSolid_special (by rw [hpeek]; rfl), solidFrom, hpeek, beq_eq_false_iff_ne.mpr hquote]
    simp
  · rw [scanSolid_special (by rw [hpeek]; rfl), solidFrom, hpeek, beq_eq_false_iff_ne.mpr hquote]
    simp

/-- A single quote that is written twice. -/
theorem pair (h : Scan '\'' text out rest) : Scan '\'' ('\'' :: '\'' :: text) ('\'' :: out) rest := by
  refine h.solid ['\''] (Nat.lt_add_of_pos_right Nat.two_pos) fun cur f hcur hf => ?_
  obtain ⟨g, f, rfl⟩ := List.exists_cons_of_ne_nil (List.ne_nil_of_length_pos (Nat.zero_lt_of_lt hf))
  have hpeek := Cursor.peek_eq hcur
  have hnext := Cursor.peekAt_one hcur
  have hrest : (cur.advanceBy 2).rest = text := by
    rw [Cursor.rest_advanceBy, hcur]
    rfl
  refine ⟨cur.advanceBy 2, f, hrest, Nat.lt_of_succ_lt (Nat.lt_of_succ_lt_succ hf), ?_⟩
  rw [scanSolid_special (by rw [hpeek]; rfl), solidFrom, hpeek, hnext]
  simp

/-- An escape. -/
theorem escape {text' : List Char} (cs : List Char) (h : Scan '"' text' out rest) (hlength : text'.length ≤ text.length)
    (hescape : ∀ (cur : Cursor) (f : List Char), cur.rest = text → text.length < f.length →
      ∃ d, scanEscape f cur = .ok (cs, d) ∧ d.rest = text') :
    Scan '"' ('\\' :: text) (cs ++ out) rest := by
  refine h.solid cs (Nat.lt_succ_of_le hlength) fun cur f hcur hf => ?_
  obtain ⟨g, f, rfl⟩ := List.exists_cons_of_ne_nil (List.ne_nil_of_length_pos (Nat.zero_lt_of_lt hf))
  have hpeek := Cursor.peek_eq hcur
  have hf : text.length < f.length := Nat.lt_of_succ_lt_succ hf
  obtain ⟨d, hd, hrest⟩ := hescape cur.advance f (Cursor.advance_rest hcur) hf
  refine ⟨d, f, hrest, Nat.lt_of_le_of_lt hlength hf, ?_⟩
  rw [scanSolid_special (by rw [hpeek]; rfl), solidFrom, hpeek, hd]
  simp [bind_ok]

/-- A line that ends behind a backslash. -/
theorem fold (h : Scan '"' text out rest) (htext : isGap (text.headD '\x00') = false) {indent : Nat}
    (hindent : 0 < indent) : Scan '"' ('\\' :: ScalarStyle.newLine indent ++ text) out rest := by
  refine h.escape [] (by simp [ScalarStyle.newLine]; omega) fun cur f hcur hf => ?_
  have hpeek := Cursor.peek_eq hcur
  obtain ⟨d, hd, hrest⟩ := Cursor.flowBreaks_eq (List.forall_mem_nil _) hindent htext cur.advance f
    (Cursor.advance_rest hcur) (Nat.zero_lt_of_lt hf)
  refine ⟨d, ?_, hrest⟩
  rw [scanEscape, hpeek, Cursor.lineBreak_eq hcur rfl]
  exact hd

/-- A letter that stands for a character. -/
theorem letter {letter : Char} (h : Scan '"' text out rest) (hletter : escapeLetter? letter = some c) :
    Scan '"' ('\\' :: letter :: text) (c :: out) rest := by
  refine h.escape [c] (by simp) fun cur f hcur hf => ?_
  have hpeek := Cursor.peek_eq hcur
  refine ⟨cur.advance, ?_, Cursor.advance_rest hcur⟩
  rw [scanEscape, hpeek, hletter]

/-- The digits of a code point. -/
theorem code {letter : Char} {digits : List Char} {width code : Nat} (h : Scan '"' text out rest)
    (hletter : escapeLetter? letter = none) (hwidth : escapeWidth? letter = some width)
    (hdigits : digits.length = width) (hcode : Text.hexNumber? digits = some code) (hlt : code < 0x110000) :
    Scan '"' ('\\' :: letter :: (digits ++ text)) (Char.ofNat code :: out) rest := by
  refine h.escape [Char.ofNat code] (by simp; omega) fun cur f hcur hf => ?_
  have hpeek := Cursor.peek_eq hcur
  have hrest := Cursor.advance_rest hcur
  refine ⟨cur.advance.advanceBy width, ?_, ?_⟩
  · have htake : cur.advance.rest.take width = digits := by rw [hrest, ← hdigits, List.take_left]
    rw [scanEscape, hpeek, hletter, hwidth]
    simp only [scanCode, htake, hdigits, if_true, hcode, hlt]
    rfl
  · rw [Cursor.rest_advanceBy, hrest, ← hdigits, List.drop_left]

/-- At a gap, the spaces or line breaks come first. -/
theorem scanFrom_gap (hquote : isGap quote = false) {cur : Cursor} (hgap : isGap cur.peek = true) {f : List Char}
    (hf : f ≠ []) (g : Char) (f' : List Char) :
    scanFrom quote f (g :: f') cur = scanInnerSpace f' cur >>= fun p => prepend p.1 (scanFrom quote f' f' p.2) := by
  have hne : (cur.peek == quote) = false := by
    rw [beq_eq_false_iff_ne]
    rintro rfl
    rw [hquote] at hgap
    cases hgap
  rw [scanFrom_stop (scanSolid_gap hf hgap), scanQuotedRest, hne]
  refine congrArg (scanInnerSpace f' cur >>= ·) (funext fun p => ?_)
  obtain ⟨spaces, c⟩ := p
  dsimp only
  rw [scanFrom]
  cases scanSolid (quote == '"') f' c with
  | error fault => rfl
  | ok solid => exact (prepend_prepend ..).symm

/-- Line breaks, and the indentation of the line behind them. -/
theorem breaks (h : Scan quote text out rest) (hquote : isGap quote = false)
    (htext : isGap (text.headD '\x00') = false) {b : Char} {bs : List Char}
    (hbs : ∀ c ∈ b :: bs, ScalarStyle.isWrittenBreak c = true) {indent : Nat} (hindent : 0 < indent) :
    Scan quote (b :: bs ++ List.replicate indent ' ' ++ text)
      (Cursor.foldBreaks [Cursor.readBreak b] (bs.map Cursor.readBreak) ++ out) rest := by
  intro cur f f' hcur hf hf'
  obtain ⟨g', f', rfl⟩ := List.exists_cons_of_ne_nil (List.ne_nil_of_length_pos (Nat.zero_lt_of_lt hf'))
  rw [List.forall_mem_cons] at hbs
  have hpeek := Cursor.peek_eq hcur
  have hbreak := Cursor.isBreak_of_written hbs.1
  have hgap : isGap cur.peek = true := by simp [hpeek, isGap, isBreakOrEnd, hbreak]
  have hlength : bs.length < f'.length ∧ text.length < f'.length := by
    simp only [List.length_cons, List.length_append, List.length_replicate] at hf'
    omega
  obtain ⟨d, hd, hdrest⟩ := Cursor.flowBreaks_eq hbs.2 hindent htext cur.advance f' (Cursor.advance_rest hcur) hlength.1
  obtain ⟨e, he, hrest⟩ := h d f' f' hdrest hlength.2 hlength.2
  have hspace : scanInnerSpace f' cur =
      .ok (Cursor.foldBreaks [Cursor.readBreak b] (bs.map Cursor.readBreak), d) := by
    have hblank : isSpace b = false ∧ (b == '\x00') = false := by
      rcases Cursor.isWrittenBreak_cases hbs.1 with rfl | rfl | rfl | rfl <;> decide
    rw [scanInnerSpace, Cursor.takeWhile_stop (hpeek ▸ hblank.1)]
    simp only [hblank.2, hpeek, hbreak, Cursor.lineBreak_eq hcur hbs.1, if_true, if_false, Bool.false_eq_true]
    rw [hd]
    rfl
  refine ⟨e, ?_, hrest⟩
  rw [scanFrom_gap hquote hgap (List.ne_nil_of_length_pos (Nat.zero_lt_of_lt hf)), hspace, bind_ok, he]
  rfl

theorem scanInnerSpace_solid {f : List Char} {c : Cursor} (h : isBreakOrEnd (c.takeWhile isSpace).2.peek = false) :
    scanInnerSpace f c = .ok (c.takeWhile isSpace) := by
  rw [isBreakOrEnd, Bool.or_eq_false_iff] at h
  simp [scanInnerSpace, h.1, beq_eq_false_iff_ne.mp h.2]

/-- A space that does not come before a line break. -/
theorem space (h : Scan quote text out rest) (hquote : isGap quote = false)
    (htext : isBreakOrEnd ((text.dropWhile isSpace).headD '\x00') = false) :
    Scan quote (' ' :: text) (' ' :: out) rest := by
  intro cur f f' hcur hf hf'
  obtain ⟨g', f', rfl⟩ := List.exists_cons_of_ne_nil (List.ne_nil_of_length_pos (Nat.zero_lt_of_lt hf'))
  have hpeek := Cursor.peek_eq hcur
  have hadvance := Cursor.advance_rest hcur
  have hf' : text.length < f'.length := Nat.lt_of_succ_lt_succ hf'
  have hgap : isGap cur.peek = true := by rw [hpeek]; rfl
  have hfne : f ≠ [] := List.ne_nil_of_length_pos (Nat.zero_lt_of_lt hf)
  have hspaces := Cursor.takeWhile_cons (p := isSpace) hcur rfl
  have hbehind : isBreakOrEnd (cur.advance.takeWhile isSpace).2.peek = false := by
    rw [Cursor.peek, Cursor.rest_takeWhile, hadvance]
    exact htext
  have hinner := scanInnerSpace_solid (f := f') (c := cur) (by rw [hspaces]; exact hbehind)
  rw [hspaces] at hinner
  rw [scanFrom_gap hquote hgap hfne, hinner, bind_ok]
  cases hhead : isSpace cur.advance.peek with
  | false =>
    obtain ⟨d, hd, hrest⟩ := h cur.advance f' f' hadvance hf' hf'
    rw [Cursor.takeWhile_stop hhead, hd]
    exact ⟨d, rfl, hrest⟩
  | true =>
    -- the spaces behind this one are read in the same way from the next position on
    obtain ⟨d, hd, hrest⟩ := h cur.advance f (g' :: f') hadvance (Nat.lt_of_succ_lt hf) (Nat.lt_succ_of_lt hf')
    have hgap' : isGap cur.advance.peek = true := by simp [isGap, hhead]
    rw [scanFrom_gap hquote hgap' hfne, scanInnerSpace_solid hbehind, bind_ok] at hd
    refine ⟨d, ?_, hrest⟩
    change prepend (' ' :: (cur.advance.takeWhile isSpace).1) _ = _
    rw [← List.singleton_append, ← prepend_prepend, hd]
    rfl

end Scan

end CommandWrap.Yaml
