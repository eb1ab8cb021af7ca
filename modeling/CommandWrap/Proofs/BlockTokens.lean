import CommandWrap.Proofs.PlainScalars
import CommandWrap.Yaml.Lexer

/-!
# The tokens of blocks

What a lexer still has to give depends on the text ahead, the column and the block collections that are open.
`Lexes` says what comes of a lexer at a token, and `Follows` what comes of it before the spaces in front of one.
Both are built up from the end of the text; the tokens in front are those of one entry or item at a time.
-/
namespace CommandWrap.Yaml

/-! ## The blocks around a position -/

/-- The block collections that are open, and the tokens so far. -/
structure Blocks where
  /-- The indentation of the innermost collection. -/
  indent : Int
  /-- The indentations of the collections around it. -/
  outer : List Int
  /-- The tokens, the latest first. -/
  tokens : List Token

namespace Blocks

/-- Close the collections that are indented deeper than a column. -/
def closeFrom (column : Int) : List Int → Blocks → Blocks
  | [], b => b
  | next :: outer, b =>
    if b.indent > column then closeFrom column outer ⟨next, outer, .blockEnd :: b.tokens⟩ else b

/-- Close the collections that are indented deeper than a column. -/
def close (column : Int) (b : Blocks) : Blocks :=
  closeFrom column b.outer b

/-- Add tokens in their order. -/
def add (ts : List Token) (b : Blocks) : Blocks :=
  { b with tokens := ts.reverse ++ b.tokens }

/-- Open a mapping at a column, unless one is open there. -/
def openAt (column : Nat) (b : Blocks) : Blocks :=
  if b.indent < column then ⟨column, b.indent :: b.outer, .blockMappingStart :: b.tokens⟩ else b

variable {b : Blocks} {column : Int}

theorem close_of_le (h : b.indent ≤ column) : b.close column = b := by
  rw [close]
  cases b.outer with
  | nil => rfl
  | cons next outer => rw [closeFrom, if_neg (not_lt.mpr h)]

theorem close_opened (m : Nat) (h : column < m) (ts : List Token) :
    (⟨m, b.indent :: b.outer, ts⟩ : Blocks).close column = (⟨b.indent, b.outer, .blockEnd :: ts⟩ : Blocks).close column := by
  rw [close, closeFrom, if_pos h]
  rfl

theorem add_add (ts us : List Token) : (b.add ts).add us = b.add (ts ++ us) := by
  simp [add]

theorem openAt_of_le {m : Nat} (h : (m : Int) ≤ b.indent) : b.openAt m = b :=
  if_neg (not_lt.mpr h)

theorem indent_openAt {m : Nat} (h : b.indent ≤ m) : (b.openAt m).indent = m := by
  rw [openAt]
  split
  · rfl
  · omega

end Blocks

namespace Lexer

open ScalarStyle (BeginsPlain)

/-- **A lexer in blocks**: what is ahead, where it stands, and what it knows of the blocks. -/
structure At (s : Lexer) (text : List Char) (column : Nat) (allows : Bool) (b : Blocks) : Prop where
  rest : s.cursor.rest = text
  column : s.cursor.column = column
  level : s.level = 0
  keys : s.keys = []
  allowsKey : s.allowsKey = allows
  indent : s.indent = b.indent
  outer : s.outer = b.outer
  tokens : s.tokens = b.tokens
  count : s.count = s.tokens.length

/-- From a token on, the lexer gives these tokens in the end. -/
def Lexes (text : List Char) (column : Nat) (allows : Bool) (b : Blocks) (final : List Token) : Prop :=
  ∀ (s : Lexer) (fuel : Nat), At s text column allows b → text.length ≤ fuel →
    s.after (run fuel) s.fetch = (final, none)

/-- From a position on, the lexer gives these tokens in the end. -/
def Follows (text : List Char) (column : Nat) (allows : Bool) (b : Blocks) (final : List Token) : Prop :=
  ∀ (s : Lexer) (fuel : Nat), At s text column allows b → text.length ≤ fuel → run (fuel + 1) s = (final, none)

variable {s : Lexer} {text : List Char} {column : Nat} {allows : Bool} {b : Blocks} {final : List Token}

/-! ## Before a token -/

theorem at_unwind (h : At s text column allows b) (n : Int) : At (s.unwind n) text column allows (b.close n) := by
  rw [unwind, Blocks.close, h.outer]
  have hclose (outer : List Int) (s : Lexer) (b : Blocks) (h : At s text column allows b) (houter : b.outer = outer) :
      At (closeBlocks n outer s) text column allows (Blocks.closeFrom n outer b) := by
    induction outer generalizing s b with
    | nil => exact h
    | cons next outer ih =>
      rw [closeBlocks, Blocks.closeFrom, h.level, h.indent]
      by_cases hdeep : b.indent > n
      · rw [if_pos hdeep, if_pos (by simpa using hdeep)]
        refine ih _ _ ?_ rfl
        exact ⟨h.rest, h.column, rfl, h.keys, h.allowsKey, rfl, rfl, congrArg (Token.blockEnd :: ·) h.tokens,
          congrArg (· + 1) h.count⟩
      · rw [if_neg hdeep, if_neg (by simpa using hdeep)]
        exact h
  exact hclose b.outer s b h rfl

theorem dropStaleKeys_eq (h : s.keys = []) : s.dropStaleKeys = .ok s := by
  cases s
  cases h
  rfl

theorem dropKey_eq (h : s.keys = []) : s.dropKey = .ok s := by
  cases s
  cases h
  rfl

/-- What is done between two tokens. -/
theorem approach_eq {s' : Lexer} (hskip : s.skipToToken ('\x00' :: s.cursor.rest) = s') (hkeys : s'.keys = []) :
    s.approach = .ok (s'.unwind s'.cursor.column) := by
  rw [approach, hskip, dropStaleKeys_eq hkeys]
  rfl

theorem run_of_approach {s' : Lexer} {fuel : Nat} (h : s.approach = .ok s')
    (hlexes : s'.after (run fuel) s'.fetch = (final, none)) : run (fuel + 1) s = (final, none) := by
  rw [run, step, h, bind_ok]
  cases hfetch : s'.fetch with
  | error fault =>
    rw [hfetch] at hlexes
    cases hlexes
  | ok p =>
    obtain ⟨s'', isEnd⟩ := p
    rw [hfetch] at hlexes
    cases isEnd <;> exact hlexes

/-- What comes of a lexer that moved to a token. -/
theorem Lexes.run_of_skip {s' : Lexer} {fuel : Nat} (h : Lexes text column allows (b.close column) final)
    (hskip : s.skipToToken ('\x00' :: s.cursor.rest) = s') (hs' : At s' text column allows b)
    (hfuel : text.length ≤ fuel) : run (fuel + 1) s = (final, none) := by
  have hunwound := at_unwind hs' column
  have happroach := approach_eq hskip hs'.keys
  rw [hs'.column] at happroach
  exact run_of_approach happroach (h _ fuel hunwound hfuel)

/-- Spaces in front of a token. -/
theorem skipToToken_spaces (htext : IsToken text) {j : Nat} (hrest : s.cursor.rest = List.replicate j ' ' ++ text)
    {fuel : List Char} (hfuel : fuel ≠ []) : s.skipToToken fuel = s.at_ (s.cursor.advanceBy j) := by
  obtain ⟨g, fuel, rfl⟩ := List.exists_cons_of_ne_nil hfuel
  have hbehind := Cursor.rest_advanceBy_replicate hrest
  have hstop : (text.headD '\x00' == ' ') = false := by
    have hspace := htext.noSpace
    cases text with
    | nil => rfl
    | cons d text => simpa using hspace
  have hcomment : (s.cursor.advanceBy j).skipComment = s.cursor.advanceBy j := by
    have hpeek := peek_ne_comment htext.noComment hbehind
    rw [Cursor.skipComment, if_neg (by simpa using hpeek)]
  have hbreak : isBreak (s.cursor.advanceBy j).peek = false := by
    rw [Cursor.peek, hbehind]
    exact htext.noBreak
  rw [skipToToken, Cursor.skipSpaces, Cursor.skipWhile, Cursor.takeWhile_replicate rfl hrest hstop]
  simp [hcomment, hbreak]

/-- The end of a line and the spaces in front of a token. -/
theorem skipToToken_newLine (htext : IsToken text) {j : Nat}
    (hrest : s.cursor.rest = '\n' :: (List.replicate j ' ' ++ text)) (hlevel : s.level = 0) {g : Char}
    {fuel : List Char} (hfuel : fuel ≠ []) :
    s.skipToToken (g :: fuel) = { s with cursor := s.cursor.advance.advanceBy j, allowsKey := true } := by
  have hpeek : s.cursor.peek = '\n' := Cursor.peek_eq hrest
  have hspaces : s.cursor.skipSpaces = s.cursor := by
    rw [Cursor.skipSpaces, Cursor.skipWhile, Cursor.takeWhile_stop (by rw [hpeek]; rfl)]
  have hcomment : s.cursor.skipComment = s.cursor := by
    rw [Cursor.skipComment, hpeek]
    rfl
  have hline := Cursor.lineBreak_eq hrest rfl
  have hbehind : ({ s with cursor := s.cursor.advance, allowsKey := true } : Lexer).cursor.rest =
      List.replicate j ' ' ++ text := Cursor.advance_rest hrest
  have houtside : ((s.at_ s.cursor.advance).level == 0) = true := beq_iff_eq.mpr hlevel
  rw [skipToToken, hspaces, hcomment, hpeek]
  simp only [hline, houtside, if_true]
  exact skipToToken_spaces htext hbehind hfuel

theorem Lexes.behindSpaces {j : Nat} (h : Lexes text (column + j) allows (b.close ↑(column + j)) final)
    (htext : IsToken text) : Follows (List.replicate j ' ' ++ text) column allows b final := by
  intro s fuel hs hfuel
  have hskip := skipToToken_spaces htext hs.rest (List.cons_ne_nil '\x00' s.cursor.rest)
  have hcolumn : (s.cursor.advanceBy j).column = column + j := by
    rw [Cursor.column_spaces hs.rest, hs.column]
  have hmoved : At (s.at_ (s.cursor.advanceBy j)) text (column + j) allows b :=
    ⟨Cursor.rest_advanceBy_replicate hs.rest, hcolumn, hs.level, hs.keys, hs.allowsKey, hs.indent, hs.outer, hs.tokens,
      hs.count⟩
  refine h.run_of_skip hskip hmoved ?_
  rw [List.length_append] at hfuel
  omega

/-- At a token. -/
theorem Lexes.follows (h : Lexes text column allows (b.close column) final) (htext : IsToken text) :
    Follows text column allows b final :=
  h.behindSpaces (j := 0) htext

/-- At the end of the line in front of a token. -/
theorem Lexes.behindNewLine {j : Nat} (h : Lexes text j true (b.close j) final) (htext : IsToken text) :
    Follows ('\n' :: (List.replicate j ' ' ++ text)) column allows b final := by
  intro s fuel hs hfuel
  have hmore : s.cursor.rest ≠ [] := by
    rw [hs.rest]
    exact List.cons_ne_nil _ _
  have hskip := skipToToken_newLine htext hs.rest hs.level (g := '\x00') hmore
  obtain ⟨hcolumn, hrest⟩ := Cursor.column_newLine hs.rest
  have hmoved : At { s with cursor := s.cursor.advance.advanceBy j, allowsKey := true } text j true b :=
    ⟨hrest, hcolumn, hs.level, hs.keys, rfl, hs.indent, hs.outer, hs.tokens, hs.count⟩
  refine h.run_of_skip hskip hmoved ?_
  rw [List.length_cons, List.length_append] at hfuel
  omega

/-! ## One token -/

/-- The end of the text. -/
theorem lexes_end : Lexes [] column allows b (.streamEnd :: (b.close (-1)).tokens).reverse := by
  intro s fuel hs hfuel
  have hunwound := at_unwind hs (-1)
  have hpeek : s.cursor.peek = '\x00' := by
    rw [Cursor.peek, hs.rest]
    rfl
  have hbegin : s.beginLine = .ok { s.unwind (-1) with allowsKey := false } := by
    rw [beginLine, dropKey_eq hunwound.keys]
    rfl
  have hfetch : s.fetch = .ok (({ s.unwind (-1) with allowsKey := false } : Lexer).emit .streamEnd, true) := by
    rw [fetch, hpeek, hbegin]
    rfl
  rw [hfetch, ← hunwound.tokens]
  rfl

/-- What is fetched comes first. -/
theorem lexes_of_fetch (hfetch : ∀ s, At s text column allows b → ∃ s' text' column' allows' b',
      s.fetch = .ok (s', false) ∧ At s' text' column' allows' b' ∧ text'.length < text.length ∧
        Follows text' column' allows' b' final) : Lexes text column allows b final := by
  intro s fuel hs hfuel
  obtain ⟨s', text', column', allows', b', hfetch, hs', hlength, h⟩ := hfetch s hs
  obtain ⟨fuel, rfl⟩ := Nat.exists_eq_add_one.mpr (Nat.zero_lt_of_lt (hlength.trans_le hfuel))
  rw [hfetch]
  exact h s' fuel hs' (Nat.le_of_lt_succ (hlength.trans_le hfuel))

/-- The hyphen of an item. -/
theorem lexes_hyphen {m : Nat} (hindent : b.indent = m) (h : Follows (' ' :: text) (m + 1) true (b.add [.blockEntry]) final) :
    Lexes ('-' :: ' ' :: text) m true b final := by
  refine lexes_of_fetch fun s hs => ⟨(s.at_ s.cursor.advance).emit .blockEntry, _, _, _, _, ?_, ?_, Nat.lt_succ_self _, h⟩
  · have hpeek : s.cursor.peek = '-' := Cursor.peek_eq hs.rest
    have hnext : s.cursor.peekAt 1 = ' ' := Cursor.peekAt_one hs.rest
    have hmarker : s.cursor.atMarker '-' = false := by
      rw [Cursor.atMarker, hnext]
      simp
    have hmarker' : s.cursor.atMarker '.' = false := by
      rw [Cursor.atMarker, hpeek]
      rfl
    have hopen : s.openBlock s.cursor.column (·.emit .blockSequenceStart) = s := by
      rw [openBlock, hs.indent, hs.column, hindent, if_neg (lt_irrefl _)]
    have hallows : { s with allowsKey := true } = s := by
      rw [← hs.allowsKey]
    have hentry : s.fetchBlockEntry = .ok ((s.at_ s.cursor.advance).emit .blockEntry) := by
      have houtside : (s.level == 0) = true := beq_iff_eq.mpr hs.level
      rw [fetchBlockEntry, if_pos houtside, if_pos hs.allowsKey, hopen, pure_bind]
      dsimp only
      rw [hallows, dropKey_eq hs.keys]
      rfl
    have hgap : isGap ' ' = true := rfl
    rw [fetch]
    simp [hpeek, hnext, hmarker, hmarker', hentry, hgap]
  · have hcolumn := Cursor.column_advance hs.rest rfl (by decide)
    rw [hs.column] at hcolumn
    exact ⟨Cursor.advance_rest hs.rest, hcolumn, hs.level, hs.keys, hs.allowsKey, hs.indent, hs.outer,
      congrArg (Token.blockEntry :: ·) hs.tokens, congrArg (· + 1) hs.count⟩

/-- A text between quotes. -/
theorem lexes_quoted {q : Char} (hq : q = '\'' ∨ q = '"') {out rest : List Char} (hscan : Scan q text out rest)
    (hlength : rest.length ≤ text.length)
    (h : ∀ column, Follows rest column false (b.add [.scalar (String.ofList out) false]) final) :
    Lexes (q :: text) column false b final := by
  refine lexes_of_fetch fun s hs => ?_
  obtain ⟨d, hd, hrest⟩ := hscan.scanQuoted hs.rest
  have hpeek : s.cursor.peek = q := Cursor.peek_eq hs.rest
  have hmark : s.markKey = .ok s := by
    rw [markKey, if_neg (by simp [hs.allowsKey])]
    rfl
  have hkey : s.possibleKey quotedToken =
      .ok (({ s with allowsKey := false }.at_ d).emit (.scalar (String.ofList out) false)) := by
    rw [possibleKey, hmark, bind_ok, quotedToken, hd]
    rfl
  refine ⟨({ s with allowsKey := false }.at_ d).emit (.scalar (String.ofList out) false), rest, d.column, false, _, ?_, ?_,
    Nat.lt_succ_of_le hlength, h d.column⟩
  · rw [fetch]
    rcases hq with rfl | rfl <;> simp [hpeek, Cursor.atMarker, hkey]
  · exact ⟨hrest, rfl, hs.level, hs.keys, rfl, hs.indent, hs.outer,
      congrArg (Token.scalar (String.ofList out) false :: ·) hs.tokens, congrArg (· + 1) hs.count⟩

/-- A plain scalar is fetched where one begins. -/
theorem fetch_plain (htext : BeginsPlain s.cursor.rest)
    (hmarker : s.cursor.column = 0 → s.cursor.peek ≠ '-' ∧ s.cursor.peek ≠ '.') (hlevel : s.level = 0) :
    s.fetch = (·, false) <$> s.fetchPlain := by
  obtain ⟨c, more, hrest, hgap, hbegin⟩ := htext
  have hpeek : s.cursor.peek = c := Cursor.peek_eq hrest
  have hend : c ≠ '\x00' := by
    rintro rfl
    cases hgap
  have houtside : (s.level != 0) = false := by simp [hlevel]
  rw [← Cursor.peekAt_one hrest] at hbegin
  have hseparators : (s.cursor.column == 0 && s.cursor.atMarker '-') = false ∧
      (s.cursor.column == 0 && s.cursor.atMarker '.') = false := by
    by_cases hzero : s.cursor.column = 0
    · simp [Cursor.atMarker, hmarker hzero]
    · simp [hzero]
  rw [fetch]
  rcases hbegin with hmark | ⟨hmore, hmark⟩
  · -- no other kind of token begins with the character
    have hstarts : s.startsPlain = true := by
      rw [startsPlain, hpeek, hgap, hmark]
      rfl
    have hne (d : Char) (hd : "-?:,[]\x7b\x7d#&*!|>'\"%@`".toList.contains d = true) : (c == d) = false := by
      rw [beq_eq_false_iff_ne]
      rintro rfl
      rw [hmark] at hd
      cases hd
    have hflow : (c == '[') = false ∧ (c == '{') = false ∧ (c == ']') = false ∧ (c == '}') = false ∧
        (c == ',') = false := ⟨hne _ rfl, hne _ rfl, hne _ rfl, hne _ rfl, hne _ rfl⟩
    have hblock : (c == '-') = false ∧ (c == '?') = false ∧ (c == ':') = false ∧ (c == '|') = false ∧
        (c == '>') = false := ⟨hne _ rfl, hne _ rfl, hne _ rfl, hne _ rfl, hne _ rfl⟩
    have hsign : (c == '%') = false ∧ (c == '*') = false ∧ (c == '&') = false ∧ (c == '!') = false ∧
        (c == '\'') = false ∧ (c == '"') = false :=
      ⟨hne _ rfl, hne _ rfl, hne _ rfl, hne _ rfl, hne _ rfl, hne _ rfl⟩
    have hend : (c == '\x00') = false := beq_eq_false_iff_ne.mpr hend
    simp only [hpeek, hend, hseparators, hflow, hblock, hsign, hstarts, Bool.false_and, Bool.or_self, Bool.false_eq_true,
      if_true, if_false]
    rfl
  · -- the character would be an indicator in front of a gap only
    have hstarts : s.startsPlain = true := by
      rw [startsPlain, hpeek, hmore]
      rcases hmark with rfl | rfl | rfl <;> simp [hlevel]
    rcases hmark with rfl | rfl | rfl <;> simp [hpeek, houtside, hseparators, hstarts, hmore]

/-- A plain text. -/
theorem lexes_plain {m k : Nat} {out rest : List Char} (hbegin : BeginsPlain text)
    (hscan : PlainScan (m + 1) text out rest k) (hlength : rest.length < text.length) (hindent : b.indent = m)
    (hcolumn : m < column) (h : Follows rest k true (b.add [.scalar (String.ofList out) true]) final) :
    Lexes text column false b final := by
  refine lexes_of_fetch fun s hs => ?_
  have hleast : m + 1 ≤ s.cursor.column := by
    rw [hs.column]
    exact hcolumn
  obtain ⟨d, hd, hrest, hk⟩ := hscan [] s.cursor ('\x00' :: s.cursor.rest) false hs.rest hleast (by rw [hs.rest]; simp)
  have hmark : s.markKey = .ok s := by
    rw [markKey, if_neg (by simp [hs.allowsKey])]
    rfl
  have hplain : scanPlain (s.level != 0) s.indent s.cursor = (out, d, true) := by
    have houtside : (s.level != 0) = false := by simp [hs.level]
    rw [scanPlain, houtside, hs.indent, hindent]
    exact hd
  have hfetch : s.fetchPlain = .ok (({ s with allowsKey := true }.at_ d).emit (.scalar (String.ofList out) true)) := by
    rw [fetchPlain, hmark, bind_ok, hplain]
    rfl
  refine ⟨({ s with allowsKey := true }.at_ d).emit (.scalar (String.ofList out) true), rest, k, true, _, ?_, ?_,
    hlength, h⟩
  · rw [fetch_plain (hs.rest ▸ hbegin) (fun hzero => by omega) hs.level, hfetch]
    rfl
  · exact ⟨hrest, hk, hs.level, hs.keys, rfl, hs.indent, hs.outer,
      congrArg (Token.scalar (String.ofList out) true :: ·) hs.tokens, congrArg (· + 1) hs.count⟩

/-! ## Keys -/

/-- The words that stand as keys in a file: short runs of lower-case letters. -/
structure IsKey (k : List Char) : Prop where
  ne_nil : k ≠ []
  isLower : ∀ c ∈ k, c.isLower = true
  short : k.length ≤ 1024

theorem ne_of_isLower {c d : Char} (h : c.isLower = true) (hd : d.isLower = false) : c ≠ d := by
  rintro rfl
  rw [h] at hd
  cases hd

theorem isGap_of_isLower {c : Char} (h : c.isLower = true) : isGap c = false := by
  have hne {d : Char} (hd : d.isLower = false) : (c == d) = false := beq_eq_false_iff_ne.mpr (ne_of_isLower h hd)
  simp only [isGap, isSpace, isBreakOrEnd, isBreak, hne (d := ' ') rfl, hne (d := '\t') rfl, hne (d := '\n') rfl,
    hne (d := '\r') rfl, hne (d := '\u0085') rfl, hne (d := '\u2028') rfl, hne (d := '\u2029') rfl, hne (d := '\x00') rfl,
    Bool.or_self]

theorem beginsPlain_of_isLower {c : Char} (h : c.isLower = true) (rest : List Char) : BeginsPlain (c :: rest) := by
  refine ⟨c, rest, rfl, isGap_of_isLower h, .inl ?_⟩
  rw [← Bool.not_eq_true, List.contains_iff_mem]
  intro hmem
  have hmarks : "-?:,[]\x7b\x7d#&*!|>'\"%@`".toList.all (!Char.isLower ·) = true := rfl
  have hc := List.all_eq_true.mp hmarks c hmem
  rw [h] at hc
  cases hc

/-- The position behind a key. -/
theorem advanceBy_key {c : Cursor} {k rest : List Char} (hk : ∀ d ∈ k, d.isLower = true) (hc : c.rest = k ++ rest) :
    c.advanceBy k.length =
      { rest, index := c.index + k.length, line := c.line, column := c.column + k.length } := by
  induction k generalizing c with
  | nil =>
    cases c
    cases hc
    rfl
  | cons d k ih =>
    rw [List.forall_mem_cons] at hk
    have hgap := isGap_of_isLower hk.1
    have hbreak : isBreak d = false := by
      simp only [isGap, isBreakOrEnd, Bool.or_eq_false_iff] at hgap
      exact hgap.2.1
    have hreturn : (d == '\r') = false := beq_eq_false_iff_ne.mpr (ne_of_isLower hk.1 rfl)
    have hmark : (d == '\ufeff') = false := beq_eq_false_iff_ne.mpr (ne_of_isLower hk.1 rfl)
    have hadvance : c.advance =
        { rest := k ++ rest, index := c.index + 1, line := c.line, column := c.column + 1 } := by
      simp only [Cursor.advance, hc, List.cons_append, hreturn, hbreak, hmark, Bool.false_eq_true, if_false]
    rw [List.length_cons, Cursor.advanceBy, hadvance, ih hk.2 rfl]
    simp only [Nat.add_assoc, Nat.add_comm 1]

theorem plainLength_key {k rest : List Char} (hk : ∀ c ∈ k, c.isLower = true) (hrest : isGap (rest.headD '\x00') = true) :
    plainLength false (k ++ ':' :: rest) = k.length := by
  induction k with
  | nil =>
    have hcolon : (':' == ':') = true := rfl
    rw [List.nil_append, plainLength, hrest, hcolon]
    simp
  | cons c k ih =>
    rw [List.forall_mem_cons] at hk
    have hgap := isGap_of_isLower hk.1
    have hcolon : (c == ':') = false := beq_eq_false_iff_ne.mpr (ne_of_isLower hk.1 rfl)
    rw [List.cons_append, plainLength]
    simp only [hgap, hcolon, Bool.false_and, Bool.or_self, Bool.false_eq_true, if_false]
    rw [ih hk.2, List.length_cons, Nat.add_comm]

theorem scanPlain_key {c : Cursor} {k rest : List Char} (hk : IsKey k) (hc : c.rest = k ++ ':' :: rest)
    (hrest : isGap (rest.headD '\x00') = true) (indent : Int) :
    scanPlain false indent c = (k, c.advanceBy k.length, false) := by
  obtain ⟨d, k', rfl⟩ := List.exists_cons_of_ne_nil hk.ne_nil
  have hpeek : (c.peek == '#') = false := by
    rw [Cursor.peek_eq hc, beq_eq_false_iff_ne]
    exact ne_of_isLower (hk.isLower d List.mem_cons_self) rfl
  have hbehind : (c.advanceBy (d :: k').length).rest = ':' :: rest := by
    rw [Cursor.rest_advanceBy, hc, List.drop_left]
  have hcolon : (c.advanceBy (d :: k').length).peek = ':' := Cursor.peek_eq hbehind
  have hspace (fuel : List Char) : plainSpace fuel (c.advanceBy (d :: k').length) =
      ([], c.advanceBy (d :: k').length, false) := by
    have hbreak : isBreak (c.advanceBy (d :: k').length).peek = false := by rw [hcolon]; rfl
    rw [plainSpace, Cursor.takeWhile_stop (by rw [hcolon]; rfl)]
    simp only [hbreak, Bool.false_eq_true, if_false]
  rw [scanPlain, scanPlainFrom, hpeek, hc, plainLength_key hk.isLower hrest]
  dsimp only
  rw [List.take_left, hspace]
  simp

theorem unwind_of_le {n : Int} (h : s.indent ≤ n) : s.unwind n = s := by
  rw [unwind]
  cases s.outer with
  | nil => rfl
  | cons next outer =>
    rw [closeBlocks, if_neg]
    simpa using fun _ => h

/-- What is known of a lexer behind a key. -/
structure AtColon (s : Lexer) (key : PossibleKey) (k text : List Char) (m : Nat) (b : Blocks) : Prop where
  rest : s.cursor.rest = ':' :: text
  column : s.cursor.column = m + k.length
  level : s.level = 0
  keys : s.keys = [key]
  indent : s.indent = b.indent
  outer : s.outer = b.outer
  tokens : s.tokens = .scalar (String.ofList k) true :: b.tokens
  count : s.count = s.tokens.length
  keyLevel : key.level = 0
  keyPlace : key.place = b.tokens.length
  keyColumn : key.column = m
  keyLine : key.line = s.cursor.line
  keyIndex : s.cursor.index = key.index + k.length

/-- A key is fetched as a scalar that may turn out to be one. -/
theorem fetch_key {m : Nat} {k : List Char} (hk : IsKey k) (htext : isGap (text.headD '\x00') = true)
    (hs : At s (k ++ ':' :: text) m true b) : ∃ s' key, s.fetch = .ok (s', false) ∧ AtColon s' key k text m b := by
  -- the key is remembered until the colon behind it is met
  let key : PossibleKey :=
    { level := s.level, place := s.count, required := s.level == 0 && s.indent == (s.cursor.column : Int)
      index := s.cursor.index, line := s.cursor.line, column := s.cursor.column }
  have hmark : s.markKey = .ok { s with keys := [key] } := by
    rw [markKey, if_pos hs.allowsKey, dropKey_eq hs.keys, bind_ok, hs.keys]
    rfl
  have hplain : scanPlain (s.level != 0) s.indent s.cursor = (k, s.cursor.advanceBy k.length, false) := by
    have houtside : (s.level != 0) = false := by simp [hs.level]
    rw [houtside, scanPlain_key hk hs.rest htext]
  have hfetch : s.fetchPlain = .ok (({ s with keys := [key], allowsKey := false }.at_
      (s.cursor.advanceBy k.length)).emit (.scalar (String.ofList k) true)) := by
    rw [fetchPlain, hmark, bind_ok, hplain]
    rfl
  have hbegin : BeginsPlain s.cursor.rest ∧ s.cursor.peek ≠ '-' ∧ s.cursor.peek ≠ '.' := by
    obtain ⟨d, k', rfl⟩ := List.exists_cons_of_ne_nil hk.ne_nil
    have hlower := hk.isLower d List.mem_cons_self
    rw [Cursor.peek_eq hs.rest, hs.rest]
    exact ⟨beginsPlain_of_isLower hlower _, ne_of_isLower hlower rfl, ne_of_isLower hlower rfl⟩
  have hbehind := advanceBy_key hk.isLower hs.rest
  refine ⟨_, key, by rw [fetch_plain hbegin.1 (fun _ => hbegin.2) hs.level, hfetch]; rfl, ?_⟩
  rw [hbehind]
  exact
    { rest := rfl
      column := by rw [← hs.column]; rfl
      level := hs.level
      keys := rfl
      indent := hs.indent
      outer := hs.outer
      tokens := congrArg (Token.scalar (String.ofList k) true :: ·) hs.tokens
      count := congrArg (· + 1) hs.count
      keyLevel := hs.level
      keyPlace := by rw [← hs.tokens, ← hs.count]
      keyColumn := hs.column
      keyLine := rfl
      keyIndex := rfl }

/-- The tokens of the key and of its mapping come before the scalar. -/
theorem AtColon.openBlock_key {key : PossibleKey} {m : Nat} {k : List Char} (hs : AtColon s key k text m b) :
    (({ s with keys := [] } : Lexer).insertAt key.place .key).openBlock key.column
        (·.insertAt key.place .blockMappingStart) =
      { s with
        keys := [], indent := (b.openAt m).indent, outer := (b.openAt m).outer
        tokens := .scalar (String.ofList k) true :: .key :: (b.openAt m).tokens
        count := (b.openAt m).tokens.length + 2 } := by
  have hcount : s.count = b.tokens.length + 1 := by
    rw [hs.count, hs.tokens]
    rfl
  have hkey : ({ s with keys := [] } : Lexer).insertAt key.place .key =
      { s with keys := [], tokens := .scalar (String.ofList k) true :: .key :: b.tokens, count := s.count + 1 } := by
    rw [insertAt]
    simp only [hcount, hs.keyPlace, Nat.add_sub_cancel_left, hs.tokens]
    rfl
  rw [hkey, openBlock, Blocks.openAt, hs.keyColumn]
  dsimp only
  rw [hs.indent]
  split
  · simp only [insertAt, hcount, hs.keyPlace, hs.outer, Nat.add_assoc, Nat.add_sub_cancel_left]
    rfl
  · rw [hcount, ← hs.indent, ← hs.outer]

/-- The colon behind a key puts the key in its place. -/
theorem fetch_colon {key : PossibleKey} {m : Nat} {k : List Char} (htext : isGap (text.headD '\x00') = true)
    (hs : AtColon s key k text m b) :
    ∃ s', s.fetch = .ok (s', false) ∧
      At s' text (m + k.length + 1) false ((b.openAt m).add [.key, .scalar (String.ofList k) true, .value]) := by
  have hpeek : s.cursor.peek = ':' := Cursor.peek_eq hs.rest
  have hnext : isGap (s.cursor.peekAt 1) = true := by
    rw [Cursor.peekAt_one hs.rest]
    exact htext
  have hfind : s.keys.find? (·.level == s.level) = some key := by
    rw [hs.keys, List.find?_singleton, hs.keyLevel, hs.level]
    rfl
  have hrest : s.keys.filter (·.level != s.level) = [] := by
    rw [hs.keys, List.filter_singleton, hs.keyLevel, hs.level]
    rfl
  have houtside : ((({ s with keys := [] } : Lexer).insertAt key.place .key).level == 0) = true :=
    beq_iff_eq.mpr hs.level
  let s' : Lexer :=
    { s with
      keys := [], indent := (b.openAt m).indent, outer := (b.openAt m).outer, allowsKey := false
      tokens := .scalar (String.ofList k) true :: .key :: (b.openAt m).tokens
      count := (b.openAt m).tokens.length + 2 }
  have hvalue : s.fetchValue = .ok ((s'.at_ s.cursor.advance).emit .value) := by
    rw [fetchValue, hfind]
    dsimp only
    rw [hrest, if_pos houtside, hs.openBlock_key]
    rfl
  have hcolumn := Cursor.column_advance hs.rest rfl (by decide)
  rw [hs.column] at hcolumn
  refine ⟨(s'.at_ s.cursor.advance).emit .value, ?_, ?_⟩
  · rw [fetch]
    simp [hpeek, hnext, Cursor.atMarker, hvalue]
  · exact ⟨Cursor.advance_rest hs.rest, hcolumn, hs.level, rfl, rfl, rfl, rfl, rfl, rfl⟩

/-- **The key of an entry** at a column where a mapping is open or opens. -/
theorem lexes_key {m : Nat} {k : List Char} (hk : IsKey k) (htext : isGap (text.headD '\x00') = true)
    (hindent : b.indent ≤ m)
    (h : Follows text (m + k.length + 1) false ((b.openAt m).add [.key, .scalar (String.ofList k) true, .value]) final) :
    Lexes (k ++ ':' :: text) m true b final := by
  intro s fuel hs hfuel
  obtain ⟨s₁, key, hfetch, hs₁⟩ := fetch_key hk htext hs
  obtain ⟨s₂, hfetch₂, hs₂⟩ := fetch_colon htext hs₁
  have hlength : text.length + 2 ≤ fuel := by
    have hpos := List.length_pos_iff.mpr hk.ne_nil
    rw [List.length_append, List.length_cons] at hfuel
    omega
  obtain ⟨fuel, rfl⟩ := Nat.exists_eq_add_of_le hlength
  have hcolon : IsToken (':' :: text) := ⟨by simp, rfl, by simp⟩
  have hskip := skipToToken_spaces hcolon (j := 0) hs₁.rest (List.cons_ne_nil '\x00' s₁.cursor.rest)
  -- the colon is met on the line of the key and not too far behind it, so the key is not stale
  have hfresh : (key.line != s₁.cursor.line || decide (s₁.cursor.index - key.index > 1024)) = false := by
    have hshort := hk.short
    rw [hs₁.keyLine, hs₁.keyIndex]
    simpa using hshort
  have hdrop : s₁.dropStaleKeys = .ok s₁ := by
    rw [dropStaleKeys, hs₁.keys]
    simp only [List.any_cons, List.any_nil, List.filter_cons, List.filter_nil, hfresh, Bool.false_and, Bool.or_self,
      Bool.false_eq_true, if_false, Bool.not_false, if_true]
    rw [← hs₁.keys]
  have hunwind : s₁.unwind s₁.cursor.column = s₁ := unwind_of_le (by rw [hs₁.indent, hs₁.column]; omega)
  have happroach : s₁.approach = .ok s₁ := by
    rw [approach, hskip]
    change s₁.dropStaleKeys >>= _ = _
    rw [hdrop, bind_ok, hunwind]
    rfl
  have hfollows : run (text.length + fuel + 1) s₂ = (final, none) := h s₂ _ hs₂ (Nat.le_add_right _ _)
  have hsecond : s₁.after (run (text.length + fuel + 1)) s₁.fetch = (final, none) := by
    rw [hfetch₂]
    exact hfollows
  have hrun := run_of_approach happroach hsecond
  rw [hfetch, show text.length + 2 + fuel = text.length + fuel + 1 + 1 by omega]
  exact hrun

/-! ## Entries and items -/

/-- **Lines of a mapping** at a column: they open it if it is not open, and give these tokens. -/
structure LexesEntries (m : Nat) (body : List Char) (ts : List Token) : Prop where
  isLine : ∀ more, IsLine (body ++ more)
  lexes : ∀ {n : Nat} {tail : List Char} {b : Blocks} {final : List Token}, n ≤ m → IsLine tail → b.indent ≤ m →
    Lexes tail n true (((b.openAt m).add ts).close n) final →
      Lexes (body ++ (List.replicate n ' ' ++ tail)) m true b final

/-- **Lines of a sequence** that stands at the column of its key. -/
structure LexesItems (m : Nat) (body : List Char) (ts : List Token) : Prop where
  isLine : ∀ more, IsLine (body ++ more)
  lexes : ∀ {n : Nat} {tail : List Char} {b : Blocks} {final : List Token}, n ≤ m → IsLine tail → b.indent = m →
    Lexes tail n true ((b.add ts).close n) final → Lexes (body ++ (List.replicate n ' ' ++ tail)) m true b final

variable {m : Nat} {x y : List Char} {ts us : List Token}

theorem LexesEntries.append (hx : LexesEntries m x ts) (hy : LexesEntries m y us) :
    LexesEntries m (x ++ (List.replicate m ' ' ++ y)) (ts ++ us) := by
  refine ⟨fun more => ?_, fun {n tail b final} hn htail hindent h => ?_⟩
  · rw [List.append_assoc]
    exact hx.isLine _
  · have hopen : ((b.openAt m).add ts).indent = m := Blocks.indent_openAt hindent
    rw [List.append_assoc, List.append_assoc]
    refine hx.lexes (Nat.le_refl m) (hy.isLine _) hindent ?_
    rw [Blocks.close_of_le (Int.le_of_eq hopen)]
    refine hy.lexes hn htail (Int.le_of_eq hopen) ?_
    rwa [Blocks.openAt_of_le (Int.le_of_eq hopen.symm), Blocks.add_add]

theorem LexesItems.append (hx : LexesItems m x ts) (hy : LexesItems m y us) :
    LexesItems m (x ++ (List.replicate m ' ' ++ y)) (ts ++ us) := by
  refine ⟨fun more => ?_, fun {n tail b final} hn htail hindent h => ?_⟩
  · rw [List.append_assoc]
    exact hx.isLine _
  · have hopen : (b.add ts).indent = m := hindent
    rw [List.append_assoc, List.append_assoc]
    refine hx.lexes (Nat.le_refl m) (hy.isLine _) hindent ?_
    rw [Blocks.close_of_le (Int.le_of_eq hopen)]
    refine hy.lexes hn htail hopen ?_
    rwa [Blocks.add_add]

/-- The mapping of an item. -/
theorem LexesEntries.item (h : LexesEntries (m + 2) x ts) :
    LexesItems m ('-' :: ' ' :: x) (.blockEntry :: .blockMappingStart :: ts ++ [.blockEnd]) := by
  refine ⟨fun more => ?_, fun {n tail b final} hn htail hindent hlexes => ?_⟩
  · refine ⟨⟨by simp, rfl, by simp⟩, fun c hc => ?_⟩
    have hpeek : c.peek = '-' := Cursor.peek_eq hc
    have hnext : c.peekAt 1 = ' ' := Cursor.peekAt_one hc
    simp [Cursor.atSeparator, Cursor.atMarker, hpeek, hnext]
  · have hentry : (b.add [.blockEntry]).indent = m := hindent
    have hbelow : (b.add [.blockEntry]).indent < ↑(m + 2) := by omega
    refine lexes_hyphen hindent (Lexes.behindSpaces (j := 1) ?_ (h.isLine _).toIsToken)
    rw [Blocks.close_of_le (by omega)]
    refine h.lexes (by omega) htail (Int.le_of_lt hbelow) ?_
    -- the mapping ends before the next line, which is indented less
    have hclose : (((b.add [.blockEntry]).openAt (m + 2)).add ts).close n =
        (b.add (.blockEntry :: .blockMappingStart :: ts ++ [.blockEnd])).close n := by
      rw [Blocks.openAt, if_pos hbelow, Blocks.add, Blocks.close_opened _ (by omega)]
      simp [Blocks.add]
    rwa [hclose]

theorem isLine_key {k : List Char} (hk : IsKey k) (more : List Char) : IsLine (k ++ more) := by
  obtain ⟨d, k', rfl⟩ := List.exists_cons_of_ne_nil hk.ne_nil
  have hlower := hk.isLower d List.mem_cons_self
  have hgap := isGap_of_isLower hlower
  simp only [isGap, isBreakOrEnd, Bool.or_eq_false_iff] at hgap
  refine ⟨⟨?_, hgap.2.1, ?_⟩, fun c hc => ?_⟩
  · simpa using ne_of_isLower hlower rfl
  · simpa using ne_of_isLower hlower rfl
  · rw [← Cursor.peek_eq hc] at hlower
    exact Cursor.atSeparator_eq_false (ne_of_isLower hlower rfl) (ne_of_isLower hlower rfl)

/-- An entry whose value is a sequence. -/
theorem LexesItems.entry (h : LexesItems m x ts) {k : List Char} (hk : IsKey k) :
    LexesEntries m (k ++ ':' :: '\n' :: (List.replicate m ' ' ++ x))
      ([.key, .scalar (String.ofList k) true, .value] ++ ts) := by
  refine ⟨fun more => ?_, fun {n tail b final} hn htail hindent hlexes => ?_⟩
  · rw [List.append_assoc]
    exact isLine_key hk _
  · have hopen : ((b.openAt m).add [.key, .scalar (String.ofList k) true, .value]).indent = m :=
      Blocks.indent_openAt hindent
    rw [List.append_assoc, List.cons_append, List.cons_append, List.append_assoc]
    refine lexes_key hk rfl hindent (Lexes.behindNewLine ?_ (h.isLine _).toIsToken)
    rw [Blocks.close_of_le (Int.le_of_eq hopen)]
    refine h.lexes hn htail hopen ?_
    rwa [Blocks.add_add]

/-- The token of a text in a file. -/
def textToken (schema : Schema) (indent : Nat) (s : String) : Token :=
  .scalar (ScalarStyle.readBack schema indent s) (ScalarStyle.choose schema s == .plain)

theorem isToken_of_beginsPlain (h : BeginsPlain text) : IsToken text := by
  obtain ⟨c, more, rfl, hgap, hmark⟩ := h
  have hcomment : c ≠ '#' := by
    rintro rfl
    rcases hmark with hmark | ⟨-, hmark⟩
    · cases hmark
    · simp at hmark
  simp only [isGap, isSpace, isBreakOrEnd, Bool.or_eq_false_iff, beq_eq_false_iff_ne] at hgap
  exact ⟨by simpa using hgap.1.1, hgap.2.1, by simpa using hcomment⟩

/-- **A written text** gives one token, whatever its style. -/
theorem lexes_text (schema : Schema) (s : String) {n : Nat} {tail : List Char} (hn : n ≤ m) (htail : IsLine tail)
    (hindent : b.indent = m) (hcolumn : m < column)
    (h : Lexes tail n true ((b.add [textToken schema (m + 2) s]).close n) final) :
    let written := ScalarStyle.write (ScalarStyle.choose schema s) (m + 2) column s.toList
    IsToken (written ++ '\n' :: (List.replicate n ' ' ++ tail)) ∧
      Lexes (written ++ '\n' :: (List.replicate n ' ' ++ tail)) column false b final := by
  -- every style has its scan; what is scanned is followed by the break and the next line
  cases hstyle : ScalarStyle.choose schema s with
  | plain =>
    obtain ⟨hkind, hplain⟩ := ScalarStyle.plain_spec hstyle
    have hne : s.toList ≠ [] := by
      intro heq
      obtain rfl : s = "" := by simpa using heq
      cases hkind
    have htoken : textToken schema (m + 2) s = .scalar (String.ofList s.toList) true := by
      rw [textToken, ScalarStyle.readBack, hstyle, String.ofList_toList]
      rfl
    rw [htoken] at h
    have hbegin := ScalarStyle.beginsPlain_write hplain hne (m + 2) column ('\n' :: (List.replicate n ' ' ++ tail))
    have hscan := ScalarStyle.plainScan_write hplain hne (Nat.le_succ (m + 1)) (Nat.succ_pos (m + 1))
      (Nat.lt_succ_of_le hn) htail column
    refine ⟨isToken_of_beginsPlain hbegin, lexes_plain hbegin hscan ?_ hindent hcolumn (h.follows htail.toIsToken)⟩
    simp only [List.length_append, List.length_cons]
    omega
  | single =>
    have hsingle := ScalarStyle.single_spec hstyle
    obtain ⟨hholds, hchain⟩ := ScalarStyle.runs_spec hsingle
    have htoken : textToken schema (m + 2) s = .scalar (String.ofList (ScalarStyle.singleBack s.toList)) false := by
      rw [textToken, ScalarStyle.readBack, hstyle]
      rfl
    rw [htoken] at h
    have hline : ('\n' :: (List.replicate n ' ' ++ tail)).head? ≠ some '\'' := by simp
    have hscan := ScalarStyle.scan_foldRuns (Nat.succ_pos (m + 1)) hholds hchain true (column + 1) hline
    have hlexes : Lexes _ column false b final :=
      lexes_quoted (.inl rfl) hscan (by simp; omega) fun column => h.behindNewLine htail.toIsToken
    refine ⟨⟨by simp [ScalarStyle.write], rfl, by simp [ScalarStyle.write]⟩, ?_⟩
    simpa [ScalarStyle.write] using hlexes
  | double =>
    have htoken : textToken schema (m + 2) s =
        .scalar (String.ofList (ScalarStyle.escapedBack (m + 2) true s.toList)) false := by
      rw [textToken, ScalarStyle.readBack, hstyle]
      rfl
    rw [htoken] at h
    have hscan := ScalarStyle.scan_escapeFrom (Nat.succ_pos (m + 1)) true false (Nat.succ_le_succ hcolumn) s.toList
      ('\n' :: (List.replicate n ' ' ++ tail))
    have hlexes : Lexes _ column false b final :=
      lexes_quoted (.inr rfl) hscan (by simp; omega) fun column => h.behindNewLine htail.toIsToken
    refine ⟨⟨by simp [ScalarStyle.write], rfl, by simp [ScalarStyle.write]⟩, ?_⟩
    simpa [ScalarStyle.write] using hlexes

/-- An entry whose value is a text. -/
theorem lexesEntries_text {k : List Char} (hk : IsKey k) (schema : Schema) (s : String) :
    LexesEntries m
      (k ++ ':' :: ' ' :: (ScalarStyle.write (ScalarStyle.choose schema s) (m + 2) (m + k.length + 2) s.toList ++ ['\n']))
      [.key, .scalar (String.ofList k) true, .value, textToken schema (m + 2) s] := by
  refine ⟨fun more => ?_, fun {n tail b final} hn htail hindent hlexes => ?_⟩
  · rw [List.append_assoc]
    exact isLine_key hk _
  · have hopen : ((b.openAt m).add [.key, .scalar (String.ofList k) true, .value]).indent = m :=
      Blocks.indent_openAt hindent
    have hcolumn : m < m + k.length + 2 := by omega
    have htext := lexes_text schema s hn htail hopen hcolumn (by rwa [Blocks.add_add])
    rw [List.append_assoc, List.cons_append, List.cons_append, List.append_assoc]
    refine lexes_key hk rfl hindent (Lexes.behindSpaces (j := 1) ?_ htext.1)
    rw [Blocks.close_of_le (by omega)]
    exact htext.2

/-! ## Whole texts -/

theorem isAllowed_of_not_special {c : Char} (h : ScalarStyle.isSpecial c = false) : isAllowed c = true := by
  simp only [ScalarStyle.isSpecial, isAllowed, Bool.not_eq_false', Bool.and_eq_true, Bool.or_eq_true, bne_iff_ne,
    decide_eq_true_eq, beq_iff_eq] at h ⊢
  omega

/-- **The tokens of a text** that holds the entries of one mapping. -/
theorem tokenize_eq (h : LexesEntries 0 x ts) (hx : ∀ c ∈ x, ScalarStyle.isSpecial c = false) :
    tokenize x = (.blockMappingStart :: ts ++ [.blockEnd, .streamEnd], none) := by
  have hallowed : x.all isAllowed = true := List.all_eq_true.mpr fun c hc => isAllowed_of_not_special (hx c hc)
  have hmark : (({ rest := x } : Cursor).peek == '\ufeff') = false := by
    rw [beq_eq_false_iff_ne]
    cases x with
    | nil => decide
    | cons c x =>
      intro heq
      have hc := hx c List.mem_cons_self
      obtain rfl : c = '\ufeff' := heq
      cases hc
  have hend : IsLine [] := ⟨⟨by simp, rfl, by simp⟩, fun c hc => by simp [Cursor.atSeparator, Cursor.atMarker, Cursor.peek, hc]⟩
  let start : Blocks := ⟨-1, [], []⟩
  have hlexes : Lexes x 0 true start (.blockMappingStart :: ts ++ [.blockEnd, .streamEnd]) := by
    have hbody := h.lexes (b := start) (Nat.le_refl 0) hend (by decide) lexes_end
    have hfinal : (.streamEnd :: ((((start.openAt 0).add ts).close (0 : Nat)).close (-1)).tokens).reverse =
        .blockMappingStart :: ts ++ [.blockEnd, .streamEnd] := by
      simp [start, Blocks.openAt, Blocks.add, Blocks.close, Blocks.closeFrom]
    rw [hfinal] at hbody
    simpa using hbody
  have hstart : At { cursor := { rest := x } } x 0 true start := ⟨rfl, rfl, rfl, rfl, rfl, rfl, rfl, rfl, rfl⟩
  have htoken : IsToken x := by simpa using (h.isLine []).toIsToken
  have hrun := hlexes.follows htoken _ (2 * x.length + 1) hstart (by omega)
  rw [tokenize, if_pos hallowed]
  simp only [hmark, Bool.false_eq_true, if_false]
  exact hrun

end Lexer

end CommandWrap.Yaml
