import CommandWrap.Session.Module
import Mathlib.Data.List.Chain

/-!
# Spelled lines

What a writer puts on a line, and what the reader makes of it.  A line is spelled by pieces: tokens in the
spelling that they have in a module, with spaces between them, and line ends where a bracket is open.  The
reader gives back the tokens of the pieces (`run_pieces`), so one line of text after the other gives one
logical line after the other (`Reads`).  A literal is read as the code units that it was written by, a
docstring as the text itself.

Nothing is read from a text that holds a null character (`lines?_of_null`).
-/
namespace CommandWrap.Source

open Text (hexDigit hexPadded hexValue?)
open CommandWrap.Text

/-- The code units by which the literal of a text is written. -/
def unitsOf (s : String) : List Nat :=
  s.toList.flatMap fun c => AsciiLiteral.utf16 c.toNat

/-! ## Single steps -/

/-- What is said of the characters of a text is decided for one after the other, and not for all characters
there are. -/
instance decidableOfMem {p : Char → Prop} [DecidablePred p] (cs : List Char) : Decidable (∀ c ∈ cs, p c) :=
  List.decidableBAll p cs

/-- Characters that the reader takes as they are: no carriage return and no null character. -/
def Legible (c : Char) : Prop :=
  c.toNat ≠ 0 ∧ c ≠ '\r'

instance (c : Char) : Decidable (Legible c) :=
  inferInstanceAs (Decidable (_ ∧ _))

/-- Characters that stand for themselves in a docstring, or in a comment. -/
def Plain (c : Char) : Prop :=
  Legible c ∧ c ≠ '"' ∧ c ≠ '\n'

instance (c : Char) : Decidable (Plain c) :=
  inferInstanceAs (Decidable (_ ∧ _))

theorem legible_of_isNameChar {c : Char} (h : isNameChar c = true) : Legible c := by
  constructor
  · intro h0
    have : c = Char.ofNat 0 := by rw [← h0, Char.ofNat_toNat]
    subst this
    simp [isNameChar] at h
  · rintro rfl
    simp [isNameChar] at h

namespace State

/-- The state on a line that has begun. -/
def onLine (mode : Mode) (indent : Nat) (tokens : List Token) (depth : Nat) (lines : List Line) : State :=
  { mode, indent, tokens, depth, lines, returned := false }

/-- The state between two tokens of a line. -/
def inLine (indent : Nat) (tokens : List Token) (depth : Nat) (lines : List Line) : State :=
  onLine (.code []) indent tokens depth lines

variable {s : State} {c : Char} {indent depth : Nat} {tokens : List Token} {lines : List Line}
  {long : Bool} {codes : List Nat}

@[simp] theorem run_nil (s : State) : s.run [] = s := rfl

@[simp] theorem run_cons (s : State) (c : Char) (cs : List Char) :
    s.run (c :: cs) = (s.step c).run cs := rfl

@[simp] theorem run_append (s : State) (cs ds : List Char) :
    s.run (cs ++ ds) = (s.run cs).run ds :=
  List.foldl_append ..

@[simp] theorem returned_fail : s.fail.returned = s.returned := rfl

@[simp] theorem returned_push (t : Token) : (s.push t).returned = s.returned := rfl

@[simp] theorem returned_flush (cs : List Char) : (s.flush cs).returned = s.returned := by
  unfold flush
  split <;> rfl

@[simp] theorem returned_endLine : s.endLine.returned = s.returned := by
  unfold endLine
  repeat' split
  all_goals rfl

@[simp] theorem returned_inCode : (s.inCode c).returned = s.returned := by
  unfold inCode
  repeat' split
  all_goals simp

@[simp] theorem returned_inText : (s.inText long codes c).returned = s.returned := by
  unfold inText
  repeat' split
  all_goals simp

@[simp] theorem returned_inEscape : (s.inEscape long codes c).returned = s.returned := by
  unfold inEscape
  repeat' split
  all_goals simp

@[simp] theorem returned_inHex (missing value : Nat) :
    (s.inHex long codes missing value c).returned = s.returned := by
  unfold inHex
  split
  · rfl
  · dsimp only
    repeat' split
    all_goals rfl

@[simp] theorem returned_inOctal (missing value : Nat) :
    (s.inOctal long codes missing value c).returned = s.returned := by
  unfold inOctal
  repeat' split
  all_goals simp

theorem returned_feed : (s.feed c).returned = s.returned := by
  unfold feed
  repeat' split
  all_goals simp

/-- A legible character is taken by itself. -/
theorem step_eq (hc : Legible c) (hs : s.returned = false) : s.step c = s.feed c := by
  rw [step, if_neg hc.2, if_neg (by simp [hs]), ← hs, ← returned_feed]

/-- Before a token, a line that has begun takes a character as code does. -/
theorem feed_inLine (hc : c.toNat ≠ 0) :
    (inLine indent tokens depth lines).feed c = (inLine indent tokens depth lines).inCode c := by
  rw [feed, if_neg hc]
  by_cases hname : isNameChar c = true
  · simp [inLine, onLine, inCode, hname]
  · simp [inLine, onLine, hname, flush]

/-- The spaces in front of a line are its indentation. -/
theorem run_indent (hc : Legible c) (hspace : c ≠ ' ') (cs : List Char) :
    (atStart lines).run (List.replicate indent ' ' ++ c :: cs) =
      (inLine indent [] 0 lines).run (c :: cs) := by
  have hstart (n : Nat) : (atStart lines).run (List.replicate n ' ') =
      { atStart lines with mode := .start n } := by
    induction n with
    | zero => rfl
    | succ n ih =>
      rw [List.replicate_succ', run_append, ih]
      rfl
  rw [run_append, hstart, run_cons, run_cons, step_eq hc rfl, step_eq hc rfl, feed_inLine hc.1]
  rw [feed, if_neg hc.1]
  simp only [if_neg hspace]
  rfl

/-! ## Tokens -/

/-- The reader keeps the characters of a name that has begun. -/
theorem run_word (begun : List Char) {cs : List Char} (hcs : ∀ d ∈ cs, isNameChar d = true) :
    (onLine (.code begun) indent tokens depth lines).run cs =
      onLine (.code (cs.reverse ++ begun)) indent tokens depth lines := by
  induction cs generalizing begun with
  | nil => rfl
  | cons d ds ih =>
    rw [List.forall_mem_cons] at hcs
    have hd : Legible d := legible_of_isNameChar hcs.1
    rw [run_cons, step_eq hd rfl, feed, if_neg hd.1]
    simp only [onLine, hcs.1, if_true]
    rw [List.reverse_cons, List.append_assoc, List.singleton_append]
    exact ih (d :: begun) hcs.2

theorem run_name {cs : List Char} (hne : cs ≠ []) (hcs : ∀ d ∈ cs, isNameChar d = true)
    (hc : Legible c) (hname : isNameChar c = false) (hquote : c ≠ '"') (rest : List Char) :
    (inLine indent tokens depth lines).run (cs ++ c :: rest) =
      (inLine indent (.name cs :: tokens) depth lines).run (c :: rest) := by
  rw [run_append, inLine, run_word [] hcs, List.append_nil, run_cons, run_cons, step_eq hc rfl,
    step_eq hc rfl, feed_inLine hc.1, feed, if_neg hc.1]
  have hword : cs.reverse.isEmpty = false := by simpa using hne
  simp only [onLine, hname, hquote, false_and, flush, hword, Bool.false_eq_true, if_false,
    List.reverse_reverse]
  rfl

theorem run_sign (hc : c ∈ signs) (rest : List Char) :
    (inLine indent tokens depth lines).run (c :: rest) =
      (inLine indent (.mark c :: tokens) depth lines).run rest := by
  rw [run_cons]
  congr 1
  simp only [signs, List.mem_cons, List.not_mem_nil, or_false] at hc
  rcases hc with rfl | rfl | rfl | rfl | rfl | rfl | rfl | rfl <;> rfl

theorem run_open (hc : c = '(' ∨ c = '[') (rest : List Char) :
    (inLine indent tokens depth lines).run (c :: rest) =
      (inLine indent (.mark c :: tokens) (depth + 1) lines).run rest := by
  rw [run_cons]
  congr 1
  rcases hc with rfl | rfl <;> rfl

theorem run_close (hc : c = ')' ∨ c = ']') (rest : List Char) :
    (inLine indent tokens (depth + 1) lines).run (c :: rest) =
      (inLine indent (.mark c :: tokens) depth lines).run rest := by
  rw [run_cons]
  congr 1
  rcases hc with rfl | rfl <;> rfl

theorem run_space (rest : List Char) :
    (inLine indent tokens depth lines).run (' ' :: rest) =
      (inLine indent tokens depth lines).run rest := rfl

/-- Inside a bracket a line goes on behind its end. -/
theorem run_break (rest : List Char) :
    (inLine indent tokens (depth + 1) lines).run ('\n' :: rest) =
      (inLine indent tokens (depth + 1) lines).run rest := rfl

/-- Outside of brackets the line is over. -/
theorem run_end (hne : tokens ≠ []) (rest : List Char) :
    (inLine indent tokens 0 lines).run ('\n' :: rest) =
      (atStart (⟨indent, tokens.reverse⟩ :: lines)).run rest := by
  rw [run_cons]
  congr 1
  cases tokens with
  | nil => exact absurd rfl hne
  | cons t ts => rfl

/-! ## Texts -/

/-- The value of a digit that is written. -/
theorem hexValue?_hexDigit {n : Nat} (h : n < 16) : hexValue? (hexDigit n) = some n := by
  revert n
  decide

theorem legible_hexDigit {n : Nat} (h : n < 16) : Legible (hexDigit n) := by
  revert n
  decide

/-- A character is given by its number in four digits. -/
theorem run_hexPadded {n : Nat} (h : n < 0x10000) (rest : List Char) :
    (onLine (.hex long codes 4 0) indent tokens depth lines).run (hexPadded 4 n ++ rest) =
      (onLine (.text long (n :: codes)) indent tokens depth lines).run rest := by
  have hdigit (missing value k : Nat) (hk : k < 16) :
      (onLine (.hex long codes missing value) indent tokens depth lines).step (hexDigit k) =
        if 1 < missing then
          onLine (.hex long codes (missing - 1) (value * 16 + k)) indent tokens depth lines
        else if value * 16 + k ≤ maxCode then
          onLine (.text long ((value * 16 + k) :: codes)) indent tokens depth lines
        else (onLine (.hex long codes missing value) indent tokens depth lines).fail := by
    have hlegible := legible_hexDigit hk
    rw [step_eq hlegible rfl, feed, if_neg hlegible.1]
    simp only [onLine, inHex, hexValue?_hexDigit hk]
  have hvalue : (((0 * 16 + n / Nat.pow 16 3 % 16) * 16 + n / Nat.pow 16 2 % 16) * 16 +
      n / Nat.pow 16 1 % 16) * 16 + n / Nat.pow 16 0 % 16 = n := by
    rw [show Nat.pow 16 3 = 4096 from rfl, show Nat.pow 16 2 = 256 from rfl,
      show Nat.pow 16 1 = 16 from rfl, show Nat.pow 16 0 = 1 from rfl]
    omega
  have hmax : n ≤ maxCode := by
    rw [maxCode]
    omega
  simp only [hexPadded, List.cons_append, List.nil_append, run_cons]
  rw [hdigit _ _ _ (Nat.mod_lt _ (by decide)), if_pos (by decide),
    hdigit _ _ _ (Nat.mod_lt _ (by decide)), if_pos (by decide),
    hdigit _ _ _ (Nat.mod_lt _ (by decide)), if_pos (by decide),
    hdigit _ _ _ (Nat.mod_lt _ (by decide)), if_neg (by decide), hvalue, if_pos hmax]

/-- A code unit is written as one escape. -/
theorem run_unit {n : Nat} (h : n < 0x10000) (rest : List Char) :
    (onLine (.text long codes) indent tokens depth lines).run ('\\' :: 'u' :: hexPadded 4 n ++ rest) =
      (onLine (.text long (n :: codes)) indent tokens depth lines).run rest :=
  run_hexPadded h rest

theorem utf16_lt {n : Nat} (h : n < 0x110000) : ∀ u ∈ AsciiLiteral.utf16 n, u < 0x10000 := by
  intro u hu
  rw [AsciiLiteral.utf16] at hu
  split at hu
  · simp only [List.mem_singleton] at hu
    omega
  · simp only [List.mem_cons, List.not_mem_nil, or_false] at hu
    omega

/-- The code units of a character are written one after the other. -/
theorem run_units {units : List Nat} (h : ∀ u ∈ units, u < 0x10000) (codes : List Nat)
    (rest : List Char) :
    (onLine (.text long codes) indent tokens depth lines).run
        ((units.flatMap fun u => '\\' :: 'u' :: hexPadded 4 u) ++ rest) =
      (onLine (.text long (units.reverse ++ codes)) indent tokens depth lines).run rest := by
  induction units generalizing codes with
  | nil => rfl
  | cons u us ih =>
    rw [List.forall_mem_cons] at h
    rw [List.flatMap_cons, List.append_assoc, run_unit h.1, ih h.2, List.reverse_cons,
      List.append_assoc, List.singleton_append]

/-- An ordinary character of a text stands for itself. -/
theorem run_plain (hc : Legible c) (hquote : c ≠ '"') (hslash : c ≠ '\\') (hline : c ≠ '\n')
    (rest : List Char) :
    (onLine (.text long codes) indent tokens depth lines).run (c :: rest) =
      (onLine (.text long (c.toNat :: codes)) indent tokens depth lines).run rest := by
  rw [run_cons, step_eq hc rfl, feed, if_neg hc.1]
  simp only [onLine, inText, if_neg hslash, if_neg hquote, hline, false_and, if_false]

/-- **A character of a literal** is read as its code units. -/
theorem run_escape (c : Char) (codes : List Nat) (rest : List Char) :
    (onLine (.text false codes) indent tokens depth lines).run (AsciiLiteral.escape c ++ rest) =
      (onLine (.text false ((AsciiLiteral.utf16 c.toNat).reverse ++ codes)) indent tokens depth lines).run
        rest := by
  have hlow {n : Nat} (hn : c.toNat = n) (h : n < 0x10000) : AsciiLiteral.utf16 c.toNat = [n] := by
    rw [AsciiLiteral.utf16, hn, if_pos h]
  -- a character that is written as a whole is read as its number
  have hwhole {n : Nat} {written : List Char} (hn : c.toNat = n) (h : n < 0x10000)
      (hrun : (onLine (.text false codes) indent tokens depth lines).run (written ++ rest) =
        (onLine (.text false (n :: codes)) indent tokens depth lines).run rest) :
      (onLine (.text false codes) indent tokens depth lines).run (written ++ rest) =
        (onLine (.text false ((AsciiLiteral.utf16 c.toNat).reverse ++ codes)) indent tokens depth
          lines).run rest := by
    rw [hrun, hlow hn h]
    rfl
  unfold AsciiLiteral.escape
  split
  · exact hwhole (congrArg Char.toNat ‹_›) (by decide) rfl
  split
  · exact hwhole (congrArg Char.toNat ‹_›) (by decide) rfl
  split
  · exact hwhole (congrArg Char.toNat ‹_›) (by decide) rfl
  split
  · exact hwhole (congrArg Char.toNat ‹_›) (by decide) rfl
  split
  · exact hwhole (congrArg Char.toNat ‹_›) (by decide) rfl
  split
  · exact hwhole ‹_› (by decide) rfl
  split
  · exact hwhole ‹_› (by decide) rfl
  split
  · rename_i hquote hslash hline hreturn _ _ _ h
    exact hwhole rfl (by omega) (run_plain ⟨by omega, hreturn⟩ hquote hslash hline rest)
  · exact run_units (utf16_lt (Text.code_lt c)) codes rest

theorem run_escapes (cs : List Char) (codes : List Nat) (rest : List Char) :
    (onLine (.text false codes) indent tokens depth lines).run
        (cs.flatMap AsciiLiteral.escape ++ rest) =
      (onLine (.text false ((cs.flatMap fun c => AsciiLiteral.utf16 c.toNat).reverse ++ codes)) indent
        tokens depth lines).run rest := by
  induction cs generalizing codes with
  | nil => rfl
  | cons c cs ih =>
    rw [List.flatMap_cons, List.append_assoc, run_escape, ih, List.flatMap_cons, List.reverse_append,
      List.append_assoc]

/-- A character of a literal stands for itself or is written behind a backslash. -/
theorem escape_cases (c : Char) :
    (AsciiLiteral.escape c = [c] ∧ Legible c ∧ c ≠ '"') ∨
      ∃ ds, AsciiLiteral.escape c = '\\' :: ds := by
  by_cases hquote : c = '"'
  · exact .inr ⟨['"'], by rw [AsciiLiteral.escape, if_pos hquote]⟩
  rw [AsciiLiteral.escape, if_neg hquote]
  split
  · exact .inr ⟨_, rfl⟩
  split
  · exact .inr ⟨_, rfl⟩
  by_cases hreturn : c = '\r'
  · exact .inr ⟨_, by rw [if_pos hreturn]⟩
  rw [if_neg hreturn]
  split
  · exact .inr ⟨_, rfl⟩
  split
  · exact .inr ⟨_, rfl⟩
  split
  · exact .inr ⟨_, rfl⟩
  split
  · rename_i h
    exact .inl ⟨rfl, ⟨by omega, hreturn⟩, hquote⟩
  · rw [AsciiLiteral.utf16]
    split
    · exact .inr ⟨_, rfl⟩
    · exact .inr ⟨_, rfl⟩

/-- **A literal** is read as the code units that it was written by. -/
theorem run_literal (s : String) (hc : Legible c) (hquote : c ≠ '"') (rest : List Char) :
    (inLine indent tokens depth lines).run (AsciiLiteral.encode s.toList ++ c :: rest) =
      (inLine indent (.text (unitsOf s) :: tokens) depth lines).run (c :: rest) := by
  have hopen : (inLine indent tokens depth lines).step '"' = onLine .quote indent tokens depth lines :=
    rfl
  rw [AsciiLiteral.encode, unitsOf, List.cons_append, List.cons_append, run_cons, hopen]
  cases s.toList with
  | nil =>
    have hclose : (onLine .quote indent tokens depth lines).step '"' =
        onLine .quotes indent tokens depth lines := rfl
    rw [List.flatMap_nil, List.nil_append, List.singleton_append, run_cons, hclose, run_cons, run_cons,
      step_eq hc rfl, step_eq hc rfl, feed_inLine hc.1, feed, if_neg hc.1]
    simp only [onLine, if_neg hquote]
    rfl
  | cons d ds =>
    -- what begins with no quote is a text from there on
    have hbegin (rest : List Char) :
        (onLine .quote indent tokens depth lines).run (AsciiLiteral.escape d ++ rest) =
          (onLine (.text false []) indent tokens depth lines).run (AsciiLiteral.escape d ++ rest) := by
      obtain ⟨e, es, he, hlegible, hne⟩ :
          ∃ e es, AsciiLiteral.escape d = e :: es ∧ Legible e ∧ e ≠ '"' := by
        rcases escape_cases d with ⟨he, hlegible, hne⟩ | ⟨es, he⟩
        · exact ⟨d, [], he, hlegible, hne⟩
        · exact ⟨_, es, he, by decide, by decide⟩
      rw [he, List.cons_append, run_cons, run_cons, step_eq hlegible rfl, step_eq hlegible rfl, feed,
        feed, if_neg hlegible.1, if_neg hlegible.1]
      simp only [onLine, if_neg hne]
      rfl
    have hend (codes : List Nat) : (onLine (.text false codes) indent tokens depth lines).step '"' =
        inLine indent (.text codes.reverse :: tokens) depth lines := rfl
    rw [List.flatMap_cons, List.append_assoc, List.append_assoc, hbegin, ← List.append_assoc,
      ← List.flatMap_cons, run_escapes, List.singleton_append, run_cons, hend, List.append_nil,
      List.reverse_reverse]

/-- The characters of a docstring that is written without a quote. -/
theorem run_doubled {cs : List Char} (hcs : ∀ c ∈ cs, Plain c) (codes : List Nat)
    (rest : List Char) :
    (onLine (.text true codes) indent tokens depth lines).run (TripleQuoted.escape cs ++ rest) =
      (onLine (.text true ((cs.map Char.toNat).reverse ++ codes)) indent tokens depth lines).run rest := by
  induction cs generalizing codes with
  | nil => rfl
  | cons c cs ih =>
    rw [List.forall_mem_cons] at hcs
    obtain ⟨⟨hc, hquote, hline⟩, hcs⟩ := hcs
    rw [List.map_cons, List.reverse_cons, List.append_assoc, List.singleton_append]
    by_cases hslash : c = '\\'
    · have hescape : TripleQuoted.escape (c :: cs) = '\\' :: '\\' :: TripleQuoted.escape cs := by
        rw [hslash, TripleQuoted.escape]
      rw [hescape, ← ih hcs, hslash]
      rfl
    · have hescape : TripleQuoted.escape (c :: cs) = c :: TripleQuoted.escape cs := by
        rw [TripleQuoted.escape]
        · exact fun _ h _ => hquote h
        · exact fun h => hslash h
      rw [hescape, List.cons_append, run_plain hc hquote hslash hline, ih hcs]

/-- **A docstring** without quotes and line ends is read as its text. -/
theorem run_docstring {s : String} (hs : ∀ c ∈ s.toList, Plain c)
    (rest : List Char) :
    (inLine indent tokens depth lines).run (TripleQuoted.encode s.toList ++ rest) =
      (inLine indent (.text (codesOf s) :: tokens) depth lines).run rest := by
  have hopen : (inLine indent tokens depth lines).run TripleQuoted.delimiter =
      onLine (.text true []) indent tokens depth lines := rfl
  have hend (codes : List Nat) :
      (onLine (.text true codes) indent tokens depth lines).run TripleQuoted.delimiter =
        inLine indent (.text codes.reverse :: tokens) depth lines := rfl
  rw [TripleQuoted.encode, List.append_assoc, List.append_assoc, run_append, hopen, run_doubled hs,
    run_append, hend, List.append_nil, List.reverse_reverse, codesOf]

/-! ## Comments and null characters -/

theorem run_comment {cs : List Char} (hcs : ∀ c ∈ cs, Legible c ∧ c ≠ '\n') :
    (onLine .comment indent tokens depth lines).run cs =
      onLine .comment indent tokens depth lines := by
  induction cs with
  | nil => rfl
  | cons c cs ih =>
    rw [List.forall_mem_cons] at hcs
    obtain ⟨⟨hc, hline⟩, hcs⟩ := hcs
    rw [run_cons, step_eq hc rfl, feed, if_neg hc.1]
    simp only [onLine, if_neg hline]
    exact ih hcs

theorem run_failed (h : s.mode = .failed) (cs : List Char) : (s.run cs).mode = .failed := by
  induction cs generalizing s with
  | nil => exact h
  | cons c cs ih =>
    have hfeed (d : Char) : (s.feed d).mode = .failed := by
      rw [feed]
      split
      · rfl
      · simp only [h]
    refine ih ?_
    rw [step]
    repeat' split
    · exact hfeed _
    · exact h
    · exact hfeed _

/-- Nothing is read from characters with a null character among them. -/
theorem run_null {cs : List Char} (h : ∃ c ∈ cs, c.toNat = 0) (s : State) :
    (s.run cs).mode = .failed := by
  obtain ⟨c, hc, hnull⟩ := h
  obtain ⟨before, after, rfl⟩ := List.append_of_mem hc
  rw [run_append, run_cons]
  refine run_failed ?_ after
  have hreturn : c ≠ '\r' := by
    rintro rfl
    cases hnull
  have hline : c ≠ '\n' := by
    rintro rfl
    cases hnull
  rw [step, if_neg hreturn, if_neg (fun h => hline h.1), feed, if_pos hnull]
  rfl

end State

theorem lines?_of_null {cs : List Char} (h : ∃ c ∈ cs, c.toNat = 0) : lines? cs = none := by
  rw [lines?]
  simp only [State.run_null h]

/-! ## Pieces of a line -/

/-- A piece of a line. -/
inductive Piece
  /-- A name. -/
  | name (cs : List Char)
  /-- A sign or a bracket. -/
  | sign (c : Char)
  /-- The literal of a text. -/
  | literal (s : String)
  /-- A docstring. -/
  | docstring (s : String)
  /-- A space. -/
  | space
  /-- The end of a line where a bracket is open. -/
  | lineEnd

namespace Piece

/-- The name that a word is. -/
def word (s : String) : Piece :=
  .name s.toList

/-- How the piece is written. -/
def spelling : Piece → List Char
  | .name cs => cs
  | .sign c => [c]
  | .literal s => AsciiLiteral.encode s.toList
  | .docstring s => TripleQuoted.encode s.toList
  | .space => [' ']
  | .lineEnd => ['\n']

/-- The token that the piece is read as. -/
def token? : Piece → Option Token
  | .name cs => some (.name cs)
  | .sign c => some (.mark c)
  | .literal s => some (.text (unitsOf s))
  | .docstring s => some (.text (codesOf s))
  | .space => none
  | .lineEnd => none

/-- How many brackets are open behind the piece when there are `depth` in front of it; nothing if the piece
cannot stand there. -/
def depth? (depth : Nat) : Piece → Option Nat
  | .name cs => if cs ≠ [] ∧ ∀ c ∈ cs, isNameChar c = true then some depth else none
  | .sign c =>
    if c ∈ signs then some depth
    else if c = '(' ∨ c = '[' then some (depth + 1)
    else if (c = ')' ∨ c = ']') ∧ 0 < depth then some (depth - 1)
    else none
  | .literal _ => some depth
  | .docstring s =>
    if ∀ c ∈ s.toList, Plain c then some depth else none
  | .space => some depth
  | .lineEnd => if 0 < depth then some depth else none

/-- May the piece stand before the character? -/
def Ends (p : Piece) (c : Char) : Prop :=
  match p with
  | .name _ => Legible c ∧ isNameChar c = false ∧ c ≠ '"'
  | .literal _ => Legible c ∧ c ≠ '"'
  | _ => True

/-- May the piece `q` stand behind the piece `p`? -/
def joins (p q : Piece) : Bool :=
  match p, q with
  | .name _, .name _ | .name _, .literal _ | .name _, .docstring _ => false
  | .literal _, .literal _ | .literal _, .docstring _ => false
  | _, _ => true

/-- What is known of a name: it begins with one of its characters. -/
theorem name_spec {cs : List Char} {depth depth' : Nat} (h : (name cs).depth? depth = some depth') :
    depth = depth' ∧ (∀ c ∈ cs, isNameChar c = true) ∧ ∃ c rest, cs = c :: rest := by
  rw [depth?] at h
  split at h
  · rename_i hcs
    exact ⟨Option.some.inj h, hcs.2, List.exists_cons_of_ne_nil hcs.1⟩
  · cases h

/-- What is known of a sign or a bracket. -/
theorem sign_spec {c : Char} {depth depth' : Nat} (h : (sign c).depth? depth = some depth') :
    Legible c ∧ isNameChar c = false ∧ c ≠ '"' ∧ c ≠ ' ' := by
  have hmarks : ∀ d ∈ signs ++ ['(', '[', ')', ']'],
      Legible d ∧ isNameChar d = false ∧ d ≠ '"' ∧ d ≠ ' ' := by
    decide
  refine hmarks c ?_
  rw [depth?] at h
  split at h
  · exact List.mem_append_left _ ‹_›
  split at h
  · rename_i hc
    rcases hc with rfl | rfl <;> decide
  split at h
  · rename_i hc
    rcases hc.1 with rfl | rfl <;> decide
  · cases h

/-- A piece that may stand behind another begins with a character that ends the other. -/
theorem head_of_joins {p q : Piece} (hjoin : p.joins q = true) {depth depth' : Nat}
    (hq : q.depth? depth = some depth') : ∃ c cs, q.spelling = c :: cs ∧ p.Ends c := by
  cases q with
  | name cs =>
    obtain ⟨-, hcs, c, cs, rfl⟩ := name_spec hq
    have hname := hcs c (List.mem_cons_self ..)
    refine ⟨c, cs, rfl, ?_⟩
    cases p with
    | name _ => cases hjoin
    | literal _ =>
      refine ⟨legible_of_isNameChar hname, ?_⟩
      rintro rfl
      cases hname
    | _ => trivial
  | sign c =>
    refine ⟨c, [], rfl, ?_⟩
    obtain ⟨hc, hname, hquote, -⟩ := sign_spec hq
    cases p with
    | name _ => exact ⟨hc, hname, hquote⟩
    | literal _ => exact ⟨hc, hquote⟩
    | _ => trivial
  | literal s =>
    refine ⟨'"', _, rfl, ?_⟩
    cases p with
    | name _ => cases hjoin
    | literal _ => cases hjoin
    | _ => trivial
  | docstring s =>
    refine ⟨'"', _, rfl, ?_⟩
    cases p with
    | name _ => cases hjoin
    | literal _ => cases hjoin
    | _ => trivial
  | space =>
    refine ⟨' ', [], rfl, ?_⟩
    cases p <;> simp [Ends, Legible, isNameChar]
  | lineEnd =>
    refine ⟨'\n', [], rfl, ?_⟩
    cases p <;> simp [Ends, Legible, isNameChar]

/-- A token begins with a character that is no space. -/
theorem head_of_token {p : Piece} (htoken : p.token? ≠ none) {depth depth' : Nat}
    (hp : p.depth? depth = some depth') : ∃ c cs, p.spelling = c :: cs ∧ Legible c ∧ c ≠ ' ' := by
  cases p with
  | name cs =>
    obtain ⟨-, hcs, c, cs, rfl⟩ := name_spec hp
    have hname := hcs c (List.mem_cons_self ..)
    refine ⟨c, cs, rfl, legible_of_isNameChar hname, ?_⟩
    rintro rfl
    cases hname
  | sign c =>
    obtain ⟨hc, -, -, hspace⟩ := sign_spec hp
    exact ⟨c, [], rfl, hc, hspace⟩
  | literal s => exact ⟨'"', _, rfl, by decide, by decide⟩
  | docstring s => exact ⟨'"', _, rfl, by decide, by decide⟩
  | space => exact absurd rfl htoken
  | lineEnd => exact absurd rfl htoken

variable {indent depth depth' : Nat} {tokens : List Token} {lines : List Line}

/-- A piece is read as its token. -/
theorem run_piece {p : Piece} (h : p.depth? depth = some depth') {c : Char} (hc : p.Ends c)
    (rest : List Char) :
    (State.inLine indent tokens depth lines).run (p.spelling ++ c :: rest) =
      (State.inLine indent (p.token?.toList ++ tokens) depth' lines).run (c :: rest) := by
  -- each kind of piece has its run; brackets change the depth, and a break inside of them ends no line
  cases p with
  | name cs =>
    obtain ⟨rfl, hcs, d, ds, rfl⟩ := name_spec h
    exact State.run_name (List.cons_ne_nil d ds) hcs hc.1 hc.2.1 hc.2.2 rest
  | sign d =>
    rw [depth?] at h
    split at h
    · rename_i hd
      obtain rfl := Option.some.inj h
      exact State.run_sign hd _
    split at h
    · rename_i hd
      obtain rfl := Option.some.inj h
      exact State.run_open hd _
    split at h
    · rename_i hd
      obtain rfl := Option.some.inj h
      obtain ⟨n, rfl⟩ : ∃ n, depth = n + 1 := ⟨depth - 1, by omega⟩
      exact State.run_close hd.1 _
    · cases h
  | literal s =>
    obtain rfl := Option.some.inj h
    exact State.run_literal s hc.1 hc.2 rest
  | docstring s =>
    rw [depth?] at h
    split at h
    · rename_i hs
      obtain rfl := Option.some.inj h
      exact State.run_docstring hs _
    · cases h
  | space =>
    obtain rfl := Option.some.inj h
    exact State.run_space _
  | lineEnd =>
    rw [depth?] at h
    split at h
    · obtain rfl := Option.some.inj h
      obtain ⟨n, rfl⟩ : ∃ n, depth = n + 1 := ⟨depth - 1, by omega⟩
      exact State.run_break _
    · cases h

theorem ends_newline (p : Piece) : p.Ends '\n' := by
  cases p <;> simp [Ends, Legible, isNameChar]

/-- **Pieces are read as their tokens**, up to the end of a line. -/
theorem run_pieces {ps : List Piece} (hjoin : ps.IsChain (joins · · = true))
    (hdepth : ps.foldlM depth? depth = some depth') (rest : List Char) :
    (State.inLine indent tokens depth lines).run (ps.flatMap spelling ++ '\n' :: rest) =
      (State.inLine indent ((ps.filterMap token?).reverse ++ tokens) depth' lines).run
        ('\n' :: rest) := by
  induction ps generalizing depth tokens with
  | nil =>
    obtain rfl := Option.some.inj hdepth
    rfl
  | cons p ps ih =>
    rw [List.foldlM_cons] at hdepth
    obtain ⟨between, hp, hps⟩ := Option.bind_eq_some_iff.mp hdepth
    -- the piece is over where the next one begins, or the line ends
    have hrest : (State.inLine indent tokens depth lines).run
        (p.spelling ++ (ps.flatMap spelling ++ '\n' :: rest)) =
        (State.inLine indent (p.token?.toList ++ tokens) between lines).run
          (ps.flatMap spelling ++ '\n' :: rest) := by
      cases ps with
      | nil => exact run_piece hp p.ends_newline rest
      | cons q qs =>
        rw [List.isChain_cons_cons] at hjoin
        rw [List.foldlM_cons] at hps
        obtain ⟨_, hq, -⟩ := Option.bind_eq_some_iff.mp hps
        obtain ⟨c, cs, hspelling, hends⟩ := head_of_joins hjoin.1 hq
        rw [List.flatMap_cons, hspelling, List.cons_append, List.cons_append]
        exact run_piece hp hends _
    rw [List.flatMap_cons, List.append_assoc, hrest, ih hjoin.tail hps]
    cases htoken : p.token? with
    | none => simp [htoken]
    | some t => simp [htoken]

/-- Pieces behind which anything may stand can be put together from parts. -/
theorem isChain_flatMap {α : Type} {f : α → List Piece} {xs : List α}
    (h : ∀ x ∈ xs, (f x).IsChain (joins · · = true) ∧
      ∀ p ∈ (f x).getLast?, ∀ q, p.joins q = true) :
    (xs.flatMap f).IsChain (joins · · = true) := by
  induction xs with
  | nil => exact .nil
  | cons x xs ih =>
    rw [List.forall_mem_cons] at h
    rw [List.flatMap_cons]
    exact h.1.1.append (ih h.2) fun p hp q _ => h.1.2 p hp q

end Piece

/-! ## Lines -/

/-- **Lines of text are read as logical lines**, whatever stands before them. -/
def Reads (texts : List String) (lines : List Line) : Prop :=
  ∀ before, (State.atStart before).run (texts.flatMap fun t => t.toList ++ ['\n']) =
    State.atStart (lines.reverse ++ before)

namespace Reads

variable {texts texts' : List String} {lines lines' : List Line}

theorem nil : Reads [] [] :=
  fun _ => rfl

theorem append (h : Reads texts lines) (h' : Reads texts' lines') :
    Reads (texts ++ texts') (lines ++ lines') := by
  intro before
  rw [List.flatMap_append, State.run_append, h before, h' _, List.reverse_append, List.append_assoc]

theorem flatMap {α : Type} {f : α → List String} {g : α → List Line} {xs : List α}
    (h : ∀ x ∈ xs, Reads (f x) (g x)) : Reads (xs.flatMap f) (xs.flatMap g) := by
  induction xs with
  | nil => exact nil
  | cons x xs ih =>
    rw [List.forall_mem_cons] at h
    rw [List.flatMap_cons, List.flatMap_cons]
    exact h.1.append (ih h.2)

/-- An empty line is no logical line. -/
theorem empty : Reads [""] [] :=
  fun _ => rfl

/-- A comment is no logical line. -/
theorem comment {text : String} {indent : Nat} {cs : List Char}
    (htext : text.toList = List.replicate indent ' ' ++ '#' :: cs)
    (hcs : ∀ c ∈ cs, Legible c ∧ c ≠ '\n') : Reads [text] [] := by
  intro before
  have hopen : (State.inLine indent [] 0 before).step '#' = State.onLine .comment indent [] 0 before :=
    rfl
  rw [List.flatMap_singleton, htext, State.run_append, State.run_indent (by decide) (by decide),
    State.run_cons _ '#', hopen, State.run_comment hcs]
  rfl

/-- **Lines that pieces spell** are read as one logical line. -/
theorem pieces {indent : Nat} {p : Piece} {ps : List Piece}
    (htext : texts.flatMap (fun t => t.toList ++ ['\n']) =
      List.replicate indent ' ' ++ ((p :: ps).flatMap Piece.spelling ++ ['\n']))
    (hjoin : (p :: ps).IsChain (Piece.joins · · = true))
    (hdepth : (p :: ps).foldlM Piece.depth? 0 = some 0) (htoken : p.token? ≠ none) :
    Reads texts [⟨indent, (p :: ps).filterMap Piece.token?⟩] := by
  intro before
  obtain ⟨_, hp, -⟩ := Option.bind_eq_some_iff.mp hdepth
  obtain ⟨c, cs, hspelling, hc, hspace⟩ := Piece.head_of_token htoken hp
  obtain ⟨t, ht⟩ := Option.ne_none_iff_exists'.mp htoken
  rw [htext, List.flatMap_cons, hspelling, List.cons_append, List.cons_append,
    State.run_indent hc hspace, ← List.cons_append, ← List.cons_append, ← hspelling,
    ← List.flatMap_cons, Piece.run_pieces hjoin hdepth, State.run_end, State.run_nil]
  · simp
  · simp [ht]

/-- What is read line by line is read as a whole. -/
theorem lines_eq (h : Reads texts lines) :
    lines? (texts.flatMap fun t => t.toList ++ ['\n']) = some lines := by
  rw [lines?, h []]
  simp [State.atStart]

end Reads

end CommandWrap.Source
