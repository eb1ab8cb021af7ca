import CommandWrap.Proofs.Names
import CommandWrap.Proofs.Spelling

/-!
# The characters of names

Names of wrappers and attributes consist of the characters that the reader takes for parts of a name.  The
elements of a planned path do so too, apart from the hyphens between their pieces: capitals are put in their
places one by one, and what becomes part of an identifier was part of a name before.  So no title holds a
quote or ends a line, and a text that quotes a title can stand in a docstring (`plain_quoted`).
-/
namespace CommandWrap

open Source (Legible Plain isNameChar)

/-! ## Tables -/

namespace Unicode

/-- A property that every character of a table has if those in ASCII have it. -/
theorem RangeTable.isNameChar_of_contains {table : RangeTable}
    (h : ∀ n < 128, find n table.ranges = true → isNameChar (Char.ofNat n) = true) {c : Char}
    (hc : table.contains c = true) : isNameChar c = true := by
  by_cases hlow : c.toNat < 128
  · have := h c.toNat hlow hc
    rwa [Char.ofNat_toNat] at this
  · simp [isNameChar, Nat.le_of_not_lt hlow]

theorem isNameChar_of_isIdentifierStart {c : Char} (h : isIdentifierStart c = true) :
    isNameChar c = true :=
  RangeTable.isNameChar_of_contains (by decide +kernel) h

theorem isNameChar_of_isIdentifierContinue {c : Char} (h : isIdentifierContinue c = true) :
    isNameChar c = true :=
  RangeTable.isNameChar_of_contains (by decide +kernel) h

theorem isNameChar_of_isWord {c : Char} (h : isWord c = true) : isNameChar c = true :=
  RangeTable.isNameChar_of_contains (by decide +kernel) h

theorem isIdentifier_spec {cs : List Char} (h : isIdentifier cs = true) :
    cs ≠ [] ∧ ∀ c ∈ cs, isNameChar c = true := by
  cases cs with
  | nil => cases h
  | cons c cs =>
    rw [isIdentifier, Bool.and_eq_true, List.all_eq_true] at h
    refine ⟨List.cons_ne_nil _ _, ?_⟩
    rw [List.forall_mem_cons]
    exact ⟨isNameChar_of_isIdentifierStart h.1, fun d hd =>
      isNameChar_of_isIdentifierContinue (h.2 d hd)⟩

/-- What becomes part of a name in upper case was part of a name. -/
theorem isNameChar_of_upper {c : Char} (h : ∀ d ∈ upper c, isNameChar d = true) :
    isNameChar c = true := by
  by_cases hlow : c.toNat < 128
  · rw [upper, if_pos hlow, List.forall_mem_singleton] at h
    have hascii : ∀ n < 128, isNameChar (Char.ofNat n).toUpper = true →
        isNameChar (Char.ofNat n) = true := by
      decide +kernel
    have := hascii c.toNat hlow
    rw [Char.ofNat_toNat] at this
    exact this h
  · -- the reader takes every character beyond ASCII for one of a name
    simp [isNameChar, Nat.le_of_not_lt hlow]

end Unicode

/-! ## Attributes -/

namespace Name

theorem isNameChar_fieldChar (c : Char) : isNameChar (fieldChar c) = true := by
  rw [fieldChar]
  split
  · exact Unicode.isNameChar_of_isWord ‹_›
  · rfl

theorem guardDigit_spec {cs : List Char} (hne : cs ≠ []) (hcs : ∀ c ∈ cs, isNameChar c = true) :
    guardDigit cs ≠ [] ∧ ∀ c ∈ guardDigit cs, isNameChar c = true := by
  cases cs with
  | nil => exact absurd rfl hne
  | cons c cs =>
    rw [guardDigit]
    split
    · have hflag : ∀ d ∈ "flag_".toList, isNameChar d = true := by decide
      refine ⟨by simp, ?_⟩
      rw [List.forall_mem_append]
      exact ⟨hflag, hcs⟩
    · exact ⟨hne, hcs⟩

theorem guardTaken_cases (s : String) :
    guardTaken s = s ++ "_" ∨ guardTaken s = s ∧ s ∉ keywords ∧ s ∉ helpers := by
  rw [guardTaken]
  split
  · exact .inl rfl
  · rename_i h
    rw [Bool.or_eq_true, not_or, List.contains_iff_mem, List.contains_iff_mem] at h
    exact .inr ⟨rfl, h⟩

/-- No attribute is a word of the language or a helper. -/
theorem guardTaken_free (s : String) : guardTaken s ∉ keywords ∧ guardTaken s ∉ helpers := by
  rcases guardTaken_cases s with h | ⟨h, hfree⟩
  · -- no word that is taken ends in a low line
    have hends : ∀ w ∈ keywords ++ helpers, w.toList.getLast? ≠ some '_' := by decide
    have hlast : (guardTaken s).toList.getLast? = some '_' := by
      rw [h, String.toList_append]
      simp
    constructor
    · exact fun hmem => hends _ (List.mem_append_left _ hmem) hlast
    · exact fun hmem => hends _ (List.mem_append_right _ hmem) hlast
  · rwa [h]

/-- **An attribute** is a run of name characters, and no word of the language or helper. -/
theorem field?_spec {flagName attr : String} (h : field? flagName = some attr) :
    attr.toList ≠ [] ∧ (∀ c ∈ attr.toList, isNameChar c = true) ∧ attr ∉ keywords ∧
      attr ∉ helpers := by
  rw [field?] at h
  split at h
  · cases h
  rename_i hne
  obtain rfl := Option.some.inj h
  have hflag : flagName.toList.map fieldChar ≠ [] := by
    simpa using hne
  have hchars : ∀ c ∈ flagName.toList.map fieldChar, isNameChar c = true := by
    intro c hc
    obtain ⟨d, -, rfl⟩ := List.mem_map.mp hc
    exact isNameChar_fieldChar d
  obtain ⟨hguard, hname⟩ := guardDigit_spec hflag hchars
  refine ⟨?_, ?_, guardTaken_free _⟩
  · rcases guardTaken_cases (String.ofList (guardDigit (flagName.toList.map fieldChar))) with h | ⟨h, -⟩
    · rw [h]
      simp
    · rw [h, String.toList_ofList]
      exact hguard
  · rcases guardTaken_cases (String.ofList (guardDigit (flagName.toList.map fieldChar))) with h | ⟨h, -⟩
    · have hline : ∀ c ∈ "_".toList, isNameChar c = true := by decide
      rw [h, String.toList_append, String.toList_ofList, List.forall_mem_append]
      exact ⟨hname, hline⟩
    · rw [h, String.toList_ofList]
      exact hname

/-! ## Paths -/

/-- A character other than a hyphen is in one of the pieces between hyphens. -/
theorem mem_splitHyphens {c : Char} {cs : List Char} (hc : c ∈ cs) (hne : c ≠ '-') :
    ∃ piece ∈ splitHyphens cs, c ∈ piece := by
  induction cs with
  | nil => cases hc
  | cons d cs ih =>
    rw [splitHyphens]
    split
    · rename_i hd
      rcases List.mem_cons.mp hc with rfl | hc
      · exact absurd hd hne
      · obtain ⟨piece, hpiece, hmem⟩ := ih hc
        exact ⟨piece, List.mem_cons_of_mem _ hpiece, hmem⟩
    · split
      · rename_i hnil
        rcases List.mem_cons.mp hc with rfl | hc
        · exact ⟨[c], List.mem_cons_self .., List.mem_cons_self ..⟩
        · obtain ⟨piece, hpiece, -⟩ := ih hc
          rw [hnil] at hpiece
          cases hpiece
      · rename_i first rest hsplit
        rcases List.mem_cons.mp hc with rfl | hc
        · exact ⟨c :: first, List.mem_cons_self .., List.mem_cons_self ..⟩
        · obtain ⟨piece, hpiece, hmem⟩ := ih hc
          rw [hsplit] at hpiece
          rcases List.mem_cons.mp hpiece with rfl | hpiece
          · exact ⟨d :: piece, List.mem_cons_self .., List.mem_cons_of_mem _ hmem⟩
          · exact ⟨piece, List.mem_cons_of_mem _ hpiece, hmem⟩

theorem isNameChar_of_capitalize {cs : List Char} (h : ∀ c ∈ capitalize cs, isNameChar c = true) :
    ∀ c ∈ cs, isNameChar c = true := by
  cases cs with
  | nil => simp
  | cons c cs =>
    rw [capitalize, List.forall_mem_append] at h
    rw [List.forall_mem_cons]
    exact ⟨Unicode.isNameChar_of_upper h.1, h.2⟩

/-- **The characters of a path** whose word is an identifier: name characters and hyphens. -/
theorem isNameChar_of_path {path : List String} (h : Unicode.isIdentifier (pathWord path) = true)
    {element : String} (helement : element ∈ path) {c : Char} (hc : c ∈ element.toList)
    (hne : c ≠ '-') : isNameChar c = true := by
  obtain ⟨piece, hpiece, hmem⟩ := mem_splitHyphens hc hne
  refine isNameChar_of_capitalize (fun d hd => ?_) c hmem
  refine (Unicode.isIdentifier_spec h).2 d ?_
  rw [pathWord, pascal, List.mem_flatMap]
  exact ⟨piece, List.mem_flatMap.mpr ⟨element, helement, hpiece⟩, hd⟩

end Name

/-! ## Titles -/

/-- The characters of titles. -/
def IsTitleChar (c : Char) : Prop :=
  isNameChar c = true ∨ c = '-' ∨ c = ' '

theorem plain_of_isTitleChar {c : Char} (h : IsTitleChar c) : Plain c ∧ c ≠ '\'' := by
  rcases h with h | rfl | rfl
  · refine ⟨⟨Source.legible_of_isNameChar h, ?_, ?_⟩, ?_⟩
    all_goals
      rintro rfl
      cases h
  · decide
  · decide

theorem isTitleChar_of_path {path : List String}
    (h : Unicode.isIdentifier (Name.pathWord path) = true) {element : String}
    (helement : element ∈ path) : ∀ c ∈ element.toList, IsTitleChar c := by
  intro c hc
  by_cases hne : c = '-'
  · exact .inr (.inl hne)
  · exact .inl (Name.isNameChar_of_path h helement hc hne)

theorem isTitleChar_pathTitle {path : List String}
    (h : ∀ element ∈ path, ∀ c ∈ element.toList, IsTitleChar c) :
    ∀ c ∈ (pathTitle path).toList, IsTitleChar c := by
  induction path with
  | nil => simp [pathTitle]
  | cons first rest ih =>
    rw [List.forall_mem_cons] at h
    cases rest with
    | nil => simpa [pathTitle] using h.1
    | cons second rest =>
      have hspace : ∀ c ∈ " ".toList, IsTitleChar c := by
        simp [IsTitleChar]
      rw [pathTitle, String.intercalate_cons_cons, String.toList_append, String.toList_append,
        List.forall_mem_append, List.forall_mem_append]
      exact ⟨⟨h.1, hspace⟩, ih h.2⟩

/-- A digit that is written can stand in a docstring. -/
theorem plain_hexPadded (width n : Nat) : ∀ c ∈ Text.hexPadded width n, Plain c := by
  have hdigit : ∀ k < 16, Plain (Text.hexDigit k) := by decide
  induction width with
  | zero => simp [Text.hexPadded]
  | succ width ih =>
    rw [Text.hexPadded, List.forall_mem_cons]
    exact ⟨hdigit _ (Nat.mod_lt _ (by decide)), ih⟩

/-- **A quoted title** can stand in a docstring. -/
theorem plain_quoted {s : String} (hs : ∀ c ∈ s.toList, IsTitleChar c) :
    ∀ c ∈ (Text.quoted s).toList, Plain c := by
  have hmark : Text.Quoted.mark s.toList = '\'' := by
    have hfree : s.toList.contains '\'' = false := by
      rw [Bool.eq_false_iff, Ne, List.contains_iff_mem]
      exact fun h => (plain_of_isTitleChar (hs _ h)).2 rfl
    rw [Text.Quoted.mark, hfree]
    rfl
  have hcode (n : Nat) : ∀ c ∈ Text.Quoted.escapeCode n, Plain c := by
    rw [Text.Quoted.escapeCode]
    repeat' split
    all_goals
      rw [List.forall_mem_cons, List.forall_mem_cons]
      exact ⟨by decide, by decide, plain_hexPadded _ _⟩
  -- whatever branch the escape takes, what it writes is plain
  have hescape {d : Char} (hd : IsTitleChar d) : ∀ c ∈ Text.Quoted.escape '\'' d, Plain c := by
    obtain ⟨hplain, hquote⟩ := plain_of_isTitleChar hd
    rw [Text.Quoted.escape]
    split
    · simpa using ⟨(by decide : Plain '\\'), hplain⟩
    split
    · decide
    split
    · decide
    split
    · decide
    split
    · exact hcode _
    split
    · simpa using hplain
    split
    · simpa using hplain
    · exact hcode _
  rw [Text.quoted, String.toList_ofList, Text.Quoted.encode]
  simp only [hmark]
  rw [List.forall_mem_append, List.forall_mem_cons]
  refine ⟨⟨by decide, ?_⟩, by decide⟩
  intro c hc
  obtain ⟨d, hd, hc⟩ := List.mem_flatMap.mp hc
  exact hescape (hs d hd) c hc

end CommandWrap
