import Mathlib.Data.String.Basic
import CommandWrap.Proofs.SettingSources
import CommandWrap.Settings.Composition

/-!
# Settings composed of one file

Named settings may be put together from many files.  Where a file stands alone, its entries are what is put together
(`Composition.steps_alone`, `Composition.mergeSteps_alone`), and only typed overrides change them.  An override of a
setting merges its value into what the setting holds, so it replaces everything but maps; it adds no setting
(`Composition.apply_change`).
-/
namespace CommandWrap

/-! ## Merging into nothing -/

theorem Datum.insertEntry_of_new {k v : Datum} {entries : List (Datum × Datum)}
    (hnew : ∀ e ∈ entries, Datum.sameKey e.1 k = false) : Datum.insertEntry k v entries = entries ++ [(k, v)] := by
  induction entries with
  | nil => rfl
  | cons e entries ih =>
    obtain ⟨l, w⟩ := e
    rw [List.forall_mem_cons] at hnew
    rw [Datum.insertEntry, hnew.1, if_neg Bool.false_ne_true, ih hnew.2, List.cons_append]

namespace KeyPath

/-- Entries with new keys come behind the others. -/
theorem mergeEntries_of_new {new entries : List (Datum × Datum)} (hdistinct : Datum.HasDistinctKeys (entries ++ new))
    (hmerge : ∀ e ∈ new, merge false .null e.2 = .ok e.2) : mergeEntries false entries new = .ok (entries ++ new) := by
  induction new generalizing entries with
  | nil => rw [mergeEntries, List.append_nil]
  | cons e new ih =>
    obtain ⟨k, v⟩ := e
    rw [List.forall_mem_cons] at hmerge
    have hnew : ∀ e ∈ entries, Datum.sameKey e.1 k = false :=
      fun e he => (List.pairwise_append.mp hdistinct).2.2 e he (k, v) (List.mem_cons_self ..)
    have hold : entries.find? (fun e => Datum.sameKey e.1 k) = none :=
      List.find?_eq_none.mpr fun e he => Bool.eq_false_iff.mp (hnew e he)
    rw [List.append_cons] at hdistinct ⊢
    rw [mergeEntries, hold, Option.map_none, Option.getD_none, hmerge.1]
    change mergeEntries false (Datum.insertEntry k v entries) new = _
    rw [Datum.insertEntry_of_new hnew]
    exact ih hdistinct hmerge.2

/-- **Sound data stays as it is** where it is merged into nothing. -/
theorem merge_null {v : Datum} (hv : v.Sound) : merge false .null v = .ok v := by
  induction hv with
  | @map entries hdistinct hkeys hvalues _ ih =>
    rw [merge.eq_def]
    dsimp only
    have hmerged : mergeEntries false [] entries = .ok entries := mergeEntries_of_new hdistinct ih
    rw [hmerged]
    rfl
  | _ => rw [merge.eq_def]

end KeyPath

/-! ## Names of files -/

/-- A text is not divided where the separator does not begin. -/
theorem splitOn_of_not_mem {sep name : String} (hsep : sep ≠ "") (h : String.Pos.Raw.get sep 0 ∉ name.toList) :
    name.splitOn sep = [name] := by
  -- the characters in front of the place that was reached stay in the first part
  have hrest (l r : List Char) (hr : String.Pos.Raw.get sep 0 ∉ r) :
      (String.ofList (l ++ r)).splitOnAux sep 0 ⟨String.utf8Len l⟩ 0 [] = [String.ofList (l ++ r)] := by
    induction r generalizing l with
    | nil =>
      rw [String.splitOnAux, if_pos ((String.atEnd_of_valid l []).mpr rfl)]
      simpa using String.extract_of_valid [] l []
    | cons c r ih =>
      rw [List.mem_cons, not_or] at hr
      have hend : ¬ String.Pos.Raw.atEnd (String.ofList (l ++ c :: r)) ⟨String.utf8Len l⟩ = true :=
        mt (String.atEnd_of_valid l (c :: r)).mp (List.cons_ne_nil c r)
      have hget : String.Pos.Raw.get (String.ofList (l ++ c :: r)) ⟨String.utf8Len l⟩ = c :=
        String.get_of_valid l (c :: r)
      have hnext : String.Pos.Raw.next (String.ofList (l ++ c :: r)) (String.Pos.Raw.unoffsetBy ⟨String.utf8Len l⟩ 0) =
          ⟨String.utf8Len (l ++ [c])⟩ := by
        rw [String.utf8Len_append, String.utf8Len_cons, String.utf8Len_nil, Nat.zero_add]
        exact String.next_of_valid l c r
      have hother : ¬ (c == String.Pos.Raw.get sep 0) = true := by
        rw [beq_iff_eq]
        exact Ne.symm hr.1
      rw [String.splitOnAux, if_neg hend, hget, if_neg hother, hnext]
      simpa using ih (l ++ [c]) hr.2
  have hsplit := hrest [] name.toList h
  rw [List.nil_append, String.ofList_toList] at hsplit
  rw [String.splitOn, if_neg (by simpa using hsep)]
  exact hsplit

namespace Settings

namespace Composition

variable {s : Surroundings} {f : Folder} {dir : Path} {name : String}

/-- The file of named settings in their folder. -/
def fileOf (dir : Path) (name : String) : Path :=
  dir.below (Path.ofText (fileName name))

theorem plainPath_of_slash (hname : '/' ∉ name.toList) : plainPath name = name := by
  rw [plainPath, if_neg]
  intro hslash
  obtain ⟨rest, hrest⟩ := String.startsWith_string_iff.mp hslash
  refine hname ?_
  rw [← hrest]
  exact List.mem_append_left _ (by decide)

theorem groupOf_of_slash (hname : '/' ∉ name.toList) : groupOf name = [] := by
  rw [groupOf, plainPath_of_slash hname, splitOn_of_not_mem (by decide) hname]
  rfl

/-- A line that is no comment names no place for its entries. -/
theorem packageOf_of_line {text : List Char} (hline : '\n' ∉ text)
    (hcomment : (Text.strip (String.ofList text)).startsWith "#" = false) : packageOf text = none := by
  have hlines : (String.ofList text).splitOn "\n" = [String.ofList text] :=
    splitOn_of_not_mem (by decide) (by rw [String.toList_ofList]; exact hline)
  rw [packageOf, hlines]
  by_cases hempty : Text.strip (String.ofList text) = ""
  · simp [hempty]
  · simp [hempty, hcomment]

/-- **A file that stands alone**: it lies in the folder itself, and it names neither other files nor a place for its
entries. -/
structure Alone (s : Surroundings) (f : Folder) (dir : Path) (name : String) (own : List (Datum × Datum)) : Prop where
  name_plain : '/' ∉ name.toList
  reads : readFile s f (fileOf dir name) = .ok (.map own)
  no_defaults : Datum.lookup defaultsKey own = none
  no_package : ∀ text, fileText s f (fileOf dir name) = .ok text → packageOf text = none

/-- A file of one line that is no comment stands alone if it names no other files. -/
theorem Alone.of_line {own : List (Datum × Datum)} {text : List Char} (hname : '/' ∉ name.toList)
    (hread : readFile s f (fileOf dir name) = .ok (.map own)) (hdefaults : Datum.lookup defaultsKey own = none)
    (htext : fileText s f (fileOf dir name) = .ok text) (hline : '\n' ∉ text)
    (hcomment : (Text.strip (String.ofList text)).startsWith "#" = false) : Alone s f dir name own where
  name_plain := hname
  reads := hread
  no_defaults := hdefaults
  no_package := by
    intro read hread
    rw [htext] at hread
    cases hread
    exact packageOf_of_line hline hcomment

section alone

variable {own : List (Datum × Datum)} (h : Alone s f dir name own)

include h

theorem Alone.readPart : readPart s f dir name = .ok { entries := own, defaults := [.self], package? := none } := by
  obtain ⟨text, htext, hdata⟩ := bind_eq_ok_iff.mp h.reads
  have hentries : own.filter (!·.1.isText defaultsKey) = own := by
    refine List.filter_eq_self.mpr fun e he => ?_
    rw [Datum.lookup_eq_none_iff.mp h.no_defaults e he]
    rfl
  have hdefaults : defaults? own = some [.self] := by
    rw [defaults?, h.no_defaults]
    rfl
  rw [Composition.readPart, plainPath_of_slash h.name_plain, ← fileOf, hasFile_of_readFile h.reads, htext]
  simp only [Bool.not_true, Bool.false_eq_true, if_false, bind_ok, hdata, hdefaults, hentries, h.no_package text htext]
  rfl

omit h in
theorem allSteps_self (choices : Choices) (fuel : Nat) (group : List String) (step : Step) :
    allSteps s f dir choices (fuel + 1) group step [.self] = .ok [step] := by
  rw [allSteps, allSteps]
  rfl

/-- The entries of the file are the only step. -/
theorem Alone.steps (choices : Choices) (fuel : Nat) :
    steps s f dir choices (fuel + 2) name = .ok [.part name (.map own)] := by
  rw [Composition.steps.eq_def]
  dsimp only
  rw [h.readPart, bind_ok]
  dsimp only
  rw [groupOf_of_slash h.name_plain, plainPath_of_slash h.name_plain, allSteps_self]
  rfl

theorem Alone.mergeSteps : mergeSteps [.part name (.map own)] = .ok (.map own) := by
  have hmerge : KeyPath.merge false (.map []) (.map own) = .ok (.map own) := by
    rw [← KeyPath.merge_null (sound_of_readFile h.reads), KeyPath.merge.eq_def, KeyPath.merge.eq_def]
  have hnames : ¬ [name].eraseDups.length < [name].length := by simp [List.eraseDups_cons]
  rw [Composition.mergeSteps]
  refine (if_neg hnames).trans ?_
  change List.foldlM _ _ [(name, Datum.map own)] = _
  rw [List.foldlM_cons]
  dsimp only
  rw [hmerge]
  rfl

/-- **What is put together** is the file with the typed overrides, unless one of them makes a choice. -/
theorem Alone.data_eq {words : List String} {os : List TypedOverride} (hos : words.mapM TypedOverride.ofText? = some os)
    (hnone : ∀ o ∈ os, choiceOf? f dir o = none) : data s f dir name words = os.foldlM apply (.map own) := by
  have hsteps := h.steps (os.filterMap (choiceOf? f dir)) (2 * f.items.length + 6)
  have hchoices : os.filterMap (choiceOf? f dir) = [] := List.filterMap_eq_nil_iff.mpr hnone
  have hall : os.filter (fun o => (choiceOf? f dir o).isNone) = os :=
    List.filter_eq_self.mpr fun o ho => Option.isNone_iff_eq_none.mpr (hnone o ho)
  rw [Composition.data, hos]
  dsimp only
  rw [hsteps, bind_ok, hchoices, h.mergeSteps, hall]
  rfl

/-- There is nothing to choose among. -/
theorem Alone.choice_eq_none {words : List String} {os : List TypedOverride} {d : Datum}
    (hos : words.mapM TypedOverride.ofText? = some os) (hdata : data s f dir name words = .ok d) :
    ∀ o ∈ os, choiceOf? f dir o = none := by
  have hsteps := h.steps (os.filterMap (choiceOf? f dir)) (2 * f.items.length + 6)
  rw [Composition.data, hos] at hdata
  dsimp only at hdata
  rw [hsteps, bind_ok] at hdata
  split at hdata
  · cases hdata
  rename_i hchoices
  rw [Bool.not_eq_true', Bool.not_eq_false, List.all_eq_true] at hchoices
  intro o ho
  by_contra hchoice
  obtain ⟨c, hc⟩ := Option.ne_none_iff_exists'.mp hchoice
  cases hchoices c (List.mem_filterMap.mpr ⟨o, ho, hc⟩)

end alone

end Composition

/-! ## Words as typed values -/

theorem Literal.ne_of_isPlain {c d : Char} (hc : Literal.isPlain c = true) (hd : Literal.isPlain d = false) : c ≠ d := by
  rintro rfl
  rw [hd] at hc
  cases hc

theorem Literal.skipSpaces_of_isPlain {c : Char} (hc : Literal.isPlain c = true) (cs : List Char) :
    Literal.skipSpaces (c :: cs) = c :: cs := by
  have hspace : Literal.isSpace c = false := by
    simp [Literal.isSpace, Literal.ne_of_isPlain hc (d := ' ') (by decide),
      Literal.ne_of_isPlain hc (d := '\t') (by decide)]
  rw [Literal.skipSpaces, List.dropWhile_cons_of_neg (Bool.eq_false_iff.mp hspace)]

namespace TypedOverride

variable {cs : List Char} (hplain : ∀ c ∈ cs, Literal.isPlain c = true)

include hplain

/-- Characters without a sense of their own are read up to the end. -/
theorem run?_of_plain {fuel : Nat} (hfuel : cs.length < fuel) : run? false fuel cs = some (cs, cs, []) := by
  induction cs generalizing fuel with
  | nil =>
    obtain ⟨fuel, rfl⟩ := Nat.exists_eq_add_one.mpr hfuel
    rfl
  | cons c cs ih =>
    obtain ⟨fuel, rfl⟩ := Nat.exists_eq_add_one.mpr (Nat.zero_lt_of_lt hfuel)
    rw [List.forall_mem_cons] at hplain
    have hne {d : Char} (hd : Literal.isPlain d = false) : c ≠ d := Literal.ne_of_isPlain hplain.1 hd
    have hends : ends false (c :: cs) = false := by
      rw [ends, Literal.skipSpaces_of_isPlain hplain.1]
      simp [hne (d := ',') (by decide), hne (d := ']') (by decide), hne (d := '\x7d') (by decide),
        hne (d := ')') (by decide)]
    have hrest := ih hplain.2 (Nat.lt_of_succ_lt_succ hfuel)
    rw [run?.eq_def]
    dsimp only
    rw [hends, if_neg Bool.false_ne_true]
    split
    · rename_i heq
      cases heq
    · -- a dollar sign begins a reference only in front of a brace
      rename_i heq
      obtain ⟨rfl, rfl⟩ := List.cons.inj heq
      exact absurd (hplain.2 '\x7b' (List.mem_cons_self ..)) (by decide)
    · rename_i heq
      exact absurd (List.cons.inj heq).1 (hne (by decide))
    · rename_i heq
      obtain ⟨rfl, rfl⟩ := List.cons.inj heq
      rw [hplain.1, hrest]
      rfl

/-- Without a parenthesis there is no call. -/
theorem call?_of_plain : call? cs = none := by
  rw [call?]
  generalize cs.takeWhile (fun c => c.isAlphanum || c == '_' || c == '-') = read
  split
  · rename_i rest heq
    have hmem : '(' ∈ cs := by
      have hrest : '(' ∈ Literal.skipSpaces (cs.drop read.length) := heq ▸ List.mem_cons_self ..
      exact List.mem_of_mem_drop ((List.dropWhile_sublist _).subset hrest)
    exact absurd (hplain _ hmem) (by decide)
  · rfl

/-- **A word that is no literal** has itself as its typed value. -/
theorem valueOf?_of_plain (hne : cs ≠ []) (hvalue : Literal.value? cs = none) :
    valueOf? cs = some (.text (String.ofList cs)) := by
  have hrun := run?_of_plain hplain (Nat.lt_succ_self cs.length)
  have hcall := call?_of_plain hplain
  have hliteral : literal cs cs = .text (String.ofList cs) := by
    rw [literal, hvalue, Option.getD_none]
  obtain ⟨c, rest, rfl⟩ := List.exists_cons_of_ne_nil hne
  have hc := hplain c (List.mem_cons_self ..)
  have hdatum (fuel : Nat) : datum? (fuel + 1) (c :: rest) = some (.text (String.ofList (c :: rest)), []) := by
    rw [datum?.eq_def]
    dsimp only
    split
    · rename_i heq
      cases heq
    · rename_i heq
      exact absurd (List.cons.inj heq).1 (Literal.ne_of_isPlain hc (by decide))
    · rename_i heq
      exact absurd (List.cons.inj heq).1 (Literal.ne_of_isPlain hc (by decide))
    · rename_i heq
      obtain ⟨rfl, rfl⟩ := List.cons.inj heq
      have hquote : ¬ (c = '\'' ∨ c = '"') :=
        not_or.mpr ⟨Literal.ne_of_isPlain hc (by decide), Literal.ne_of_isPlain hc (by decide)⟩
      rw [if_neg hquote, hcall, hrun]
      exact congrArg (fun d => some (d, [])) hliteral
  rw [valueOf?, Literal.skipSpaces_of_isPlain hc]
  dsimp only
  rw [hdatum]
  rfl

end TypedOverride

/-! ## Typed overrides -/

namespace SettingOverride

variable (o : SettingOverride)

/-- The value that the text of an override has by its type. -/
def typed? : Option Datum :=
  TypedOverride.valueOf? o.value.toList

theorem isPath_key : TypedOverride.isPath o.key = true := by
  have hpoint : '.' ∉ o.key.toList :=
    (by decide +kernel : ∀ key ∈ keys, '.' ∉ key.toList) o.key o.known
  rw [TypedOverride.isPath, splitOn_of_not_mem (by decide) hpoint]
  exact (by decide +kernel : ∀ key ∈ keys, TypedOverride.isKey key.toList = true) o.key o.known

theorem kindOf_word : TypedOverride.kindOf o.word.toList = (.change, o.word.toList) := by
  have hhead : ∃ c cs, o.key.toList = c :: cs ∧ c ≠ '~' ∧ c ≠ '+' :=
    (by simp [keys] : ∀ key ∈ keys, ∃ c cs, key.toList = c :: cs ∧ c ≠ '~' ∧ c ≠ '+') o.key o.known
  obtain ⟨c, cs, hkey, htilde, hplus⟩ := hhead
  rw [toList_word, hkey, List.cons_append, TypedOverride.kindOf.eq_def]
  split
  · rename_i heq
    exact absurd (List.cons.inj heq).1 htilde
  · rename_i heq
    exact absurd (List.cons.inj heq).1 hplus
  · rename_i heq
    exact absurd (List.cons.inj heq).1 hplus
  · rfl

/-- The word for an override is one of the typed value. -/
theorem ofText?_word : TypedOverride.ofText? o.word = o.typed?.map fun v => ⟨.change, o.key, some v⟩ := by
  have hkey : String.ofList (o.word.toList.takeWhile (· != '=')) = o.key := by
    simp [toList_word, List.takeWhile_append_of_pos o.key_chars]
  have hvalue : o.word.toList.dropWhile (· != '=') = '=' :: o.value.toList := by
    simp [toList_word, List.dropWhile_append_of_pos o.key_chars]
  rw [TypedOverride.ofText?, kindOf_word]
  dsimp only
  rw [hkey, hvalue, o.isPath_key, Bool.true_or, if_neg (by decide), typed?]
  dsimp only
  cases TypedOverride.valueOf? o.value.toList <;> rfl

/-- **A plain word has itself as its typed value.** -/
theorem typed?_of_plain (hplain : ∀ c ∈ o.value.toList, Literal.isPlain c = true)
    (hvalue : Literal.value? o.value.toList = none) : o.typed? = some (.text o.value) := by
  rw [typed?]
  by_cases hempty : o.value.toList = []
  · rw [hempty, String.toList_eq_nil_iff.mp hempty]
    rfl
  · rw [TypedOverride.valueOf?_of_plain hplain hempty hvalue, String.ofList_toList]

end SettingOverride

namespace Composition

/-- **A typed override of a setting** merges its value into what the setting holds, which must be there. -/
theorem apply_change (o : SettingOverride) (v : Datum) (entries : List (Datum × Datum)) :
    apply (.map entries) ⟨.change, o.key, some v⟩ =
      match KeyPath.merge true (Datum.field o.key entries) v with
      | .error .noPlace => .error .notComposed
      | .error fault => .error (.badPlace fault)
      | .ok w =>
        if (Datum.lookup o.key entries).isSome = true ∧ isUsable v = true then
          .ok (.map (Datum.insertEntry (.text o.key) w entries))
        else .error .notComposed := by
  have hthere : (KeyPath.place? o.key entries).isNone = !(Datum.lookup o.key entries).isSome := by
    rw [Bool.eq_iff_iff, Option.isNone_iff_eq_none, Bool.not_eq_true', Option.isSome_eq_false_iff,
      Option.isNone_iff_eq_none, Datum.lookup_eq_none_iff]
    exact List.findIdx?_eq_none_iff
  rw [apply]
  dsimp only
  rw [o.isPath_key, o.ofText_key, KeyPath.update, KeyPath.putLast]
  cases KeyPath.merge true (Datum.field o.key entries) v with
  | error fault => cases fault <;> rfl
  | ok w =>
    -- a file is closed to keys that it does not have
    dsimp only [bind_ok]
    rw [KeyPath.putEntry, hthere]
    cases (Datum.lookup o.key entries).isSome <;> cases isUsable v <;> rfl

end Composition

/-- **One typed override** of a file that stands alone. -/
theorem compose_single {s : Surroundings} {f : Folder} {dir : Path} {name : String} {own : List (Datum × Datum)}
    (halone : Composition.Alone s f dir name own) (hdir : f.has dir = true) {o : SettingOverride} {v w : Datum}
    (hv : o.typed? = some v) (hchoice : Composition.choiceOf? f dir ⟨.change, o.key, some v⟩ = none)
    (hthere : (Datum.lookup o.key own).isSome = true) (hmerge : KeyPath.merge true (Datum.field o.key own) v = .ok w)
    (husable : isUsable v = true) : compose s f name dir [o.word] =
      ofSource s ("Hydra config " ++ name) (.map (Datum.insertEntry (.text o.key) w own)) := by
  have htyped : [o.word].mapM TypedOverride.ofText? = some [⟨.change, o.key, some v⟩] := by
    rw [List.mapM_cons, o.ofText?_word, hv]
    rfl
  have hdata := halone.data_eq htyped (by simpa using hchoice)
  have happly : Composition.apply (.map own) ⟨.change, o.key, some v⟩ =
      .ok (.map (Datum.insertEntry (.text o.key) w own)) := by
    rw [Composition.apply_change, hmerge]
    exact if_pos ⟨hthere, husable⟩
  rw [List.foldlM_cons, happly] at hdata
  rw [compose, hdir, hdata]
  rfl

end Settings

end CommandWrap
