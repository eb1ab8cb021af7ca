import Mathlib.Data.List.Induction
import Mathlib.Data.List.TakeDrop
import Mathlib.Data.List.TakeWhile
import CommandWrap.Group.Entry
import CommandWrap.Parser.KeyValue
import CommandWrap.Proofs.ElementTexts
import CommandWrap.Proofs.Names

/-!
# Entries that options collect

A word `KEY=VALUE` is an **entry** (`IsEntry`): its first equals sign divides the key from the value.  A word without
an equals sign is none.  The options of parsers and those of groups read the same words as entries
(`pair?_eq_some_iff`, `convert_text_eq_ok_iff`).

An option of a parser puts the entries of its words into copies of a map.  One step makes a map and leaves those that
are there as they are (`take_eq_ok_iff`).  So behind a row of steps the map of the default is as it was, and the
attribute refers to the default **overwritten** by the entries (`takeAll_extends`): old keys keep their places, new
keys stand behind them in the order in which they come up, and the last value of a key wins (`isOverwritten`).

A map of texts is rendered as such words.  If its keys are distinct and hold no equals sign, the words are read back
as the map (`overwritten_nil`).
-/
namespace CommandWrap

/-! ## Words as entries -/

/-- **The word is the entry**: its first equals sign divides the key from the value. -/
def IsEntry (word : String) (e : String × String) : Prop :=
  '=' ∉ e.1.toList ∧ word = e.1 ++ "=" ++ e.2

theorem toList_entry (k v : String) : (k ++ "=" ++ v).toList = k.toList ++ '=' :: v.toList := by
  simp [String.toList_append]

theorem IsEntry.mem {word : String} {e : String × String} (h : IsEntry word e) : '=' ∈ word.toList := by
  rw [h.2, toList_entry]
  simp

theorem exists_isEntry {word : String} (h : '=' ∈ word.toList) : ∃ e, IsEntry word e := by
  obtain ⟨k, v, hword, hk⟩ := List.eq_append_cons_of_mem h
  refine ⟨(String.ofList k, String.ofList v), by simpa using hk, String.toList_inj.mp ?_⟩
  rw [toList_entry, String.toList_ofList, String.toList_ofList, hword]

/-- The characters in front of the first equals sign. -/
theorem bne_of_not_mem {cs : List Char} (h : '=' ∉ cs) : ∀ c ∈ cs, (c != '=') = true := by
  intro c hc
  rw [bne_iff_ne]
  rintro rfl
  exact h hc

namespace Parser.KeyValue

theorem pair?_of_isEntry {word : String} {e : String × String} (h : IsEntry word e) : pair? word = some e := by
  obtain ⟨hk, rfl⟩ := h
  have hkey := bne_of_not_mem hk
  rw [pair?, Reading.splitEquals, List.span_eq_takeWhile_dropWhile, toList_entry,
    List.takeWhile_append_of_pos hkey, List.dropWhile_append_of_pos hkey]
  simp

theorem pair?_eq_none_iff {word : String} : pair? word = none ↔ '=' ∉ word.toList := by
  constructor
  · intro hnone hmem
    obtain ⟨e, he⟩ := exists_isEntry hmem
    rw [pair?_of_isEntry he] at hnone
    cases hnone
  · intro hword
    rw [pair?, Reading.splitEquals, List.span_eq_takeWhile_dropWhile,
      List.dropWhile_eq_nil_iff.2 (bne_of_not_mem hword)]
    rfl

/-- An option of a parser reads exactly the entries. -/
theorem pair?_eq_some_iff {word : String} {e : String × String} : pair? word = some e ↔ IsEntry word e := by
  refine ⟨fun he => ?_, pair?_of_isEntry⟩
  have hmem : '=' ∈ word.toList := by
    by_contra hword
    rw [pair?_eq_none_iff.mpr hword] at he
    cases he
  obtain ⟨e', he'⟩ := exists_isEntry hmem
  rw [pair?_of_isEntry he'] at he
  exact Option.some.inj he ▸ he'

/-- Words are entries in one way. -/
theorem eq_filterMap_of_forall₂ {words : List String} {pairs : List (String × String)}
    (h : List.Forall₂ IsEntry words pairs) : pairs = words.filterMap pair? := by
  induction h with
  | nil => rfl
  | cons he _ ih => rw [List.filterMap_cons_some (pair?_of_isEntry he), ← ih]

end Parser.KeyValue

namespace Group.Entry

theorem split?_eq_some_iff {cs key value : List Char} :
    split? cs = some (key, value) ↔ '=' ∉ key ∧ cs = key ++ '=' :: value := by
  induction cs generalizing key value with
  | nil => simp [split?]
  | cons c rest ih =>
    rw [split?]
    split
    case isTrue hc =>
      subst hc
      cases key with
      | nil => simp
      | cons d key => simp +contextual
    case isFalse hc =>
      cases key with
      | nil => simp [hc]
      | cons d key =>
        simp only [Option.map_eq_some_iff, Prod.exists, Prod.mk.injEq, List.cons.injEq, List.mem_cons, not_or,
          List.cons_append, ih]
        constructor
        · rintro ⟨k, v, ⟨hk, rfl⟩, ⟨rfl, rfl⟩, rfl⟩
          exact ⟨⟨Ne.symm hc, hk⟩, rfl, rfl⟩
        · rintro ⟨⟨-, hk⟩, rfl, rfl⟩
          exact ⟨key, value, ⟨hk, rfl⟩, ⟨rfl, rfl⟩, rfl⟩

/-- An option of a group reads exactly the entries, from the text that is shown for the value. -/
theorem read_eq_ok_iff {v : Value} {e : String × String} : read v = .ok e ↔ IsEntry v.display e := by
  have hsplit : split? v.display.toList = some (e.1.toList, e.2.toList) ↔ IsEntry v.display e := by
    rw [split?_eq_some_iff, IsEntry, ← String.toList_inj , toList_entry]
  rw [← hsplit, read]
  constructor
  · intro h
    split at h
    case h_1 key value hkv =>
      obtain rfl := Except.ok.inj h
      rw [hkv, String.toList_ofList, String.toList_ofList]
    case h_2 => cases h
  · intro h
    simp [h]

theorem convert_text_eq_ok_iff {word : String} {v : Value} :
    convert (.text word) = .ok v ↔ ∃ e, IsEntry word e ∧ v = toValue e := by
  rw [convert, map_eq_ok_iff]
  · simp only [read_eq_ok_iff, Value.display, eq_comm (b := v)]
  · intro items h
    cases h

/-- A text is taken exactly if it has an equals sign. -/
theorem exists_convert_text_iff {word : String} : (∃ v, convert (.text word) = .ok v) ↔ '=' ∈ word.toList := by
  constructor
  · rintro ⟨v, hv⟩
    obtain ⟨e, he, -⟩ := convert_text_eq_ok_iff.mp hv
    exact he.mem
  · intro hword
    obtain ⟨e, he⟩ := exists_isEntry hword
    exact ⟨toValue e, convert_text_eq_ok_iff.mpr ⟨e, he, rfl⟩⟩

/-- What an option of a group made of a value is taken as it is. -/
theorem convert_convert {v result : Value} (h : convert v = .ok result) : convert result = .ok result := by
  rw [convert.eq_def] at h
  split at h
  · obtain rfl := Except.ok.inj h
    rfl
  · obtain ⟨e, -, rfl⟩ := map_eq_ok_iff.mp h
    rfl

end Group.Entry

/-! ## Maps with entries put into them -/

namespace Value

theorem sameKey_text (k : Value) (key : String) : sameKey k (.text key) = (k.asText? == some key) := by
  cases k <;> simp [sameKey, asText?, number?]

/-- The value that a map has for a text. -/
def lookupText (key : String) (entries : List (Value × Value)) : Option Value :=
  (entries.find? fun e => e.1.asText? == some key).map Prod.snd

theorem lookupText_cons (key : String) (e : Value × Value) (rest : List (Value × Value)) :
    lookupText key (e :: rest) = if e.1.asText? = some key then some e.2 else lookupText key rest := by
  by_cases he : e.1.asText? = some key <;> simp [lookupText, he]

/-- A new key goes behind the others. -/
theorem keys_insertEntry (entries : List (Value × Value)) (k : String) (v : Value) :
    (insertEntry entries (.text k) v).map Prod.fst =
      entries.map Prod.fst ++ if (lookupText k entries).isNone then [.text k] else [] := by
  induction entries with
  | nil => rfl
  | cons e rest ih =>
    rw [insertEntry, sameKey_text, lookupText_cons]
    by_cases he : e.1.asText? = some k
    · simp [he]
    · simp [he, ih]

/-- Only the key that is put has another value then. -/
theorem lookupText_insertEntry (entries : List (Value × Value)) (k : String) (v : Value) (key : String) :
    lookupText key (insertEntry entries (.text k) v) = if k = key then some v else lookupText key entries := by
  induction entries with
  | nil => simp [insertEntry, lookupText_cons, asText?]
  | cons e rest ih =>
    rw [insertEntry, sameKey_text]
    by_cases he : e.1.asText? = some k
    · simp only [he, beq_self_eq_true, if_true, lookupText_cons, Option.some.injEq]
      by_cases hk : k = key <;> simp [hk]
    · by_cases hk : k = key
      · subst hk
        simp [he, lookupText_cons, ih]
      · simp [he, lookupText_cons, ih, hk]

theorem filter_insertEntry (entries : List (Value × Value)) (k : String) (v : Value) :
    (insertEntry entries (.text k) v).filter (·.1.asText?.isNone) = entries.filter (·.1.asText?.isNone) := by
  induction entries with
  | nil => simp [insertEntry, asText?]
  | cons e rest ih =>
    rw [insertEntry, sameKey_text]
    by_cases he : e.1.asText? = some k
    · simp [he]
    · simp [he, ih, List.filter_cons]

end Value

namespace Parser.KeyValue

/-- **A map overwritten by entries** in order. -/
def overwritten (entries : List (Value × Value)) (pairs : List (String × String)) : List (Value × Value) :=
  pairs.foldl (fun es p => Value.insertEntry es (.text p.1) (.text p.2)) entries

/-- The value of the last entry with a key. -/
def lastOf? (key : String) (pairs : List (String × String)) : Option String :=
  (pairs.reverse.find? (·.1 == key)).map Prod.snd

/-- The keys of entries that a map has not, each where it comes up first. -/
def newKeys (entries : List (Value × Value)) (pairs : List (String × String)) : List String :=
  ((pairs.map Prod.fst).filter fun k => (Value.lookupText k entries).isNone).eraseDups

/-- What a map is behind entries that overwrite it. -/
structure IsOverwritten (entries : List (Value × Value)) (pairs : List (String × String))
    (result : List (Value × Value)) : Prop where
  /-- The old keys keep their places, and the new ones stand behind them. -/
  keys : result.map Prod.fst = entries.map Prod.fst ++ (newKeys entries pairs).map .text
  /-- The last value of a key wins. -/
  values : ∀ key, Value.lookupText key result = ((lastOf? key pairs).map .text).or (Value.lookupText key entries)
  /-- The entries whose keys are no texts stay as they are. -/
  others : result.filter (·.1.asText?.isNone) = entries.filter (·.1.asText?.isNone)

theorem lastOf?_concat (key : String) (pairs : List (String × String)) (p : String × String) :
    lastOf? key (pairs ++ [p]) = if p.1 = key then some p.2 else lastOf? key pairs := by
  by_cases hp : p.1 = key <;> simp [lastOf?, hp]

theorem lastOf?_eq_none_iff {key : String} {pairs : List (String × String)} :
    lastOf? key pairs = none ↔ key ∉ pairs.map Prod.fst := by
  simp only [lastOf?, Option.map_eq_none_iff, List.find?_eq_none, List.mem_reverse, beq_iff_eq, List.mem_map, not_exists,
    not_and]

theorem newKeys_concat (entries : List (Value × Value)) (pairs : List (String × String)) (p : String × String) :
    newKeys entries (pairs ++ [p]) = newKeys entries pairs ++
      if (Value.lookupText p.1 entries).isNone ∧ p.1 ∉ pairs.map Prod.fst then [p.1] else [] := by
  rw [newKeys, newKeys, List.map_append, List.filter_append, List.eraseDups_append]
  congr 1
  rw [List.map_singleton, List.filter_singleton, List.removeAll]
  by_cases hnew : (Value.lookupText p.1 entries).isNone = true
  · by_cases hp : p.1 ∈ pairs.map Prod.fst <;> simp [hnew, hp, List.eraseDups_cons]
  · simp [hnew]

/-- One step for each entry. -/
theorem isOverwritten (entries : List (Value × Value)) (pairs : List (String × String)) :
    IsOverwritten entries pairs (overwritten entries pairs) := by
  induction pairs using List.reverseRecOn with
  | nil =>
    refine ⟨?_, fun key => ?_, rfl⟩
    · exact (List.append_nil _).symm
    · simp [overwritten, lastOf?]
  | append_singleton pairs p ih =>
    have hstep : overwritten entries (pairs ++ [p]) =
        Value.insertEntry (overwritten entries pairs) (.text p.1) (.text p.2) := List.foldl_concat ..
    rw [hstep]
    refine ⟨?_, fun key => ?_, ?_⟩
    · have hnew : (Value.lookupText p.1 (overwritten entries pairs)).isNone = true ↔
          (Value.lookupText p.1 entries).isNone = true ∧ p.1 ∉ pairs.map Prod.fst := by
        rw [ih.values, ← lastOf?_eq_none_iff]
        cases lastOf? p.1 pairs <;> simp
      rw [Value.keys_insertEntry, ih.keys, newKeys_concat, if_congr hnew rfl rfl]
      split <;> simp
    · rw [Value.lookupText_insertEntry, ih.values, lastOf?_concat]
      split <;> rfl
    · rw [Value.filter_insertEntry, ih.others]

/-- Texts put into a map of texts. -/
theorem ofTexts_insert (k v : String) (entries : List (String × String)) :
    ofTexts (insert k v entries) = Value.insertEntry (ofTexts entries) (.text k) (.text v) := by
  induction entries with
  | nil => rfl
  | cons e rest ih =>
    have hcons : ofTexts (e :: rest) = (.text e.1, .text e.2) :: ofTexts rest := rfl
    rw [insert, hcons, Value.insertEntry, Value.sameKey_text, ← ih]
    by_cases he : e.1 = k <;> simp [he, Value.asText?, ofTexts]

theorem insert_of_new {e : String × String} {done : List (String × String)} (h : e.1 ∉ done.map Prod.fst) :
    insert e.1 e.2 done = done ++ [e] := by
  induction done with
  | nil => rfl
  | cons first rest ih =>
    rw [List.map_cons, List.mem_cons, not_or] at h
    rw [insert, if_neg (Ne.symm h.1), ih h.2, List.cons_append]

/-- Entries of distinct keys make a map as they are listed. -/
theorem overwritten_nil {entries : List (String × String)} (h : (entries.map Prod.fst).Nodup) :
    overwritten [] entries = ofTexts entries := by
  have hfold : entries.foldl (fun es e => insert e.1 e.2 es) [] = entries :=
    foldl_put insert_of_new (by rwa [List.nil_append])
  have htexts : overwritten (ofTexts []) entries = ofTexts (entries.foldl (fun es e => insert e.1 e.2 es) []) :=
    List.foldl_hom ofTexts fun es e => (ofTexts_insert e.1 e.2 es).symm
  rw [hfold] at htexts
  exact htexts

/-! ## Words that are collected -/

namespace Collection

variable {c c' : Collection} {name : String}

theorem map?_refer (c : Collection) (entries : List (Value × Value)) : (c.refer entries).map? = some entries := by
  simp [map?, refer]

theorem entries_ofDefault (default? : Option (List (Value × Value))) :
    (ofDefault default?).entries = default?.getD [] := by
  cases default? <;> rfl

/-- One step: the word is an entry, and the attribute refers to a new map with it. -/
theorem take_eq_ok_iff {word : String} : c.take name word = .ok c' ↔
    ∃ e, IsEntry word e ∧ c' = c.refer (Value.insertEntry c.entries (.text e.1) (.text e.2)) := by
  simp only [← pair?_eq_some_iff]
  rw [take]
  split
  case h_1 k v he => simp [he, eq_comm]
  case h_2 he => simp [he]

/-- A word without an equals sign is refused. -/
theorem take_eq_error_iff {word message : String} : c.take name word = .error message ↔
    '=' ∉ word.toList ∧ message = name ++ " expects KEY=VALUE, got " ++ Text.quoted word := by
  rw [← pair?_eq_none_iff, take]
  split
  case h_1 k v he => simp [he]
  case h_2 he => simp [he, eq_comm]

/-- What a row of entries makes of the maps. -/
structure Extends (c : Collection) (pairs : List (String × String)) (c' : Collection) : Prop where
  /-- Without entries all stays as it is. -/
  same : pairs = [] → c' = c
  /-- With entries the attribute refers to its map overwritten by them. -/
  map? : pairs ≠ [] → c'.map? = some (overwritten c.entries pairs)
  /-- The maps that were there are as they were. -/
  kept : ∀ i < c.maps.size, c'.maps[i]? = c.maps[i]?

theorem takeAll_extends {words : List String} {pairs : List (String × String)}
    (h : List.Forall₂ IsEntry words pairs) (name : String) (c : Collection) :
    ∃ c', c.takeAll name words = .ok c' ∧ c.Extends pairs c' := by
  -- The first entry makes a map, which the others overwrite in copies.
  induction h generalizing c with
  | nil => exact ⟨c, rfl, fun _ => rfl, fun h => absurd rfl h, fun _ _ => rfl⟩
  | @cons word e words pairs he hrest ih =>
    obtain ⟨next, hnext⟩ : ∃ next, next = c.refer (Value.insertEntry c.entries (.text e.1) (.text e.2)) := ⟨_, rfl⟩
    have hmap : next.map? = some (overwritten c.entries [e]) := by
      rw [hnext, map?_refer]
      rfl
    have hentries : next.entries = overwritten c.entries [e] := by rw [entries, hmap, Option.getD_some]
    obtain ⟨c', hc', hext⟩ := ih next
    refine ⟨c', ?_, nofun, fun _ => ?_, fun i hi => ?_⟩
    · rw [takeAll, List.foldlM_cons, take_eq_ok_iff.mpr ⟨e, he, hnext⟩]
      exact hc'
    · cases pairs with
      | nil => rw [hext.same rfl, hmap]
      | cons p pairs =>
        rw [hext.map? nofun, hentries]
        rfl
    · have hsize : i < next.maps.size := by
        rw [hnext, refer, Array.size_push]
        omega
      rw [hext.kept i hsize, hnext, refer, Array.getElem?_push_lt hi, Array.getElem?_eq_getElem hi]

theorem mem_of_takeAll {words : List String} (h : c.takeAll name words = .ok c') : ∀ w ∈ words, '=' ∈ w.toList := by
  induction words generalizing c with
  | nil => nofun
  | cons word words ih =>
    rw [takeAll, List.foldlM_cons] at h
    obtain ⟨next, hnext, hrest⟩ := bind_eq_ok_iff.mp h
    obtain ⟨e, he, -⟩ := take_eq_ok_iff.mp hnext
    exact List.forall_mem_cons.mpr ⟨he.mem, ih hrest⟩

/-- The first word without an equals sign stops the collection, and nothing else does. -/
theorem takeAll_eq_error_iff {words : List String} {message : String} : c.takeAll name words = .error message ↔
    ∃ before word after, words = before ++ word :: after ∧ (∀ w ∈ before, '=' ∈ w.toList) ∧ '=' ∉ word.toList ∧
      message = name ++ " expects KEY=VALUE, got " ++ Text.quoted word := by
  rw [takeAll, foldlM_eq_error_iff]
  constructor
  · rintro ⟨before, word, after, state, rfl, hbefore, hword⟩
    exact ⟨before, word, after, rfl, mem_of_takeAll hbefore, take_eq_error_iff.mp hword⟩
  · rintro ⟨before, word, after, rfl, hbefore, hword⟩
    obtain ⟨pairs, hpairs⟩ := exists_forall₂ fun w hw => exists_isEntry (hbefore w hw)
    obtain ⟨state, hstate, -⟩ := takeAll_extends hpairs name c
    exact ⟨before, word, after, state, rfl, hstate, take_eq_error_iff.mpr hword⟩

end Collection

/-! ## Words of a rendered map -/

/-- The words of a map of texts. -/
def wordsOf (entries : List (String × String)) : List String :=
  entries.map fun e => e.1 ++ "=" ++ e.2

theorem flag_ofTexts (flag : String) (entries : List (String × String)) :
    Render.flag flag "map" (.map (ofTexts entries)) =
      .ok ((wordsOf entries).flatMap fun word => [Render.long flag, word]) := by
  rw [Render.flag_map, ofTexts, wordsOf, List.flatMap_map, List.flatMap_map]
  rfl

theorem forall₂_wordsOf {entries : List (String × String)} (h : ∀ e ∈ entries, '=' ∉ e.1.toList) :
    List.Forall₂ IsEntry (wordsOf entries) entries := by
  rw [wordsOf, List.forall₂_map_left_iff, List.forall₂_same]
  exact fun e he => ⟨h e he, rfl⟩

/-- **Reading the words `KEY=VALUE` undoes rendering a map and leaves the default alone.**  An option of a parser
stops at the first word without an equals sign.  If there is none, it overwrites its default with the entries of the
words, in another map than the default.  The words of a map of texts, whose keys are distinct and hold no equals sign,
give the map again.  An option of a group reads the same words as the same entries, and takes what it made of a word as
it is. -/
theorem collected_entries (name : String) (default? : Option (List (Value × Value))) (words : List String) :
    (∀ message, (Collection.ofDefault default?).takeAll name words = .error message ↔
      ∃ before word after, words = before ++ word :: after ∧ (∀ w ∈ before, '=' ∈ w.toList) ∧ '=' ∉ word.toList ∧
        message = name ++ " expects KEY=VALUE, got " ++ Text.quoted word) ∧
    ((∀ w ∈ words, '=' ∈ w.toList) → ∃ pairs c, List.Forall₂ IsEntry words pairs ∧
      (Collection.ofDefault default?).takeAll name words = .ok c ∧
      (words = [] → c = Collection.ofDefault default?) ∧
      (words ≠ [] → c.map? = some (overwritten (default?.getD []) pairs)) ∧
      IsOverwritten (default?.getD []) pairs (overwritten (default?.getD []) pairs) ∧
      ∀ entries, default? = some entries → c.maps[0]? = some entries) ∧
    (∀ (flag : String) (entries : List (String × String)), entries ≠ [] → (entries.map Prod.fst).Nodup →
      (∀ e ∈ entries, '=' ∉ e.1.toList) → ∃ tokens c,
        Render.flag flag "map" (.map (ofTexts entries)) = .ok (tokens.flatMap fun token => [Render.long flag, token]) ∧
        (Collection.ofDefault none).takeAll name tokens = .ok c ∧ c.map? = some (ofTexts entries)) ∧
    (∀ word, ((∃ v, Group.Entry.convert (.text word) = .ok v) ↔ '=' ∈ word.toList) ∧
      ∀ v, Group.Entry.convert (.text word) = .ok v ↔ ∃ e, IsEntry word e ∧ v = Group.Entry.toValue e) ∧
    ∀ v result, Group.Entry.convert v = .ok result → Group.Entry.convert result = .ok result := by
  refine ⟨fun message => Collection.takeAll_eq_error_iff, fun hwords => ?_, fun flag entries hne hnodup hkeys => ?_,
    fun word => ⟨Group.Entry.exists_convert_text_iff, fun v => Group.Entry.convert_text_eq_ok_iff⟩,
    fun v result => Group.Entry.convert_convert⟩
  · obtain ⟨pairs, hpairs⟩ := exists_forall₂ fun w hw => exists_isEntry (hwords w hw)
    obtain ⟨c, hc, hext⟩ := Collection.takeAll_extends hpairs name (Collection.ofDefault default?)
    have hnil : words = [] ↔ pairs = [] := by
      rw [← List.length_eq_zero_iff, hpairs.length_eq, List.length_eq_zero_iff]
    have hmap := hext.map?
    rw [Collection.entries_ofDefault] at hmap
    refine ⟨pairs, c, hpairs, hc, fun h => hext.same (hnil.mp h), fun h => hmap (mt hnil.mpr h),
      isOverwritten .., ?_⟩
    rintro entries rfl
    exact hext.kept 0 Nat.zero_lt_one
  · obtain ⟨c, hc, hext⟩ := Collection.takeAll_extends (forall₂_wordsOf hkeys) name (Collection.ofDefault none)
    refine ⟨wordsOf entries, c, flag_ofTexts flag entries, hc, ?_⟩
    rw [hext.map? hne, Collection.entries_ofDefault, Option.getD_none, overwritten_nil hnodup]

/-- A default, words that repeat a key of it, and a map whose values hold equals signs. -/
theorem collected_entries_of_labels :
    (∃ c, (Collection.ofDefault (some [(.text "b", .text "1")])).takeAll "--label" ["a=1=2", "b=2", "a="] = .ok c ∧
      c.map? = some [(.text "b", .text "2"), (.text "a", .text "")] ∧ c.maps[0]? = some [(.text "b", .text "1")]) ∧
    (∃ tokens c, Render.flag "label" "map" (.map (ofTexts [("a", "x=y"), ("", "")])) =
        .ok (tokens.flatMap fun token => [Render.long "label", token]) ∧
      (Collection.ofDefault none).takeAll "--label" tokens = .ok c ∧
      c.map? = some (ofTexts [("a", "x=y"), ("", "")])) ∧
    Group.Entry.convert (Group.Entry.toValue ("a", "1")) = .ok (Group.Entry.toValue ("a", "1")) := by
  obtain ⟨-, hover, hback, hconvert, htwice⟩ :=
    collected_entries "--label" (some [(.text "b", .text "1")]) ["a=1=2", "b=2", "a="]
  refine ⟨?_, hback "label" _ (by decide) (by decide) (by decide), ?_⟩
  · obtain ⟨pairs, c, hpairs, hc, -, hmap, -, hkept⟩ := hover (by decide)
    have hread : ["a=1=2", "b=2", "a="].filterMap pair? = [("a", "1=2"), ("b", "2"), ("a", "")] := by decide
    obtain rfl : pairs = [("a", "1=2"), ("b", "2"), ("a", "")] := (eq_filterMap_of_forall₂ hpairs).trans hread
    exact ⟨c, hc, hmap (by decide), hkept _ rfl⟩
  · exact htwice (.text "a=1") _ (((hconvert "a=1").2 _).mpr ⟨("a", "1"), ⟨by decide, by decide⟩, rfl⟩)

end Parser.KeyValue

end CommandWrap
