import Mathlib.Data.List.Induction
import Mathlib.Data.List.Nodup
import CommandWrap.Proofs.TreeData
import CommandWrap.Settings.Load

/-!
# Overrides of settings

An override `KEY=VALUE` of a setting that is a text puts the text into the map of settings: a key that is there keeps
its place and takes the new text, and a new key comes last (`insertEntry_text`).  The keys of a map that was read are
distinct (`distinct_of_readFile`), and overrides keep them so.

What a row of overrides makes of a map follows in one equation (`overridden_eq`): every entry of the file takes the
text of the last override of its key, and the keys that the file lacks come behind, each with the text of its last
override.  So what a key leads to is the text of its last override, or else what it led to before
(`lookup_overridden`), and overrides of different keys may change places as long as the keys come in one order
(`overridden_eq_of_reordered`).
-/
namespace CommandWrap

namespace Datum

/-! ## Maps with distinct keys -/

/-- **The keys of a map are distinct.** -/
def HasDistinctKeys (entries : List (Datum × Datum)) : Prop :=
  entries.Pairwise fun e e' => sameKey e.1 e'.1 = false

theorem sameKey_text (k : Datum) (key : String) : sameKey k (.text key) = k.isText key := by
  cases k <;> simp [sameKey, isText, integer?]

theorem isText_iff {key : String} {k : Datum} : k.isText key = true ↔ k = .text key := by
  cases k <;> simp [isText]

/-- An entry of a map after an insertion was there, or it has the new value under a key that is new or was there. -/
theorem mem_insertEntry {k v : Datum} {entries : List (Datum × Datum)} {e : Datum × Datum}
    (he : e ∈ insertEntry k v entries) : e ∈ entries ∨ e.2 = v ∧ (e.1 = k ∨ ∃ e' ∈ entries, e'.1 = e.1) := by
  induction entries with
  | nil =>
    rw [insertEntry, List.mem_singleton] at he
    exact .inr ⟨congrArg Prod.snd he, .inl (congrArg Prod.fst he)⟩
  | cons first rest ih =>
    obtain ⟨l, w⟩ := first
    rw [insertEntry] at he
    split at he <;> rcases List.mem_cons.mp he with rfl | he
    · exact .inr ⟨rfl, .inr ⟨(l, w), List.mem_cons_self .., rfl⟩⟩
    · exact .inl (List.mem_cons_of_mem _ he)
    · exact .inl (List.mem_cons_self ..)
    · rcases ih he with hold | ⟨hv, hk | ⟨e', he', hkey⟩⟩
      · exact .inl (List.mem_cons_of_mem _ hold)
      · exact .inr ⟨hv, .inl hk⟩
      · exact .inr ⟨hv, .inr ⟨e', List.mem_cons_of_mem _ he', hkey⟩⟩

theorem HasDistinctKeys.insertEntry {entries : List (Datum × Datum)} (hdistinct : HasDistinctKeys entries)
    (k v : Datum) : HasDistinctKeys (insertEntry k v entries) := by
  induction entries with
  | nil => exact List.pairwise_singleton _ _
  | cons first rest ih =>
    obtain ⟨l, w⟩ := first
    obtain ⟨hfirst, hrest⟩ := List.pairwise_cons.mp hdistinct
    rw [Datum.insertEntry]
    split
    case isTrue hsame => exact List.pairwise_cons.mpr ⟨hfirst, hrest⟩
    case isFalse hother =>
      refine List.pairwise_cons.mpr ⟨fun e he => ?_, ih hrest⟩
      rcases mem_insertEntry he with hold | ⟨-, hk | ⟨e', he', hkey⟩⟩
      · exact hfirst e hold
      · rw [hk]
        exact Bool.eq_false_iff.mpr hother
      · rw [← hkey]
        exact hfirst e' he'

theorem distinct_ofEntries {entries entries' : List (Datum × Datum)} (h : ofEntries entries = .map entries') :
    HasDistinctKeys entries' := by
  have hfold : ∀ (entries es : List (Datum × Datum)), HasDistinctKeys es →
      HasDistinctKeys (entries.foldl (fun es e => insertEntry e.1 e.2 es) es) := by
    intro entries
    induction entries with
    | nil => exact fun _ hes => hes
    | cons e entries ih => exact fun es hes => ih _ (hes.insertEntry e.1 e.2)
  rw [ofEntries, Datum.map.injEq] at h
  exact h ▸ hfold entries [] .nil

/-- The entry with the value, if its key is the text `key`. -/
def renewed (key : String) (v : Datum) (e : Datum × Datum) : Datum × Datum :=
  if e.1.isText key then (e.1, v) else e

theorem renewed_of_ne {key : String} {e : Datum × Datum} (h : e.1.isText key = false) (v : Datum) :
    renewed key v e = e := by
  rw [renewed, h, if_neg Bool.false_ne_true]

theorem lookup_eq_none_iff {key : String} {entries : List (Datum × Datum)} :
    lookup key entries = none ↔ ∀ e ∈ entries, e.1.isText key = false := by
  induction entries with
  | nil => simp [lookup]
  | cons e entries ih =>
    obtain ⟨k, v⟩ := e
    rw [lookup, List.forall_mem_cons, ← ih]
    cases lookup key entries <;> simp

theorem map_renewed_of_new {key : String} {entries : List (Datum × Datum)} (hnew : lookup key entries = none)
    (v : Datum) : entries.map (renewed key v) = entries := by
  conv => rhs; rw [← List.map_id entries]
  exact List.map_congr_left fun e he => renewed_of_ne (lookup_eq_none_iff.mp hnew e he) v

/-- **Putting an entry with a text as its key**: an old key keeps its place and takes the new value, and a new key comes
last. -/
theorem insertEntry_text {entries : List (Datum × Datum)} (hdistinct : HasDistinctKeys entries) (key : String)
    (v : Datum) : insertEntry (.text key) v entries =
      entries.map (renewed key v) ++ if (lookup key entries).isSome then [] else [(.text key, v)] := by
  induction entries with
  | nil => rfl
  | cons first rest ih =>
    obtain ⟨l, w⟩ := first
    obtain ⟨hfirst, hrest⟩ := List.pairwise_cons.mp hdistinct
    rw [insertEntry, sameKey_text, List.map_cons, renewed, lookup]
    cases hkey : l.isText key with
    | true =>
      have hnew : lookup key rest = none := by
        refine lookup_eq_none_iff.mpr fun e he => Bool.eq_false_iff.mpr fun hother => ?_
        have hapart := hfirst e he
        rw [isText_iff.mp hkey, isText_iff.mp hother] at hapart
        simp [sameKey] at hapart
      rw [map_renewed_of_new hnew, hnew]
      simp
    | false =>
      rw [ih hrest]
      cases lookup key rest <;> simp

/-- Keys that are one are the same text or none. -/
theorem isText_of_sameKey {l k : Datum} (h : sameKey l k = true) (key : String) : l.isText key = k.isText key := by
  cases l <;> cases k <;> simp_all [sameKey, isText, integer?]

/-- **What a text leads to** once an entry was put into a map. -/
theorem lookup_insertEntry_isText {entries : List (Datum × Datum)} (hdistinct : HasDistinctKeys entries) (key : String)
    (k v : Datum) : lookup key (insertEntry k v entries) = if k.isText key then some v else lookup key entries := by
  induction entries with
  | nil => simp [insertEntry, lookup]
  | cons first rest ih =>
    obtain ⟨l, w⟩ := first
    obtain ⟨hfirst, hrest⟩ := List.pairwise_cons.mp hdistinct
    rw [insertEntry]
    split
    case isTrue hsame =>
      rw [lookup, lookup, isText_of_sameKey hsame]
      cases hkey : k.isText key with
      | false => simp
      | true =>
        -- the keys behind the entry differ from its own
        have hnew : lookup key rest = none := by
          refine lookup_eq_none_iff.mpr fun e he => Bool.eq_false_iff.mpr fun hother => ?_
          have hapart := hfirst e he
          rw [← isText_of_sameKey hsame] at hkey
          rw [isText_iff.mp hkey, isText_iff.mp hother] at hapart
          simp [sameKey] at hapart
        simp [hnew]
    case isFalse =>
      rw [lookup, ih hrest, lookup]
      cases k.isText key <;> simp

theorem lookup_insertEntry {entries : List (Datum × Datum)} (hdistinct : HasDistinctKeys entries) (key other : String)
    (v : Datum) :
    lookup other (insertEntry (.text key) v entries) = if key = other then some v else lookup other entries := by
  rw [lookup_insertEntry_isText hdistinct]
  simp [isText]

/-- **What a text leads to** in a map: the value of the last of its entries. -/
theorem lookup_ofEntries {ps entries : List (Datum × Datum)} (h : ofEntries ps = .map entries) (key : String) :
    lookup key entries = lookup key ps := by
  have hfold (ps es : List (Datum × Datum)) (hes : HasDistinctKeys es) :
      lookup key (ps.foldl (fun es e => insertEntry e.1 e.2 es) es) = (lookup key ps).or (lookup key es) := by
    induction ps generalizing es with
    | nil => simp [lookup]
    | cons p ps ih =>
      rw [List.foldl_cons, ih _ (hes.insertEntry p.1 p.2), lookup_insertEntry_isText hes, lookup]
      cases lookup key ps <;> cases p.1.isText key <;> simp
  rw [ofEntries, Datum.map.injEq] at h
  rw [← h, hfold ps [] .nil]
  simp [lookup]

end Datum

namespace Settings

/-! ## Overrides -/

/-- **An override of a setting.** -/
structure SettingOverride where
  /-- The key of the setting. -/
  key : String
  /-- The text behind the equals sign. -/
  value : String
  known : key ∈ keys

namespace SettingOverride

variable (o : SettingOverride)

/-- The word for an override. -/
def word : String :=
  o.key ++ "=" ++ o.value

theorem toList_word : o.word.toList = o.key.toList ++ '=' :: o.value.toList := by
  simp [word, String.toList_append]

theorem key_chars : ∀ c ∈ o.key.toList, (c != '=') = true := by
  have hkey : '=' ∉ o.key.toList := (by decide +kernel : ∀ key ∈ keys, '=' ∉ key.toList) o.key o.known
  rintro c hc
  rw [bne_iff_ne]
  rintro rfl
  exact hkey hc

theorem ofText_key : KeyPath.ofText o.key = [o.key] :=
  (by decide : ∀ key ∈ keys, KeyPath.ofText key = [key]) o.key o.known

theorem splitOverride?_word : splitOverride? o.word = some (o.key, o.value) := by
  simp [splitOverride?, toList_word, List.takeWhile_append_of_pos o.key_chars, List.dropWhile_append_of_pos o.key_chars]

/-- An override puts its text into the map, unless a reference in it is not well formed. -/
theorem override_word (entries : List (Datum × Datum)) : override (.map entries) o.word =
    if isUsable (.text o.value) then .ok (.map (Datum.insertEntry (.text o.key) (.text o.value) entries))
    else .error .unusable := by
  rw [override, o.splitOverride?_word]
  dsimp only
  rw [o.ofText_key]
  rfl

end SettingOverride

/-- A setting that is a text. -/
inductive TextSetting
  /-- The file of the command tree. -/
  | metadata
  /-- The file to write. -/
  | output
  /-- The module of the helpers. -/
  | runtime
  /-- The documentation of the module. -/
  | doc
deriving DecidableEq, Repr

/-- The key of a setting. -/
def TextSetting.key : TextSetting → String
  | .metadata => "metadata"
  | .output => "output"
  | .runtime => "runtime_module"
  | .doc => "doc"

theorem TextSetting.key_inj {k k' : TextSetting} (h : k.key = k'.key) : k = k' := by
  revert h
  cases k <;> cases k' <;> decide

/-- An override of a setting that is a text. -/
structure Override where
  /-- The setting. -/
  setting : TextSetting
  /-- The text that it takes. -/
  value : String
deriving DecidableEq, Repr

/-- The word for an override. -/
def Override.word (o : Override) : String :=
  o.setting.key ++ "=" ++ o.value

/-- **The entries with overrides**, one after the other. -/
def overridden (own : List (Datum × Datum)) (os : List Override) : List (Datum × Datum) :=
  os.foldl (fun entries o => Datum.insertEntry (.text o.setting.key) (.text o.value) entries) own

/-- **The text of the last override** of a key. -/
def lastValue? (key : String) (os : List Override) : Option String :=
  ((os.filter fun o => o.setting.key = key).getLast?).map (·.value)

theorem overridden_concat (own : List (Datum × Datum)) (os : List Override) (o : Override) :
    overridden own (os ++ [o]) = Datum.insertEntry (.text o.setting.key) (.text o.value) (overridden own os) :=
  List.foldl_concat ..

theorem lastValue?_concat (key : String) (os : List Override) (o : Override) :
    lastValue? key (os ++ [o]) = if o.setting.key = key then some o.value else lastValue? key os := by
  rw [lastValue?, List.filter_append, List.filter_singleton, lastValue?]
  by_cases hkey : o.setting.key = key <;> simp [hkey]

/-- An override of a text setting is one of a setting. -/
def Override.toSetting (o : Override) : SettingOverride :=
  ⟨o.setting.key, o.value, by cases o.setting <;> decide⟩

theorem splitOverride?_word (o : Override) : splitOverride? o.word = some (o.setting.key, o.value) :=
  o.toSetting.splitOverride?_word

theorem ofText_key (k : TextSetting) : KeyPath.ofText k.key = [k.key] :=
  (Override.toSetting ⟨k, ""⟩).ofText_key

theorem isUsable_of_plain {text : String} (hplain : hasReference text.toList = false) : isUsable (.text text) = true := by
  rw [isUsable, pieces?]
  simp [hplain]

/-- An override of a text setting puts its text into the map. -/
theorem override_word {o : Override} (hplain : hasReference o.value.toList = false) (entries : List (Datum × Datum)) :
    override (.map entries) o.word =
      .ok (.map (Datum.insertEntry (.text o.setting.key) (.text o.value) entries)) :=
  (o.toSetting.override_word entries).trans (if_pos (isUsable_of_plain hplain))

/-- **Overrides of text settings always apply to a map.** -/
theorem foldlM_override {os : List Override} (hplain : ∀ o ∈ os, hasReference o.value.toList = false)
    (own : List (Datum × Datum)) :
    (os.map Override.word).foldlM override (.map own) = .ok (.map (overridden own os)) := by
  induction os generalizing own with
  | nil => rfl
  | cons o os ih =>
    rw [List.forall_mem_cons] at hplain
    rw [List.map_cons, List.foldlM_cons, override_word hplain.1, bind_ok, ih hplain.2]
    rfl

/-! ## What overrides make of a map -/

section overridden

variable {own : List (Datum × Datum)} (hdistinct : Datum.HasDistinctKeys own)

include hdistinct

theorem distinct_overridden (os : List Override) : Datum.HasDistinctKeys (overridden own os) := by
  induction os using List.reverseRecOn with
  | nil => exact hdistinct
  | append_singleton os o ih =>
    rw [overridden_concat]
    exact ih.insertEntry _ _

/-- **What a key leads to after overrides**: the text of its last override, or else what it led to before. -/
theorem lookup_overridden (os : List Override) (key : String) :
    Datum.lookup key (overridden own os) =
      ((lastValue? key os).map Datum.text).or (Datum.lookup key own) := by
  induction os using List.reverseRecOn with
  | nil => rfl
  | append_singleton os o ih =>
    rw [overridden_concat, Datum.lookup_insertEntry (distinct_overridden hdistinct os), lastValue?_concat]
    split
    · rfl
    · exact ih

/-- An entry of the file after overrides. -/
def entryAfter (os : List Override) (e : Datum × Datum) : Datum × Datum :=
  match e.1 with
  | .text key => (e.1, ((lastValue? key os).map Datum.text).getD e.2)
  | _ => e

/-- The entry that overrides make for a new key. -/
def newEntry (os : List Override) (key : String) : Datum × Datum :=
  (.text key, .text ((lastValue? key os).getD ""))

/-- The entries of the file after overrides, and behind them those that the overrides make for new keys. -/
def entriesAfter (own : List (Datum × Datum)) (os : List Override) (keys : List String) : List (Datum × Datum) :=
  own.map (entryAfter os) ++ keys.map (newEntry os)

omit hdistinct in
theorem renewed_comp_entryAfter (os : List Override) (o : Override) :
    Datum.renewed o.setting.key (.text o.value) ∘ entryAfter os = entryAfter (os ++ [o]) := by
  funext ⟨k, v⟩
  cases k with
  | text key =>
    simp only [Function.comp_apply, Datum.renewed, entryAfter, Datum.isText, lastValue?_concat, beq_iff_eq]
    by_cases hkey : key = o.setting.key
    · simp [hkey]
    · simp [hkey, Ne.symm hkey]
  | _ => rfl

omit hdistinct in
theorem renewed_comp_newEntry (os : List Override) (o : Override) :
    Datum.renewed o.setting.key (.text o.value) ∘ newEntry os = newEntry (os ++ [o]) := by
  funext key
  simp only [Function.comp_apply, Datum.renewed, newEntry, Datum.isText, lastValue?_concat, beq_iff_eq]
  by_cases hkey : key = o.setting.key
  · simp [hkey]
  · simp [hkey, Ne.symm hkey]

omit hdistinct in
theorem entriesAfter_nil (own : List (Datum × Datum)) : entriesAfter own [] [] = own := by
  have hsame (e : Datum × Datum) : entryAfter [] e = e := by
    rw [entryAfter]
    split <;> rfl
  rw [entriesAfter, List.map_nil, List.append_nil]
  exact (List.map_congr_left fun e _ => hsame e).trans (List.map_id own)

/-- One more override renews the entries of its key; where no entry has the key, a new one comes last. -/
theorem overridden_concat_eq {os : List Override} {keys : List String} (o : Override)
    (h : overridden own os = entriesAfter own os keys) :
    overridden own (os ++ [o]) = entriesAfter own (os ++ [o]) (keys ++
      if Datum.lookup o.setting.key own = none ∧ lastValue? o.setting.key os = none then [o.setting.key] else []) := by
  rw [overridden_concat, Datum.insertEntry_text (distinct_overridden hdistinct os),
    lookup_overridden hdistinct os o.setting.key, h, entriesAfter, List.map_append, List.map_map, List.map_map,
    renewed_comp_entryAfter, renewed_comp_newEntry, entriesAfter, List.map_append, List.append_assoc]
  congr 2
  cases hown : Datum.lookup o.setting.key own with
  | none => cases hlast : lastValue? o.setting.key os <;> simp [newEntry, lastValue?_concat]
  | some d => cases hlast : lastValue? o.setting.key os <;> simp

omit hdistinct in
theorem isSome_lastValue?_concat (os : List Override) (o : Override) (key : String) :
    (lastValue? key (os ++ [o])).isSome ↔ key = o.setting.key ∨ (lastValue? key os).isSome := by
  rw [lastValue?_concat]
  by_cases hkey : key = o.setting.key
  · simp [hkey]
  · simp [hkey, Ne.symm hkey]

/-- **What overrides make of a map**: the entries of the file with their last texts, and behind them the keys that the
file lacks, each once. -/
theorem overridden_eq (os : List Override) : ∃ keys : List String, keys.Nodup ∧
    (∀ key, key ∈ keys ↔ Datum.lookup key own = none ∧ (lastValue? key os).isSome) ∧
    overridden own os = entriesAfter own os keys := by
  induction os using List.reverseRecOn with
  | nil => exact ⟨[], .nil, by simp [lastValue?], (entriesAfter_nil own).symm⟩
  | append_singleton os o ih =>
    obtain ⟨keys, hnodup, hkeys, heq⟩ := ih
    refine ⟨_, ?_, fun key => ?_, overridden_concat_eq hdistinct o heq⟩
    · split
      · rename_i hnew
        have hmem : o.setting.key ∉ keys := by
          rw [hkeys, hnew.2]
          simp
        refine List.nodup_append.mpr ⟨hnodup, List.nodup_singleton _, ?_⟩
        rintro key hkey _ hlast rfl
        exact hmem (List.mem_singleton.mp hlast ▸ hkey)
      · rwa [List.append_nil]
    · rw [List.mem_append, hkeys, isSome_lastValue?_concat]
      split
      · rename_i hnew
        rw [List.mem_singleton]
        constructor
        · rintro (⟨hother, hlater⟩ | rfl)
          · exact ⟨hother, .inr hlater⟩
          · exact ⟨hnew.1, .inl rfl⟩
        · rintro ⟨hother, rfl | hlater⟩
          · exact .inr rfl
          · exact .inl ⟨hother, hlater⟩
      · rename_i hold
        simp only [List.not_mem_nil, or_false]
        refine and_congr_right fun hother => ⟨.inr, ?_⟩
        -- a key that the file lacks has come before if it is not new
        rintro (rfl | hlater)
        · exact Option.isSome_iff_ne_none.mpr fun hlast => hold ⟨hother, hlast⟩
        · exact hlater

end overridden

/-! ## Files of settings -/

/-- What a file of settings holds: a map with distinct keys, or a list. -/
def IsFileData (d : Datum) : Prop :=
  (∃ own, d = .map own ∧ Datum.HasDistinctKeys own) ∨ ∃ items, d = .list items

theorem isFileData_ofEntries (entries : List (Datum × Datum)) : IsFileData (Datum.ofEntries entries) :=
  .inl ⟨_, rfl, Datum.distinct_ofEntries rfl⟩

theorem isFileData_of_ofLoneText {text : String} {d : Datum} (h : ofLoneText text = .ok d) : IsFileData d := by
  obtain ⟨d', -, hd⟩ := bind_eq_ok_iff.mp h
  cases d' with
  | null =>
    cases hd
    exact .inl ⟨[], rfl, .nil⟩
  | text s =>
    cases hd
    exact .inl ⟨_, rfl, List.pairwise_singleton _ _⟩
  | map entries =>
    cases hd
    exact isFileData_ofEntries entries
  | list items =>
    cases hd
    exact .inr ⟨items, rfl⟩
  | _ => cases hd

theorem isFileData_of_readText {text : List Char} {d : Datum} (h : readText text = .ok d) : IsFileData d := by
  obtain ⟨d', -, hd'⟩ := bind_eq_ok_iff.mp h
  have husable {x : Datum} (hx : (if isUsable x then pure x else .error .unusable) = Except.ok (ε := SettingsError) d) :
      x = d := by
    split at hx
    · exact Except.ok.inj hx
    · cases hx
  cases d' with
  | null => exact .inl ⟨[], (husable (x := .map []) hd').symm, .nil⟩
  | text s =>
    obtain ⟨x, hx, hd⟩ := bind_eq_ok_iff.mp hd'
    exact husable hd ▸ isFileData_of_ofLoneText hx
  | map entries => exact husable (x := Datum.ofEntries entries) hd' ▸ isFileData_ofEntries entries
  | list items => exact .inr ⟨items, (husable (x := .list items) hd').symm⟩
  | _ => cases hd'

theorem isFileData_of_readFile {s : Surroundings} {f : Folder} {path : Path} {d : Datum}
    (h : readFile s f path = .ok d) : IsFileData d := by
  obtain ⟨text, -, hd⟩ := bind_eq_ok_iff.mp h
  exact isFileData_of_readText hd

theorem exists_list_of_putLast {isClosed : Bool} {key : String} {v : Datum} {items : List Datum} {d : Datum}
    (h : KeyPath.putLast isClosed key v (.list items) = .ok d) : ∃ items', d = .list items' := by
  rw [KeyPath.putLast] at h
  split at h
  · cases h
  · split at h
    · cases h
    · cases h
      exact ⟨_, rfl⟩

/-- Overrides make no map of a list. -/
theorem exists_list_of_foldlM {os : List Override} {items : List Datum} {d : Datum}
    (h : (os.map Override.word).foldlM override (.list items) = .ok d) : ∃ items', d = .list items' := by
  induction os generalizing items with
  | nil => exact ⟨items, (Except.ok.inj h).symm⟩
  | cons o os ih =>
    obtain ⟨d₁, hd₁, hrest⟩ := bind_eq_ok_iff.mp h
    rw [override, splitOverride?_word] at hd₁
    obtain ⟨d₂, hput, hd₂⟩ := bind_eq_ok_iff.mp hd₁
    rw [ofText_key, KeyPath.update, mapError_eq_ok_iff] at hput
    obtain ⟨items', rfl⟩ := exists_list_of_putLast hput
    split at hd₂
    · cases hd₂
      exact ih hrest
    · cases hd₂

/-! ## Overrides in another order -/

/-- **Overrides of different keys change places**: those of each setting stay in their order. -/
def Reordered (os os' : List Override) : Prop :=
  ∀ k, (os.filter fun o => o.setting = k) = os'.filter fun o => o.setting = k

theorem Reordered.symm {os os' : List Override} (hreordered : Reordered os os') : Reordered os' os :=
  fun k => (hreordered k).symm

theorem Reordered.mem {os os' : List Override} (hreordered : Reordered os os') {o : Override} (ho : o ∈ os) : o ∈ os' := by
  have hfilter : o ∈ os.filter fun o' => o'.setting = o.setting := List.mem_filter.mpr ⟨ho, decide_eq_true rfl⟩
  rw [hreordered] at hfilter
  exact (List.mem_filter.mp hfilter).1

theorem lastValue?_of_reordered {os os' : List Override} (hreordered : Reordered os os') (key : String) :
    lastValue? key os = lastValue? key os' := by
  have hfilter : (os.filter fun o => o.setting.key = key) = os'.filter fun o => o.setting.key = key := by
    by_cases hkey : ∃ k : TextSetting, k.key = key
    · obtain ⟨k, rfl⟩ := hkey
      have hinj (o : Override) : o.setting.key = k.key ↔ o.setting = k := ⟨TextSetting.key_inj, congrArg _⟩
      simp only [hinj]
      exact hreordered k
    · have hnone (os : List Override) : (os.filter fun o => o.setting.key = key) = [] :=
        List.filter_eq_nil_iff.mpr fun o _ h => hkey ⟨o.setting, of_decide_eq_true h⟩
      rw [hnone, hnone]
  rw [lastValue?, hfilter, lastValue?]

section reordered

variable {own : List (Datum × Datum)} (hdistinct : Datum.HasDistinctKeys own) {os os' : List Override}
  (hreordered : Reordered os os')

include hdistinct hreordered

/-- **Overrides in another order** make the same of the entries of the file, and bring the same new entries in some
order. -/
theorem overridden_of_reordered : ∃ keys keys' : List String, keys.Perm keys' ∧
    overridden own os = entriesAfter own os keys ∧ overridden own os' = entriesAfter own os keys' := by
  obtain ⟨keys, hnodup, hkeys, heq⟩ := overridden_eq hdistinct os
  obtain ⟨keys', hnodup', hkeys', heq'⟩ := overridden_eq hdistinct os'
  have hlast : (lastValue? · os') = (lastValue? · os) :=
    funext fun key => (lastValue?_of_reordered hreordered key).symm
  have hafter : entryAfter os' = entryAfter os := by
    funext e
    simp only [entryAfter, congrFun hlast]
  have hnew : newEntry os' = newEntry os := by
    funext key
    simp only [newEntry, congrFun hlast]
  rw [entriesAfter, hafter, hnew] at heq'
  refine ⟨keys, keys', (List.perm_ext_iff_of_nodup hnodup hnodup').mpr fun key => ?_, heq, heq'⟩
  rw [hkeys, hkeys', congrFun hlast]

/-- Where the keys come in one order, overrides of different keys may change places. -/
theorem overridden_eq_of_reordered (hkeys : (overridden own os').map (·.1) = (overridden own os).map (·.1)) :
    overridden own os' = overridden own os := by
  obtain ⟨keys, keys', -, heq, heq'⟩ := overridden_of_reordered hdistinct hreordered
  have hnew : Function.Injective fun key : String => Datum.text key := fun _ _ h => Datum.text.inj h
  rw [heq, heq', entriesAfter, entriesAfter, List.map_append, List.map_append, List.append_cancel_left_eq, List.map_map,
    List.map_map] at hkeys
  rw [heq, heq', List.map_injective_iff.mpr hnew hkeys]

end reordered

end Settings

end CommandWrap
