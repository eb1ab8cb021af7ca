import CommandWrap.Proofs.Overrides
import CommandWrap.Proofs.References

/-!
# Settings from resolved maps

The data of a file with overrides is resolved before settings are read from it.  A map is resolved entry by entry
(`forall₂_of_resolved`): the keys stay, and plain values are the same.  So settings are read from what the keys lead to
(`exists_exclude_of_ofDatum`).

Overrides of different keys may change places (`ofSource_of_reordered`).  They make the same of the entries of the file
and bring new entries in some order, so the two maps are the same but for the numbers of the new entries
(`renumbered_of_perm`).  References that lead inside do not see those numbers: the maps stand for maps that differ so
again (`resolved_of_perm`), and settings do not depend on the order of keys.
-/
namespace CommandWrap.Settings

variable {s : Surroundings}

/-! ## Resolved maps -/

/-- A map is resolved entry by entry. -/
theorem resolve_map (entries : List (Datum × Datum)) (fuel : Nat) :
    Resolved.resolve s (.map entries) (fuel + 2) [] (.map entries) =
      (entries.zipIdx.mapM fun e =>
        (Resolved.resolve s (.map entries) (fuel + 1) [e.2] e.1.2).map (e.1.1, ·)).map .map := by
  rw [Resolved.resolve, Resolved.follow]
  · simp only [Option.bind_eq_bind, Option.bind_some, Resolved.at?_nil, List.nil_append, Option.map_eq_bind]
    rfl
  · simp

theorem resolve_text {root : Datum} {way : List Nat} {t : String} (ht : Resolved.at? root way = some (.text t))
    (hplain : hasReference t.toList = false) (fuel : Nat) :
    Resolved.resolve s root (fuel + 2) way (.text t) = some (.text t) := by
  simp [Resolved.resolve, Resolved.follow, hplain, ht]

/-- The entries of a resolved map go together with those of the map, and plain values are the same. -/
theorem forall₂_of_resolved {entries : List (Datum × Datum)} {d : Datum} (h : resolved s (.map entries) = some d) :
    ∃ final, d = .map final ∧
      List.Forall₂ (fun e e' => e'.1 = e.1 ∧ (IsPlain e.2 → e'.2 = e.2)) entries final := by
  rw [resolved, resolve_map, Option.map_eq_some_iff] at h
  obtain ⟨final, hfinal, rfl⟩ := h
  refine ⟨final, rfl, ?_⟩
  rw [← List.zipIdx_map_fst (l := entries) (i := 0), List.forall₂_map_left_iff]
  refine forall₂_imp_of_mem (mapM_eq_some_iff.mp hfinal) ?_
  rintro ⟨⟨k, v⟩, i⟩ he e' he'
  obtain ⟨v', hv', rfl⟩ := Option.map_eq_some_iff.mp he'
  refine ⟨rfl, fun hplain => resolve_plain hplain ?_ hv'⟩
  simp [Resolved.children, List.mem_zipIdx_iff_getElem?.mp he]

/-- A list stands for a list. -/
theorem exists_list_of_resolved {items : List Datum} {d : Datum} (h : resolved s (.list items) = some d) :
    ∃ items', d = .list items' := by
  rw [resolved, Resolved.resolve, Resolved.follow] at h
  · simp only [Option.bind_eq_bind, Option.bind_some, Resolved.at?_nil, Option.bind_eq_some_iff, Option.pure_def,
      Option.some.injEq] at h
    obtain ⟨items', -, rfl⟩ := h
    exact ⟨items', rfl⟩
  · simp

/-- Where entries go together, so does what a key leads to. -/
theorem lookup_rel {R : Datum → Datum → Prop} {es es' : List (Datum × Datum)}
    (h : List.Forall₂ (fun e e' => e'.1 = e.1 ∧ R e.2 e'.2) es es') (key : String) :
    Option.Rel R (Datum.lookup key es) (Datum.lookup key es') := by
  induction h with
  | nil => exact .none
  | @cons e e' es es' he _ ih =>
    obtain ⟨k, v⟩ := e
    obtain ⟨k', v'⟩ := e'
    obtain ⟨rfl, hv⟩ := he
    rw [Datum.lookup, Datum.lookup]
    cases hlookup : Datum.lookup key es <;> cases hlookup' : Datum.lookup key es' <;> rw [hlookup, hlookup'] at ih
    · dsimp only
      split
      · exact .some hv
      · exact .none
    · cases ih
    · cases ih
    · exact ih

/-- What a key leads to stays under it where references are followed, and plain data stays as it is. -/
theorem lookup_of_resolved {entries final : List (Datum × Datum)}
    (h : resolved s (.map entries) = some (.map final)) (key : String) :
    Option.Rel (fun d d' => IsPlain d → d' = d) (Datum.lookup key entries) (Datum.lookup key final) := by
  obtain ⟨final', hfinal, hrow⟩ := forall₂_of_resolved h
  cases hfinal
  exact lookup_rel (R := fun d d' => IsPlain d → d' = d) hrow key

theorem lookup_plain_of_resolved {entries final : List (Datum × Datum)}
    (h : resolved s (.map entries) = some (.map final)) {key : String} {d : Datum}
    (hd : Datum.lookup key entries = some d) (hplain : IsPlain d) : Datum.lookup key final = some d := by
  have hrel := lookup_of_resolved h key
  rw [hd] at hrel
  generalize Datum.lookup key final = d'? at hrel ⊢
  cases hrel with
  | some hd' => rw [hd' hplain]

theorem lookup_none_of_resolved {entries final : List (Datum × Datum)}
    (h : resolved s (.map entries) = some (.map final)) {key : String} (hd : Datum.lookup key entries = none) :
    Datum.lookup key final = none := by
  have hrel := lookup_of_resolved h key
  rw [hd] at hrel
  generalize Datum.lookup key final = d'? at hrel ⊢
  cases hrel
  rfl

theorem isSome_lookup_of_resolved {entries final : List (Datum × Datum)}
    (h : resolved s (.map entries) = some (.map final)) {key : String} (hd : (Datum.lookup key entries).isSome = true) :
    (Datum.lookup key final).isSome = true := by
  obtain ⟨d, hd⟩ := Option.isSome_iff_exists.mp hd
  have hrel := lookup_of_resolved h key
  rw [hd] at hrel
  generalize Datum.lookup key final = d'? at hrel ⊢
  cases hrel
  rfl

/-! ## Reading settings from data -/

/-- Settings are read from what their keys lead to. -/
theorem ofDatum_congr {es es' : List (Datum × Datum)} (hlookup : ∀ key, Datum.lookup key es = Datum.lookup key es')
    (hknown : (es.all fun e => isKnown e.1) = es'.all fun e => isKnown e.1) :
    ofDatum (.map es) = ofDatum (.map es') := by
  have hfield (key : String) : Datum.field key es = Datum.field key es' := by rw [Datum.field, Datum.field, hlookup]
  have htext (key default : String) : textField key default es = textField key default es' := by
    rw [textField, textField, hlookup]
  have htext? (key : String) : textField? key es = textField? key es' := by rw [textField?, textField?, hlookup]
  have hexclude : excludeField es = excludeField es' := by rw [excludeField, excludeField, hlookup]
  rw [ofDatum, ofDatum]
  simp only [hfield, htext, htext?, hexclude, hknown]

/-- Settings that are read from a map are what its keys lead to. -/
theorem exists_exclude_of_ofDatum {entries : List (Datum × Datum)} {st : Settings}
    (h : ofDatum (.map entries) = .ok st) : ∃ exclude, excludeField entries = .ok exclude ∧ st =
      { metadata := textField "metadata" "" entries
        output? := textField? "output" entries
        runtime := textField "runtime_module" ModuleText.defaultRuntime entries
        doc? := textField? "doc" entries
        exclude } := by
  rw [ofDatum] at h
  split_ifs at h
  obtain ⟨exclude, hexclude, hst⟩ := bind_eq_ok_iff.mp h
  exact ⟨exclude, hexclude, (Except.ok.inj hst).symm⟩

/-! ## Overrides in another order -/

section reordered

variable {own : List (Datum × Datum)} {os : List Override}

theorem plain_of_lastValue? (hplain : ∀ o ∈ os, hasReference o.value.toList = false) {key text : String}
    (hlast : lastValue? key os = some text) : hasReference text.toList = false := by
  obtain ⟨o, ho, rfl⟩ := Option.map_eq_some_iff.mp hlast
  exact hplain o (List.mem_filter.mp (List.mem_of_getLast? ho)).1

theorem newEntry_plain (hplain : ∀ o ∈ os, hasReference o.value.toList = false) (key : String) :
    ∃ t, (newEntry os key).2 = .text t ∧ hasReference t.toList = false := by
  refine ⟨_, rfl, ?_⟩
  cases hlast : lastValue? key os with
  | none => rfl
  | some text => exact plain_of_lastValue? hplain hlast

theorem place?_append (key : String) (es fs : List (Datum × Datum)) :
    KeyPath.place? key (es ++ fs) = (KeyPath.place? key es).or ((KeyPath.place? key fs).map (· + es.length)) :=
  List.findIdx?_append

theorem exists_of_place? {key : String} {entries : List (Datum × Datum)} {i : Nat}
    (h : KeyPath.place? key entries = some i) : ∃ e, entries[i]? = some e ∧ e.1.isText key = true := by
  obtain ⟨hi, hkey, -⟩ := List.findIdx?_eq_some_iff_getElem.mp h
  exact ⟨_, List.getElem?_eq_getElem hi, hkey⟩

theorem place?_newEntry (os : List Override) (key : String) (keys : List String) :
    KeyPath.place? key (keys.map (newEntry os)) = keys.findIdx? (· == key) := by
  rw [KeyPath.place?, List.findIdx?_map]
  rfl

theorem exists_findIdx? {key : String} {keys : List String} (hkey : key ∈ keys) :
    ∃ j, keys.findIdx? (· == key) = some j ∧ keys[j]? = some key := by
  cases hj : keys.findIdx? (· == key) with
  | none => exact absurd (beq_self_eq_true key) (Bool.eq_false_iff.mp (List.findIdx?_eq_none_iff.mp hj key hkey))
  | some j =>
    obtain ⟨hlt, heq, -⟩ := List.findIdx?_eq_some_iff_getElem.mp hj
    exact ⟨j, rfl, (List.getElem?_eq_getElem hlt).trans (congrArg some (eq_of_beq heq))⟩

theorem findIdx?_of_not_mem {key : String} {keys : List String} (hkey : key ∉ keys) :
    keys.findIdx? (· == key) = none := by
  refine List.findIdx?_eq_none_iff.mpr fun other hother => beq_eq_false_iff_ne.mpr ?_
  rintro rfl
  exact hkey hother

theorem size_of_perm {entries entries' : List (Datum × Datum)} (hperm : entries.Perm entries') :
    Resolved.size (.map entries) = Resolved.size (.map entries') := by
  rw [Resolved.size, Resolved.size]
  induction hperm with
  | nil => rfl
  | cons e hperm ih =>
    simp only [Resolved.size.entrySizes]
    omega
  | swap e e' entries =>
    simp only [Resolved.size.entrySizes]
    omega
  | trans hperm hperm' ih ih' => rw [ih, ih']

/-- What overrides leave of the values of a file leads inside if those do. -/
theorem leadsInside_entryAfter {e : Datum × Datum} (hinside : LeadsInside e.2)
    (hplain : ∀ o ∈ os, hasReference o.value.toList = false) : LeadsInside (entryAfter os e).2 := by
  obtain ⟨k, v⟩ := e
  cases k with
  | text key =>
    cases hlast : lastValue? key os with
    | none => simpa [entryAfter, hlast] using hinside
    | some text => simpa [entryAfter, hlast] using (isPlain_text.mpr (plain_of_lastValue? hplain hlast)).leadsInside
  | _ => exact hinside

/-- Maps that differ in the order of new entries are the same but for their numbers. -/
theorem renumbered_of_perm (hinside : LeadsInside (.map own)) (hplain : ∀ o ∈ os, hasReference o.value.toList = false)
    {keys keys' : List String} (hperm : keys.Perm keys') :
    Renumbered own.length (.map (entriesAfter own os keys)) (.map (entriesAfter own os keys')) where
  container := rfl
  container' := rfl
  old := by
    intro i hi
    simp [entriesAfter, Resolved.children, List.getElem?_append_left, hi]
  inside := by
    intro i hi d hd
    simp only [entriesAfter, Resolved.at?_singleton, Resolved.children, List.map_append, List.map_map] at hd
    rw [List.getElem?_append_left (by simpa using hi), List.getElem?_map, Option.map_eq_some_iff] at hd
    obtain ⟨e, he, rfl⟩ := hd
    have hplace : Resolved.at? (.map own) [i] = some e.2 := by simp [Resolved.children, he]
    exact leadsInside_entryAfter (hinside.at hplace) hplain
  number := by
    intro key
    simp only [entriesAfter, Resolved.childNumber?, place?_append, place?_newEntry, List.length_map]
    -- a key of the settings keeps its number; a new one is found at its place in either order
    cases hold : KeyPath.place? key (own.map (entryAfter os)) with
    | some i =>
      obtain ⟨e, he, -⟩ := exists_of_place? hold
      refine .some (.old ?_)
      simpa using (List.getElem?_eq_some_iff.mp he).1
    | none =>
      obtain ⟨t, ht, hplain⟩ := newEntry_plain hplain key
      have hplace {keys : List String} {j : Nat} (hj : keys[j]? = some key) :
          Resolved.at? (.map (entriesAfter own os keys)) [j + own.length] = some (.text t) := by
        simp [entriesAfter, Resolved.children, List.getElem?_append_right, hj, ht]
      by_cases hkey : key ∈ keys
      · obtain ⟨j, hj, hplaced⟩ := exists_findIdx? hkey
        obtain ⟨j', hj', hplaced'⟩ := exists_findIdx? (hperm.mem_iff.mp hkey)
        rw [hj, hj']
        exact .some (.new hplain (hplace hplaced) (hplace hplaced'))
      · rw [findIdx?_of_not_mem hkey, findIdx?_of_not_mem (mt hperm.mem_iff.mpr hkey)]
        exact .none

/-- New entries stand for themselves. -/
theorem mapM_newEntries (hplain : ∀ o ∈ os, hasReference o.value.toList = false) (kept : List (Datum × Datum))
    (keys : List String) (fuel : Nat) :
    (((keys.map (newEntry os)).zipIdx kept.length).mapM fun e =>
      (Resolved.resolve s (.map (kept ++ keys.map (newEntry os))) (fuel + 2) [e.2] e.1.2).map (e.1.1, ·)) =
      some (keys.map (newEntry os)) := by
  rw [mapM_congr_of_mem (g := fun e => pure e.1), List.mapM_pure, List.zipIdx_map_fst]
  · rfl
  · rintro ⟨e, m⟩ he
    obtain ⟨hle, hm⟩ := List.mem_zipIdx_iff_le_and_getElem?_sub.mp he
    obtain ⟨key, -, rfl⟩ := List.mem_map.mp (List.mem_of_getElem? hm)
    obtain ⟨t, ht, hplain⟩ := newEntry_plain hplain key
    have hplace : Resolved.at? (.map (kept ++ keys.map (newEntry os))) [m] = some (.text t) := by
      rw [Resolved.at?_singleton, Resolved.children, List.getElem?_map, List.getElem?_append_right hle, hm, Option.map_some,
        ht]
    dsimp only
    rw [ht, resolve_text hplace hplain, Option.map_some, ← ht]
    rfl

/-- **Maps that differ in the order of new entries** stand for maps that differ so, if the references of the file lead
inside. -/
theorem resolved_of_perm (hinside : LeadsInside (.map own)) (hplain : ∀ o ∈ os, hasReference o.value.toList = false)
    {keys keys' : List String} (hperm : keys.Perm keys') {d : Datum}
    (h : resolved s (.map (entriesAfter own os keys)) = some d) :
    ∃ kept, d = .map (kept ++ keys.map (newEntry os)) ∧
      resolved s (.map (entriesAfter own os keys')) = some (.map (kept ++ keys'.map (newEntry os))) := by
  have hsize : Resolved.size (.map (entriesAfter own os keys)) = Resolved.size (.map (entriesAfter own os keys')) :=
    size_of_perm ((hperm.map _).append_left _)
  have hsame := renumbered_of_perm hinside hplain hperm
  -- the entries that were there resolve to the same data, since no number of theirs changes
  have hold (fuel : Nat) :
      ((own.map (entryAfter os)).zipIdx.mapM fun e =>
        (Resolved.resolve s (.map (entriesAfter own os keys')) fuel [e.2] e.1.2).map (e.1.1, ·)) =
      (own.map (entryAfter os)).zipIdx.mapM fun e =>
        (Resolved.resolve s (.map (entriesAfter own os keys)) fuel [e.2] e.1.2).map (e.1.1, ·) := by
    refine mapM_congr_of_mem ?_
    rintro ⟨e, i⟩ he
    have hi : (own.map (entryAfter os))[i]? = some e := List.mem_zipIdx_iff_getElem?.mp he
    have hlt : i < own.length := by simpa using (List.getElem?_eq_some_iff.mp hi).1
    have hplace : Resolved.at? (.map (entriesAfter own os keys)) [i] = some e.2 := by
      rw [Resolved.at?_singleton, Resolved.children, entriesAfter, List.getElem?_map,
        List.getElem?_append_left (List.getElem?_eq_some_iff.mp hi).1, hi, Option.map_some]
    dsimp only
    rw [(agrees hsame fuel).resolve (.old hlt []) hplace ((hsame.old i hlt).symm.trans hplace)]
  rw [resolved, resolve_map, entriesAfter, List.zipIdx_append, List.mapM_append, Nat.zero_add,
    mapM_newEntries hplain, ← entriesAfter] at h
  rw [resolved, ← hsize, resolve_map, entriesAfter, List.zipIdx_append, List.mapM_append, Nat.zero_add,
    mapM_newEntries hplain, ← entriesAfter, hold]
  simp only [Option.map_eq_some_iff, Option.bind_eq_bind, Option.bind_eq_some_iff, Option.pure_def, Option.some.injEq] at h
  obtain ⟨_, ⟨kept, hkept, _, rfl, rfl⟩, rfl⟩ := h
  refine ⟨kept, rfl, ?_⟩
  rw [hkept]
  rfl

theorem lookup_newEntries (os : List Override) (key : String) (keys : List String) :
    Datum.lookup key (keys.map (newEntry os)) = if key ∈ keys then some (newEntry os key).2 else none := by
  induction keys with
  | nil => rfl
  | cons other keys ih =>
    rw [List.map_cons, newEntry, Datum.lookup, ih]
    by_cases hkey : key = other
    · subst hkey
      by_cases hmem : key ∈ keys <;> simp [hmem, newEntry, Datum.isText]
    · by_cases hmem : key ∈ keys <;> simp [hmem, newEntry, Datum.isText, hkey, Ne.symm hkey]

/-- **Settings do not depend on the order of overrides of different keys**, where the keys come in one order or the
references of the file lead inside. -/
theorem ofSource_of_reordered {os' : List Override} (hdistinct : Datum.HasDistinctKeys own)
    (hplain : ∀ o ∈ os, hasReference o.value.toList = false) (hreordered : Reordered os os')
    (horder : (overridden own os').map (·.1) = (overridden own os).map (·.1) ∨ LeadsInside (.map own))
    {source : String} {st : Settings} (h : ofSource s source (.map (overridden own os)) = .ok st) :
    ofSource s source (.map (overridden own os')) = .ok st := by
  rcases horder with hkeys | hinside
  · rw [overridden_eq_of_reordered hdistinct hreordered hkeys]
    exact h
  · obtain ⟨keys, keys', hperm, heq, heq'⟩ := overridden_of_reordered hdistinct hreordered
    rw [heq] at h
    rw [heq']
    rw [ofSource] at h ⊢
    cases hresolved : resolved s (.map (entriesAfter own os keys)) with
    | none =>
      rw [hresolved] at h
      cases h
    | some d =>
      obtain ⟨kept, rfl, hresolved'⟩ := resolved_of_perm hinside hplain hperm hresolved
      rw [hresolved] at h
      rw [hresolved']
      dsimp only at h ⊢
      rw [← h, mapError_inj (by rintro _ _ ⟨⟩; rfl)]
      refine ofDatum_congr (fun key => ?_) ?_
      · rw [TreeReader.lookup_append, TreeReader.lookup_append, lookup_newEntries, lookup_newEntries]
        simp only [hperm.mem_iff]
      · rw [List.all_append, List.all_append, (hperm.map _).all_eq]

end reordered

end CommandWrap.Settings
