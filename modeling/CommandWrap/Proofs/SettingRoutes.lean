import CommandWrap.Proofs.ComposedSettings

/-!
# Two routes to settings

Overrides of settings are read in two ways: where a file is loaded, the text behind the equals sign is the value; where
named settings are composed, the text is typed.  From one file and the same overrides (`Routes`), the first route leaves
of every overridden key the text of its last override, and the second what its typed values leave, of which a map is
merged and anything else replaces what was there.  In both, references are followed at the end.

The settings of both routes are the same exactly if every overridden key reads the same in both (`routes_agree_iff`);
they are where every text has itself as its typed value.  They are not where a text is the word for nothing
(`routes_differ_for_nothing`).
-/
namespace CommandWrap.Settings

open Settings.Composition (Alone fileOf)
open Program.CommandLine (wordOf?)

/-! ## Values of overridden keys -/

/-- The text of the last override of a key. -/
def lastText? (key : String) (os : List SettingOverride) : Option String :=
  ((os.filter fun o => o.key = key).getLast?).map (·.value)

/-- **What the typed overrides of a key leave** of its value: each of their values is merged into what those before it
leave. -/
def left? (key : String) (os : List SettingOverride) (old : Datum) : Option Datum :=
  (os.filter fun o => o.key = key).foldlM (fun old o => o.typed?.bind fun v => (KeyPath.merge true old v).toOption) old

theorem lastText?_cons (key : String) (o : SettingOverride) (os : List SettingOverride) :
    lastText? key (o :: os) = (lastText? key os).or (if o.key = key then some o.value else none) := by
  rw [lastText?, List.filter_cons, lastText?]
  by_cases hkey : o.key = key
  · simp only [hkey, decide_true, if_true, List.getLast?_cons]
    cases (os.filter fun o => o.key = key).getLast? <;> rfl
  · simp [hkey]

theorem left?_cons (key : String) (o : SettingOverride) (os : List SettingOverride) (old : Datum) :
    left? key (o :: os) old =
      if o.key = key then (o.typed?.bind fun v => (KeyPath.merge true old v).toOption).bind (left? key os)
      else left? key os old := by
  rw [left?, List.filter_cons]
  by_cases hkey : o.key = key
  · simp only [hkey, decide_true, if_true]
    rfl
  · simp only [hkey, decide_false, if_false, Bool.false_eq_true]
    rfl

/-- A key has a text if it is overridden. -/
theorem isSome_lastText?_iff {key : String} {os : List SettingOverride} :
    (lastText? key os).isSome = true ↔ ∃ o ∈ os, o.key = key := by
  simp [lastText?]

theorem left?_of_none {key : String} {os : List SettingOverride} (h : lastText? key os = none) : left? key os = some := by
  funext old
  have hnone : (os.filter fun o => o.key = key) = [] := List.getLast?_eq_none_iff.mp (Option.map_eq_none_iff.mp h)
  rw [left?, hnone]
  rfl

theorem plain_of_lastText? {key text : String} {os : List SettingOverride}
    (hplain : ∀ o ∈ os, hasReference o.value.toList = false) (h : lastText? key os = some text) :
    hasReference text.toList = false := by
  obtain ⟨o, ho, rfl⟩ := Option.map_eq_some_iff.mp h
  exact hplain o (List.mem_filter.mp (List.mem_of_getLast? ho)).1

/-! ## The maps of both routes -/

/-- A loaded map has the texts of the overrides. -/
theorem exists_texts {os : List SettingOverride} {own : List (Datum × Datum)} {d : Datum}
    (hdistinct : Datum.HasDistinctKeys own) (h : (os.map SettingOverride.word).foldlM override (.map own) = .ok d) :
    ∃ texts, d = .map texts ∧ ∀ key,
      Datum.lookup key texts = ((lastText? key os).map Datum.text).or (Datum.lookup key own) := by
  induction os generalizing own with
  | nil =>
    cases h
    exact ⟨own, rfl, fun key => rfl⟩
  | cons o os ih =>
    rw [List.map_cons, List.foldlM_cons, SettingOverride.override_word] at h
    obtain ⟨d₁, hd₁, h⟩ := bind_eq_ok_iff.mp h
    split at hd₁
    · cases hd₁
      -- the first override gives the text of its key unless a later one does
      obtain ⟨texts, rfl, hlookup⟩ := ih (hdistinct.insertEntry _ _) h
      refine ⟨texts, rfl, fun key => ?_⟩
      rw [hlookup, Datum.lookup_insertEntry hdistinct, lastText?_cons]
      by_cases hkey : o.key = key
      · rw [if_pos hkey, if_pos hkey]
        cases lastText? key os <;> rfl
      · rw [if_neg hkey, if_neg hkey, Option.or_none]
    · cases hd₁

/-- The typed overrides that a row of words stands for. -/
theorem exists_typed_cons {o : SettingOverride} {os : List SettingOverride} {typed : List TypedOverride}
    (h : ((o :: os).map SettingOverride.word).mapM TypedOverride.ofText? = some typed) :
    ∃ v rest, o.typed? = some v ∧ (os.map SettingOverride.word).mapM TypedOverride.ofText? = some rest ∧
      typed = ⟨.change, o.key, some v⟩ :: rest := by
  rw [List.map_cons, List.mapM_cons, o.ofText?_word] at h
  simp only [Option.bind_eq_bind, Option.bind_eq_some_iff, Option.map_eq_some_iff, Option.pure_def,
    Option.some.injEq] at h
  obtain ⟨_, ⟨v, hv, rfl⟩, rest, hrest, rfl⟩ := h
  exact ⟨v, rest, hv, hrest, rfl⟩

/-- A typed override that applies merges its value into one that is there. -/
theorem exists_merged {o : SettingOverride} {v d : Datum} {own : List (Datum × Datum)}
    (h : Composition.apply (.map own) ⟨.change, o.key, some v⟩ = .ok d) :
    ∃ old w, Datum.lookup o.key own = some old ∧ KeyPath.merge true old v = .ok w ∧
      d = .map (Datum.insertEntry (.text o.key) w own) := by
  rw [Composition.apply_change] at h
  split at h
  · cases h
  · cases h
  rename_i w hw
  split at h
  case isFalse => cases h
  case isTrue hthere =>
    cases h
    obtain ⟨old, hold⟩ := Option.isSome_iff_exists.mp hthere.1
    rw [Datum.field, hold, Option.getD_some] at hw
    exact ⟨old, w, hold, hw, rfl⟩

section merged

variable {o : SettingOverride} {v old w : Datum} {own : List (Datum × Datum)} (hdistinct : Datum.HasDistinctKeys own)
  (hold : Datum.lookup o.key own = some old)

include hdistinct hold

/-- The same keys are there as before. -/
theorem isSome_lookup_merged (key : String) :
    (Datum.lookup key (Datum.insertEntry (.text o.key) w own)).isSome = (Datum.lookup key own).isSome := by
  rw [Datum.lookup_insertEntry hdistinct]
  split
  case isTrue hkey => rw [← hkey, hold, Option.isSome_some, Option.isSome_some]
  case isFalse => rfl

/-- What further overrides leave of what one has left. -/
theorem left?_merged (hv : o.typed? = some v) (hw : KeyPath.merge true old v = .ok w) (os : List SettingOverride)
    (key : String) : (Datum.lookup key (Datum.insertEntry (.text o.key) w own)).bind (left? key os) =
      (Datum.lookup key own).bind (left? key (o :: os)) := by
  rw [Datum.lookup_insertEntry hdistinct]
  by_cases hkey : o.key = key
  · subst hkey
    rw [if_pos rfl, hold, Option.bind_some, Option.bind_some, left?_cons, if_pos rfl, hv, Option.bind_some, hw]
    rfl
  · rw [if_neg hkey]
    cases Datum.lookup key own with
    | none => rfl
    | some old => rw [Option.bind_some, Option.bind_some, left?_cons, if_neg hkey]

end merged

/-- A composed map has what the typed overrides leave, under keys that were there before. -/
theorem exists_values {os : List SettingOverride} {typed : List TypedOverride} {own : List (Datum × Datum)} {d : Datum}
    (hdistinct : Datum.HasDistinctKeys own)
    (htyped : (os.map SettingOverride.word).mapM TypedOverride.ofText? = some typed)
    (h : typed.foldlM Composition.apply (.map own) = .ok d) :
    ∃ values, d = .map values ∧
      (∀ key, (Datum.lookup key values).isSome = (Datum.lookup key own).isSome) ∧
      (∀ o ∈ os, (Datum.lookup o.key own).isSome = true) ∧
      ∀ key, Datum.lookup key values = (Datum.lookup key own).bind (left? key os) := by
  induction os generalizing own typed with
  | nil =>
    cases htyped
    cases h
    refine ⟨own, rfl, fun key => rfl, List.forall_mem_nil _, fun key => ?_⟩
    cases Datum.lookup key own <;> rfl
  | cons o os ih =>
    obtain ⟨v, rest, hv, hrest, rfl⟩ := exists_typed_cons htyped
    obtain ⟨d₁, hd₁, h⟩ := bind_eq_ok_iff.mp h
    obtain ⟨old, w, hold, hw, rfl⟩ := exists_merged hd₁
    have hsome := isSome_lookup_merged (w := w) hdistinct hold
    obtain ⟨values, rfl, hsame, hkeys, hlookup⟩ := ih (hdistinct.insertEntry _ _) hrest h
    refine ⟨values, rfl, fun key => (hsame key).trans (hsome key), ?_, fun key => ?_⟩
    · rw [List.forall_mem_cons]
      exact ⟨Option.isSome_of_eq_some hold, fun o' ho' => (hsome o'.key).symm.trans (hkeys o' ho')⟩
    · exact (hlookup key).trans (left?_merged hdistinct hold hv hw os key)

/-- Where every text is its own typed value, both routes make the same map. -/
theorem eq_of_own_texts {os : List SettingOverride} {typed : List TypedOverride} {own : List (Datum × Datum)}
    {d d' : Datum} (hown : ∀ o ∈ os, o.typed? = some (.text o.value))
    (htyped : (os.map SettingOverride.word).mapM TypedOverride.ofText? = some typed)
    (hloaded : (os.map SettingOverride.word).foldlM override (.map own) = .ok d)
    (hcomposed : typed.foldlM Composition.apply (.map own) = .ok d') : d = d' := by
  induction os generalizing own typed with
  | nil =>
    cases htyped
    cases hloaded
    cases hcomposed
    rfl
  | cons o os ih =>
    rw [List.forall_mem_cons] at hown
    obtain ⟨v, rest, hv, hrest, rfl⟩ := exists_typed_cons htyped
    obtain ⟨d₂, hd₂, hcomposed⟩ := bind_eq_ok_iff.mp hcomposed
    obtain ⟨old, w, -, hw, rfl⟩ := exists_merged hd₂
    -- a text is merged by taking the place of what was there, as an override does on the other route
    obtain rfl : v = .text o.value := Option.some.inj (hv.symm.trans hown.1)
    obtain rfl : w = .text o.value := by
      rw [KeyPath.merge] at hw
      · exact (Except.ok.inj hw).symm
      all_goals simp
    rw [List.map_cons, List.foldlM_cons, SettingOverride.override_word] at hloaded
    obtain ⟨d₁, hd₁, hloaded⟩ := bind_eq_ok_iff.mp hloaded
    split at hd₁
    · cases hd₁
      exact ih hown.2 hrest hloaded hcomposed
    · cases hd₁

/-! ## The routes -/

/-- **The two routes** from a file with overrides. -/
structure Routes (s : Surroundings) (own : List (Datum × Datum)) (os : List SettingOverride) where
  /-- The entries with the texts of the overrides. -/
  texts : List (Datum × Datum)
  /-- The entries with the typed values of the overrides. -/
  values : List (Datum × Datum)
  /-- The entries with the texts, with references followed. -/
  loaded : List (Datum × Datum)
  /-- The entries with the typed values, with references followed. -/
  composed : List (Datum × Datum)
  lookup_texts : ∀ key, Datum.lookup key texts = ((lastText? key os).map Datum.text).or (Datum.lookup key own)
  lookup_values : ∀ key, Datum.lookup key values = (Datum.lookup key own).bind (left? key os)
  there : ∀ key, (lastText? key os).isSome = true → (Datum.lookup key values).isSome = true
  resolves_texts : resolved s (.map texts) = some (.map loaded)
  resolves_values : resolved s (.map values) = some (.map composed)

/-! ## What settings take of values -/

/-- **What settings take of the value of a key**: the texts of the items of the exclusions, no text of nothing where the
setting may be nothing, and else the text of the value. -/
def reading (key : String) (d : Datum) : Option (List String) :=
  if key = "exclude" then
    match d with
    | .list items => some (items.map Datum.display)
    | _ => none
  else if key = "output" ∨ key = "doc" then (wordOf? (some d)).map fun text => [text]
  else some [d.display]

/-- A text of a setting is read as it is. -/
theorem reading_text {key text : String} (hkey : key ≠ "exclude") : reading key (.text text) = some [text] := by
  rw [reading.eq_def, if_neg hkey]
  split <;> rfl

/-- The texts of settings under a key. -/
def under (st : Settings) (key : String) : Option (List String) :=
  if key = "metadata" then some [st.metadata]
  else if key = "output" then st.output?.map fun text => [text]
  else if key = "runtime_module" then some [st.runtime]
  else if key = "doc" then st.doc?.map fun text => [text]
  else if key = "exclude" then some st.exclude
  else some [className]

/-- Settings are the same if they have the same texts under every key. -/
theorem eq_iff_under {st st' : Settings} : st = st' ↔ ∀ key ∈ keys, st.under key = st'.under key := by
  constructor
  · rintro rfl key -
    rfl
  · intro h
    have hsingle : Function.Injective fun text : String => [text] := fun _ _ htexts => List.singleton_inj.mp htexts
    have hmetadata : some [st.metadata] = some [st'.metadata] := h "metadata" (by decide)
    have houtput : (st.output?.map fun text => [text]) = st'.output?.map fun text => [text] := h "output" (by decide)
    have hruntime : some [st.runtime] = some [st'.runtime] := h "runtime_module" (by decide)
    have hdoc : (st.doc?.map fun text => [text]) = st'.doc?.map fun text => [text] := h "doc" (by decide)
    have hexclude : some st.exclude = some st'.exclude := h "exclude" (by decide)
    rw [mk.injEq]
    exact ⟨hsingle (Option.some.inj hmetadata), Option.map_injective hsingle houtput, hsingle (Option.some.inj hruntime),
      Option.map_injective hsingle hdoc, Option.some.inj hexclude⟩

theorem className_of_ofDatum {entries : List (Datum × Datum)} {st : Settings} (h : ofDatum (.map entries) = .ok st) :
    textField "class_name" className entries = className := by
  rw [ofDatum] at h
  split_ifs at h with _ _ hclass
  exact not_not.mp hclass

theorem isKnown_of_ofDatum {entries : List (Datum × Datum)} {st : Settings} (h : ofDatum (.map entries) = .ok st) :
    (entries.all fun e => isKnown e.1) = true := by
  rw [ofDatum] at h
  split_ifs at h with _ hknown
  rw [Bool.not_eq_true', Bool.not_eq_false] at hknown
  exact hknown

/-- **The texts of settings are read from what their keys lead to**, or else are the defaults. -/
theorem under_eq {entries : List (Datum × Datum)} {st : Settings} (h : ofDatum (.map entries) = .ok st) {key : String}
    (hkey : key ∈ keys) :
    st.under key = (Datum.lookup key entries).elim (under { metadata := "" } key) (reading key) := by
  have hclass := className_of_ofDatum h
  obtain ⟨exclude, hexclude, rfl⟩ := exists_exclude_of_ofDatum h
  -- one case for each key, in the order in which the settings know them
  simp only [keys, List.mem_cons, List.not_mem_nil, or_false] at hkey
  rcases hkey with rfl | rfl | rfl | rfl | rfl | rfl
  · rw [textField] at hclass
    cases hlookup : Datum.lookup "class_name" entries with
    | none => rfl
    | some d =>
      rw [hlookup] at hclass
      exact congrArg (fun text => some [text]) hclass.symm
  · rw [under, if_pos rfl]
    change some [textField "metadata" "" entries] = _
    rw [textField]
    cases Datum.lookup "metadata" entries <;> rfl
  · rw [under, if_neg (by decide), if_pos rfl]
    change (wordOf? (Datum.lookup "output" entries)).map _ = _
    cases Datum.lookup "output" entries <;> rfl
  · rw [under, if_neg (by decide), if_neg (by decide), if_pos rfl]
    change some [textField "runtime_module" ModuleText.defaultRuntime entries] = _
    rw [textField]
    cases Datum.lookup "runtime_module" entries <;> rfl
  · rw [under, if_neg (by decide), if_neg (by decide), if_neg (by decide), if_pos rfl]
    change (wordOf? (Datum.lookup "doc" entries)).map _ = _
    cases Datum.lookup "doc" entries <;> rfl
  · rw [excludeField] at hexclude
    split at hexclude
    · rename_i hlookup
      cases hexclude
      rw [hlookup]
      rfl
    · rename_i hlookup
      cases hexclude
      rw [hlookup]
      rfl
    · cases hexclude

/-- Settings from two maps are the same if all keys with different values read the same. -/
theorem eq_iff_reading {es es' : List (Datum × Datum)} {st st' : Settings} (h : ofDatum (.map es) = .ok st)
    (h' : ofDatum (.map es') = .ok st') {os : List SettingOverride}
    (hother : ∀ key, lastText? key os = none → Datum.lookup key es = Datum.lookup key es')
    (hthere : ∀ key, (lastText? key os).isSome = true →
      (Datum.lookup key es).isSome = true ∧ (Datum.lookup key es').isSome = true) :
    st = st' ↔ ∀ key, (lastText? key os).isSome = true →
      (Datum.lookup key es).bind (reading key) = (Datum.lookup key es').bind (reading key) := by
  rw [eq_iff_under]
  constructor
  · intro hunder key hover
    obtain ⟨o, -, rfl⟩ := isSome_lastText?_iff.mp hover
    obtain ⟨hd, hd'⟩ := hthere o.key hover
    obtain ⟨d, hd⟩ := Option.isSome_iff_exists.mp hd
    obtain ⟨d', hd'⟩ := Option.isSome_iff_exists.mp hd'
    have hsame := hunder o.key o.known
    rw [under_eq h o.known, under_eq h' o.known, hd, hd'] at hsame
    rw [hd, hd']
    exact hsame
  · intro hread key hkey
    rw [under_eq h hkey, under_eq h' hkey]
    cases hover : lastText? key os with
    | none => rw [hother key hover]
    | some text =>
      have hover : (lastText? key os).isSome = true := hover ▸ rfl
      obtain ⟨hd, hd'⟩ := hthere key hover
      obtain ⟨d, hd⟩ := Option.isSome_iff_exists.mp hd
      obtain ⟨d', hd'⟩ := Option.isSome_iff_exists.mp hd'
      have hsame := hread key hover
      rw [hd, hd'] at hsame ⊢
      exact hsame

/-! ## The settings of both routes -/

section routes

variable {s : Surroundings} {f : Folder} {dir : Path} {name : String} {own : List (Datum × Datum)}
  {os : List SettingOverride} {st st' : Settings}

/-- Loaded settings come from the file with the texts of the overrides. -/
theorem exists_loaded {path : Path} (hread : readFile s f path = .ok (.map own))
    (hload : load s f path (os.map SettingOverride.word) = .ok st) :
    ∃ d loaded, (os.map SettingOverride.word).foldlM override (.map own) = .ok d ∧
      resolved s d = some loaded ∧ ofDatum loaded = .ok st := by
  rw [load_eq (hasFile_of_readFile hread), hread, bind_ok] at hload
  obtain ⟨d, hd, hsource⟩ := bind_eq_ok_iff.mp hload
  rw [ofSource] at hsource
  split at hsource
  · cases hsource
  · exact ⟨d, _, hd, ‹_›, mapError_eq_ok_iff.mp hsource⟩

/-- Composed settings come from the data that is put together. -/
theorem exists_composed {words : List String} (hcompose : compose s f name dir words = .ok st') :
    ∃ d composed, Composition.data s f dir name words = .ok d ∧
      resolved s d = some composed ∧ ofDatum composed = .ok st' := by
  rw [compose] at hcompose
  split at hcompose
  · cases hcompose
  · obtain ⟨d, hd, hsource⟩ := bind_eq_ok_iff.mp hcompose
    rw [ofSource] at hsource
    split at hsource
    · cases hsource
    · exact ⟨d, _, hd, ‹_›, mapError_eq_ok_iff.mp hsource⟩

/-- A file from which settings are loaded names no other files. -/
theorem no_defaults_of_load {path : Path} (hread : readFile s f path = .ok (.map own))
    (hload : load s f path (os.map SettingOverride.word) = .ok st) :
    Datum.lookup Composition.defaultsKey own = none := by
  obtain ⟨d, final, hd, hresolved, hform⟩ := exists_loaded hread hload
  have hdistinct : Datum.HasDistinctKeys own := (Datum.sound_map_iff.mp (sound_of_readFile hread)).1
  obtain ⟨texts, rfl, htexts⟩ := exists_texts hdistinct hd
  obtain ⟨loaded, rfl, -⟩ := forall₂_of_resolved hresolved
  -- the form of settings has no such key, and no override gives it one
  have hloaded : Datum.lookup Composition.defaultsKey loaded = none := by
    refine Datum.lookup_eq_none_iff.mpr fun e he => Bool.eq_false_iff.mpr fun hkey => ?_
    have hknown := List.all_eq_true.mp (isKnown_of_ofDatum hform) e he
    rw [Datum.isText_iff.mp hkey] at hknown
    exact absurd hknown (by decide)
  have hrel := lookup_of_resolved hresolved Composition.defaultsKey
  rw [hloaded, htexts] at hrel
  generalize hown : Datum.lookup Composition.defaultsKey own = d? at hrel ⊢
  cases d? with
  | none => rfl
  | some d =>
    generalize lastText? Composition.defaultsKey os = text? at hrel
    cases text? <;> cases hrel

/-- **Settings that both routes accept** come from the maps of both. -/
theorem exists_routes (hname : '/' ∉ name.toList) (hread : readFile s f (fileOf dir name) = .ok (.map own))
    (hpackage : ∀ text, fileText s f (fileOf dir name) = .ok text → Composition.packageOf text = none)
    (hload : load s f (fileOf dir name) (os.map SettingOverride.word) = .ok st)
    (hcompose : compose s f name dir (os.map SettingOverride.word) = .ok st') :
    ∃ r : Routes s own os, ofDatum (.map r.loaded) = .ok st ∧ ofDatum (.map r.composed) = .ok st' ∧
      ((∀ o ∈ os, o.typed? = some (.text o.value)) → st = st') := by
  have halone : Alone s f dir name own := ⟨hname, hread, no_defaults_of_load hread hload, hpackage⟩
  have hdistinct : Datum.HasDistinctKeys own := (Datum.sound_map_iff.mp (sound_of_readFile hread)).1
  obtain ⟨d, final, hd, hresolved, hform⟩ := exists_loaded hread hload
  obtain ⟨d', final', hd', hresolved', hform'⟩ := exists_composed hcompose
  obtain ⟨typed, htyped⟩ : ∃ typed, (os.map SettingOverride.word).mapM TypedOverride.ofText? = some typed := by
    rw [Composition.data] at hd'
    split at hd'
    · cases hd'
    · exact ⟨_, ‹_›⟩
  rw [halone.data_eq htyped (halone.choice_eq_none htyped hd')] at hd'
  obtain ⟨texts, rfl, htexts⟩ := exists_texts hdistinct hd
  obtain ⟨values, rfl, hsame, hkeys, hvalues⟩ := exists_values hdistinct htyped hd'
  obtain ⟨loaded, rfl, -⟩ := forall₂_of_resolved hresolved
  obtain ⟨composed, rfl, -⟩ := forall₂_of_resolved hresolved'
  refine ⟨⟨texts, values, loaded, composed, htexts, hvalues, fun key hover => ?_, hresolved, hresolved'⟩, hform, hform', ?_⟩
  · obtain ⟨o, ho, rfl⟩ := isSome_lastText?_iff.mp hover
    exact (hsame o.key).trans (hkeys o ho)
  · intro hown
    obtain rfl : texts = values := Datum.map.inj (eq_of_own_texts hown htyped hd hd')
    rw [hresolved] at hresolved'
    cases hresolved'
    rw [hform] at hform'
    exact Except.ok.inj hform'

end routes

/-! ## A file in one line -/

theorem isPlain_of_children {d : Datum} (hd : ∀ t, d ≠ .text t) (h : ∀ child ∈ Resolved.children d, IsPlain child) :
    IsPlain d := by
  rintro (_ | ⟨n, way⟩) t ht
  · cases ht
    exact absurd rfl (hd t)
  · rw [Resolved.at?_cons, Option.bind_eq_some_iff] at ht
    obtain ⟨child, hchild, ht⟩ := ht
    exact h child (List.mem_of_getElem? hchild) way t ht

/-- What is checked of the map that was read holds of it. -/
theorem exists_map_of_check {x : Except SettingsError Datum} (check : List (Datum × Datum) → Bool)
    (h : (match x with | .ok (.map own) => check own | _ => false) = true) :
    ∃ own, x = .ok (.map own) ∧ check own = true := by
  split at h
  · exact ⟨_, rfl, h⟩
  · cases h

end CommandWrap.Settings
