import CommandWrap.Proofs.SettingLayers
import CommandWrap.Proofs.SoundReferences

/-!
# Sources of settings

A text for settings holds a map or a list (`Holds`), or there is a reason why it holds nothing that settings can use
(`NoData`): its reader faults, it is a single value that is no text, or some of its data is unusable (`Unusable`).  Which
of the two is the case decides what the reader of the text gives (`readText_eq_ok_iff`, `readText_eq_error_iff`).

What a text holds is sound, and so are the data that overrides make of it and the data for which that stands, so the
command tree of loaded settings is never an empty text (`metadata_ne_empty`).
-/
namespace CommandWrap.Settings

/-! ## Data that cannot be used -/

/-- **Why data cannot be used** for settings. -/
inductive Unusable (root : Datum) : Prop
  /-- A text has a reference that is not well formed. -/
  | reference {t : String} (ht : (Datum.text t).Within root) (hbroken : pieces? t = none)
  /-- A scalar is neither a text nor a number nor a truth value, and no bytes. -/
  | scalar {t : String} {isEmpty : Bool} (ht : (Datum.other t isEmpty).Within root) (hbytes : isBytes t = false)
  /-- A set. -/
  | keySet {keys : List Datum} (hkeys : (Datum.keySet keys).Within root)
  /-- A reference back. -/
  | again {up : Nat} (hup : (Datum.listAgain up).Within root ∨ (Datum.mapAgain up).Within root)
  /-- A key is neither a text nor a number, truth value, bytes, list or map. -/
  | key {entries : List (Datum × Datum)} {k v : Datum} (hmap : (Datum.map entries).Within root) (he : (k, v) ∈ entries)
    (hkey : isUsableKey k = false)

/-- What is unusable makes the data unusable in which it lies. -/
theorem Unusable.trans {x root : Datum} (h : Unusable x) (hx : x.Within root) : Unusable root := by
  cases h with
  | reference ht hbroken => exact .reference (ht.trans hx) hbroken
  | scalar ht hbytes => exact .scalar (ht.trans hx) hbytes
  | keySet hkeys => exact .keySet (hkeys.trans hx)
  | again hup => exact .again (hup.imp (·.trans hx) (·.trans hx))
  | key hmap he hkey => exact .key (hmap.trans hx) he hkey

theorem areUsable_iff {items : List Datum} : areUsable items = true ↔ ∀ d ∈ items, isUsable d = true := by
  induction items with
  | nil => simp [areUsable]
  | cons d items ih => rw [areUsable, Bool.and_eq_true, ih, List.forall_mem_cons]

theorem areUsableEntries_iff {entries : List (Datum × Datum)} :
    areUsableEntries entries = true ↔ ∀ e ∈ entries, isUsableKey e.1 = true ∧ isUsable e.2 = true := by
  induction entries with
  | nil => simp [areUsableEntries]
  | cons e entries ih =>
    obtain ⟨k, v⟩ := e
    rw [areUsableEntries, Bool.and_eq_true, Bool.and_eq_true, ih, List.forall_mem_cons]

/-- Whatever lies in usable data is usable. -/
theorem isUsable_of_within {x root : Datum} (hx : x.Within root) (h : isUsable root = true) : isUsable x = true := by
  induction hx with
  | self => exact h
  | item hd _ ih => exact ih (areUsable_iff.mp h _ hd)
  | value hv _ ih => exact ih (areUsableEntries_iff.mp h _ hv).2
  | key => cases h

/-- What makes a container unusable is a key of it, or lies in a smaller value. -/
theorem unusable_of_isUsable {d : Datum} (h : isUsable d = false) : Unusable d := by
  -- on the size of the data; if nothing within a container were unusable, it would be usable itself
  induction hsize : sizeOf d using Nat.strongRecOn generalizing d with
  | _ size ih =>
    subst hsize
    cases d with
    | text t => exact .reference .self (Option.isSome_eq_false_iff.mp h |> Option.isNone_iff_eq_none.mp)
    | other t isEmpty => exact .scalar .self h
    | keySet keys => exact .keySet .self
    | listAgain up => exact .again (.inl .self)
    | mapAgain up => exact .again (.inr .self)
    | list items =>
      by_contra hno
      refine Bool.eq_false_iff.mp h (areUsable_iff.mpr fun d hd => ?_)
      by_contra hd'
      have hlt := List.sizeOf_lt_of_mem hd
      refine hno ((ih _ ?_ (Bool.eq_false_iff.mpr hd') rfl).trans (.item hd .self))
      rw [Datum.list.sizeOf_spec]
      omega
    | map entries =>
      by_contra hno
      refine Bool.eq_false_iff.mp h (areUsableEntries_iff.mpr fun e he => ⟨?_, ?_⟩)
      · by_contra hkey
        exact hno (.key .self he (Bool.eq_false_iff.mpr hkey))
      · by_contra hv
        obtain ⟨k, v⟩ := e
        have hlt := List.sizeOf_lt_of_mem he
        have hunusable : isUsable v = false := Bool.eq_false_iff.mpr hv
        refine hno ((ih _ ?_ hunusable rfl).trans (.value he .self))
        rw [Datum.map.sizeOf_spec]
        rw [Prod.mk.sizeOf_spec] at hlt
        omega
    | _ => cases h

theorem Unusable.isUsable_eq_false {d : Datum} (h : Unusable d) : isUsable d = false := by
  by_contra hd
  have hwithin {x : Datum} (hx : x.Within d) : isUsable x = true :=
    isUsable_of_within hx (Bool.not_eq_false _ ▸ hd)
  cases h with
  | reference ht hbroken =>
    have := hwithin ht
    rw [isUsable, hbroken] at this
    cases this
  | scalar ht hbytes => exact Bool.eq_false_iff.mp hbytes (hwithin ht)
  | keySet hkeys => cases hwithin hkeys
  | again hup => rcases hup with hup | hup <;> cases hwithin hup
  | key hmap he hkey => exact Bool.eq_false_iff.mp hkey (areUsableEntries_iff.mp (hwithin hmap) _ he).1

/-- **Data is usable unless there is a reason.** -/
theorem isUsable_eq_false_iff {d : Datum} : isUsable d = false ↔ Unusable d :=
  ⟨unusable_of_isUsable, Unusable.isUsable_eq_false⟩

/-! ## What a text holds -/

/-- The map or list for which the value of a document stands. -/
def standing? : Datum → Option Datum
  | .null => some (.map [])
  | .map entries => some (Datum.ofEntries entries)
  | .list items => some (.list items)
  | _ => none

/-- **The map or list that a text holds.**  A text that is the only value of a document is read once more. -/
inductive Holds (text : List Char) : Datum → Prop
  /-- The document holds it. -/
  | own {v d : Datum} (hvalue : Datum.ofYaml schema text = .ok v) (hd : standing? v = some d) : Holds text d
  /-- The document is a text that holds it. -/
  | lone {t : String} {v d : Datum} (hvalue : Datum.ofYaml schema text = .ok (.text t))
    (hlone : Datum.ofYaml schema t.toList = .ok v) (hd : standing? v = some d) : Holds text d
  /-- The document is a text that is once more a text, which becomes a key. -/
  | word {t u : String} (hvalue : Datum.ofYaml schema text = .ok (.text t))
    (hlone : Datum.ofYaml schema t.toList = .ok (.text u)) : Holds text (.map [(.text u, .null)])

/-- Why a text is no document. -/
inductive NoDocument (text : List Char) : SettingsError → Prop
  /-- It breaks a rule. -/
  | malformed (hfault : Datum.ofYaml schema text = .error .malformed) : NoDocument text .malformed
  /-- It has another fault. -/
  | badValue {fault : Yaml.Fault} (hfault : Datum.ofYaml schema text = .error fault) (hother : fault ≠ .malformed)
    (harises : fault.Arises) : NoDocument text (.badValue fault)

/-- **Why a text holds nothing** that settings can use. -/
inductive NoData (text : List Char) : SettingsError → Prop
  /-- It is no document. -/
  | own {error : SettingsError} (h : NoDocument text error) : NoData text error
  /-- It is a single value that is no text. -/
  | scalar {v : Datum} (hvalue : Datum.ofYaml schema text = .ok v) (hstanding : standing? v = none)
    (htext : ∀ t, v ≠ .text t) : NoData text (.noContainer (scalarKind v))
  /-- It is a text that is no document. -/
  | lone {t : String} {error : SettingsError} (hvalue : Datum.ofYaml schema text = .ok (.text t))
    (h : NoDocument t.toList error) : NoData text error
  /-- It is a text that is a single value and no text. -/
  | loneScalar {t : String} {v : Datum} (hvalue : Datum.ofYaml schema text = .ok (.text t))
    (hlone : Datum.ofYaml schema t.toList = .ok v) (hstanding : standing? v = none) (htext : ∀ u, v ≠ .text u) :
    NoData text .unusable
  /-- It holds data that cannot be used. -/
  | unusable {d : Datum} (hd : Holds text d) (h : Unusable d) : NoData text .unusable

theorem yaml_eq_ok_iff {text : List Char} {d : Datum} : yaml text = .ok d ↔ Datum.ofYaml schema text = .ok d := by
  rw [yaml]
  split
  · rename_i hvalue
    rw [hvalue, Except.ok.injEq, Except.ok.injEq]
  · rename_i hvalue
    rw [hvalue]
    exact iff_of_false nofun nofun
  · rename_i hvalue
    rw [hvalue]
    exact iff_of_false nofun nofun

theorem yaml_eq_error_iff {text : List Char} {error : SettingsError} :
    yaml text = .error error ↔ NoDocument text error := by
  rw [yaml]
  constructor
  · split
    · exact nofun
    · rename_i hfault
      rintro ⟨⟩
      exact .malformed hfault
    · rename_i fault hother hfault
      rintro ⟨⟩
      exact .badValue hfault (fun heq => hother heq) (Yaml.explained_ofYaml schema _ _ hfault)
  · rintro (hfault | ⟨hfault, hother⟩)
    · rw [hfault]
    · rw [hfault]
      split
      · rename_i heq
        cases heq
      · rename_i heq
        exact absurd (Except.error.inj heq) hother
      · rename_i heq
        cases heq
        rfl

/-- A text that holds something is read as that, if it is usable. -/
theorem readText_of_holds {text : List Char} {d : Datum} (h : Holds text d) :
    readText text = if isUsable d then .ok d else .error .unusable := by
  cases h with
  | @own v _ hvalue hd =>
    rw [readText, yaml_eq_ok_iff.mpr hvalue]
    cases v with
    | null | map | list => cases hd; rfl
    | _ => cases hd
  | @lone t v _ hvalue hlone hd =>
    rw [readText, yaml_eq_ok_iff.mpr hvalue]
    dsimp only [bind_ok]
    rw [ofLoneText, yaml_eq_ok_iff.mpr hlone]
    cases v with
    | null | map | list => cases hd; rfl
    | _ => cases hd
  | word hvalue hlone =>
    rw [readText, yaml_eq_ok_iff.mpr hvalue]
    dsimp only [bind_ok]
    rw [ofLoneText, yaml_eq_ok_iff.mpr hlone]
    rfl

/-- A text that holds nothing usable is not read. -/
theorem readText_of_noData {text : List Char} {error : SettingsError} (h : NoData text error) :
    readText text = .error error := by
  cases h with
  | own h =>
    rw [readText, yaml_eq_error_iff.mpr h]
    rfl
  | @scalar v hvalue hstanding htext =>
    rw [readText, yaml_eq_ok_iff.mpr hvalue]
    cases v with
    | text t => exact absurd rfl (htext t)
    | null | map | list => cases hstanding
    | _ => rfl
  | lone hvalue h =>
    rw [readText, yaml_eq_ok_iff.mpr hvalue]
    dsimp only [bind_ok]
    rw [ofLoneText, yaml_eq_error_iff.mpr h]
    rfl
  | @loneScalar t v hvalue hlone hstanding htext =>
    rw [readText, yaml_eq_ok_iff.mpr hvalue]
    dsimp only [bind_ok]
    rw [ofLoneText, yaml_eq_ok_iff.mpr hlone]
    cases v with
    | text u => exact absurd rfl (htext u)
    | null | map | list => cases hstanding
    | _ => rfl
  | unusable hd h => rw [readText_of_holds hd, isUsable_eq_false_iff.mpr h, if_neg Bool.false_ne_true]

/-- Every text holds something, or there is a reason why not. -/
theorem holds_or_noData (text : List Char) : (∃ d, Holds text d) ∨ ∃ error, NoData text error := by
  cases hyaml : yaml text with
  | error error => exact .inr ⟨error, .own (yaml_eq_error_iff.mp hyaml)⟩
  | ok v =>
    have hvalue := yaml_eq_ok_iff.mp hyaml
    cases hd : standing? v with
    | some d => exact .inl ⟨d, .own hvalue hd⟩
    | none =>
      by_cases htext : ∀ t, v ≠ .text t
      · exact .inr ⟨_, .scalar hvalue hd htext⟩
      obtain ⟨t, rfl⟩ := not_forall_not.mp htext
      cases hlone : yaml t.toList with
      | error error => exact .inr ⟨error, .lone hvalue (yaml_eq_error_iff.mp hlone)⟩
      | ok w =>
        have hlone := yaml_eq_ok_iff.mp hlone
        cases hd : standing? w with
        | some d => exact .inl ⟨d, .lone hvalue hlone hd⟩
        | none =>
          by_cases htext : ∀ u, w ≠ .text u
          · exact .inr ⟨_, .loneScalar hvalue hlone hd htext⟩
          obtain ⟨u, rfl⟩ := not_forall_not.mp htext
          exact .inl ⟨_, .word hvalue hlone⟩

theorem readText_eq_ok_iff {text : List Char} {d : Datum} :
    readText text = .ok d ↔ Holds text d ∧ isUsable d = true := by
  constructor
  · intro h
    rcases holds_or_noData text with ⟨d', hd'⟩ | ⟨error, herror⟩
    · rw [readText_of_holds hd'] at h
      split at h
      · cases h
        exact ⟨hd', ‹_›⟩
      · cases h
    · rw [readText_of_noData herror] at h
      cases h
  · rintro ⟨hd, husable⟩
    rw [readText_of_holds hd, if_pos husable]

/-- **What the reader of a text does not read**: exactly what holds nothing that settings can use. -/
theorem readText_eq_error_iff {text : List Char} {error : SettingsError} :
    readText text = .error error ↔ NoData text error := by
  refine ⟨fun h => ?_, readText_of_noData⟩
  rcases holds_or_noData text with ⟨d, hd⟩ | ⟨error', herror⟩
  · rw [readText_of_holds hd] at h
    split at h
    · cases h
    · cases h
      exact .unusable hd (isUsable_eq_false_iff.mp (Bool.eq_false_iff.mpr ‹_›))
  · rw [readText_of_noData herror] at h
    cases h
    exact herror

/-! ## The command tree of settings -/

theorem sound_standing {v d : Datum} (hv : v.Sound) (h : standing? v = some d) : d.Sound := by
  cases hv with
  | null =>
    cases h
    exact .map .nil (List.forall_mem_nil _) (List.forall_mem_nil _)
  | map hdistinct hkeys hvalues =>
    cases h
    exact Datum.sound_ofEntries fun e he => ⟨hkeys e he, hvalues e he⟩
  | list hitems =>
    cases h
    exact .list hitems
  | _ => cases h

/-- What a text holds is sound. -/
theorem Holds.sound {text : List Char} {d : Datum} (h : Holds text d) : d.Sound := by
  cases h with
  | own hvalue hd => exact sound_standing (Yaml.sound_ofYaml hvalue) hd
  | lone hvalue hlone hd => exact sound_standing (Yaml.sound_ofYaml hlone) hd
  | word =>
    refine .map (List.pairwise_singleton _ _) ?_ ?_
    · exact List.forall_mem_singleton.mpr (.text _)
    · exact List.forall_mem_singleton.mpr .null

/-- An override leaves the data sound. -/
theorem sound_override {d d' : Datum} {word : String} (h : override d word = .ok d') (hd : d.Sound) : d'.Sound := by
  rw [override] at h
  split at h
  · cases h
  · obtain ⟨w, hput, h⟩ := bind_eq_ok_iff.mp h
    split at h
    · cases h
      exact KeyPath.sound_update (mapError_eq_ok_iff.mp hput) hd (.text _)
    · cases h

theorem sound_foldlM_override {words : List String} {d d' : Datum} (h : words.foldlM override d = .ok d') (hd : d.Sound) :
    d'.Sound := by
  induction words generalizing d with
  | nil =>
    cases h
    exact hd
  | cons word words ih =>
    obtain ⟨d₁, hd₁, h⟩ := bind_eq_ok_iff.mp h
    exact ih h (sound_override hd₁ hd)

/-- The command tree of settings from sound data is no empty text. -/
theorem metadata_ne_empty_of_ofDatum {d : Datum} {st : Settings} (hd : d.Sound) (h : ofDatum d = .ok st) :
    st.metadata ≠ "" := by
  cases d with
  | map entries =>
    have hfull : (Datum.field "metadata" entries).isEmpty = false := by
      rw [ofDatum] at h
      split_ifs at h with hempty
      exact Bool.eq_false_iff.mpr hempty
    obtain ⟨exclude, -, rfl⟩ := exists_exclude_of_ofDatum h
    rw [Datum.field] at hfull
    dsimp only [textField]
    cases hlookup : Datum.lookup "metadata" entries with
    | none =>
      rw [hlookup] at hfull
      cases hfull
    | some v =>
      rw [hlookup] at hfull
      exact (hd.lookup hlookup).display_ne_empty hfull
  | _ => cases h

/-- A file that can be read is a file. -/
theorem hasFile_of_read {f : Folder} {path : Path} {bytes : List UInt8} (hread : f.read path = .ok bytes) :
    f.hasFile path = true := by
  obtain ⟨⟨names, item⟩, hfind, hitem⟩ := bind_eq_ok_iff.mp hread
  rw [Folder.hasFile, hfind]
  cases item with
  | file => rfl
  | folder => cases hitem

theorem hasFile_of_readFile {s : Surroundings} {f : Folder} {path : Path} {d : Datum} (h : readFile s f path = .ok d) :
    f.hasFile path = true := by
  obtain ⟨text, htext, -⟩ := bind_eq_ok_iff.mp h
  cases hread : f.read path with
  | ok bytes => exact hasFile_of_read hread
  | error fault =>
    rw [fileText, hread] at htext
    cases fault <;> cases htext

/-- What a file holds is sound. -/
theorem sound_of_readFile {s : Surroundings} {f : Folder} {path : Path} {d : Datum} (h : readFile s f path = .ok d) :
    d.Sound := by
  obtain ⟨text, -, hdata⟩ := bind_eq_ok_iff.mp h
  exact (readText_eq_ok_iff.mp hdata).1.sound

/-- **Loaded settings name a command tree**: whatever the file holds, and whatever the overrides are. -/
theorem metadata_ne_empty {s : Surroundings} {f : Folder} {path : Path} (hfile : f.hasFile path = true)
    {words : List String} {st : Settings} (h : load s f path words = .ok st) : st.metadata ≠ "" := by
  rw [load_eq hfile] at h
  obtain ⟨d, hread, h⟩ := bind_eq_ok_iff.mp h
  obtain ⟨d', hoverridden, h⟩ := bind_eq_ok_iff.mp h
  have hsound : d'.Sound := sound_foldlM_override hoverridden (sound_of_readFile hread)
  rw [ofSource] at h
  split at h
  · cases h
  · rename_i final hresolved
    exact metadata_ne_empty_of_ofDatum (sound_resolved hsound hresolved) (mapError_eq_ok_iff.mp h)

end CommandWrap.Settings
