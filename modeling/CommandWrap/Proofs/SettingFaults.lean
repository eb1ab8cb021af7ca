import CommandWrap.Proofs.SettingSources

/-!
# Faults of settings

What keeps a file and overrides from being settings is reported by programs where it is the form of the settings, or an
override without an equals sign.  Other errors leave the loader as well (`Settings.Unreported`): the bytes are no text;
the text holds nothing that settings can use; an override leads nowhere (`KeyPath.Blocked`), or its value has a reference
that is not well formed; or a reference of the data leads nowhere, which cannot happen to data without references
(`Settings.resolved_plain`).  These are all of them, and each of them ends the program without a message
(`Program.CommandLine.settings_fault_iff`).
-/
namespace CommandWrap

/-! ## Texts that cannot be put where keys lead -/

namespace KeyPath

/-- **Why a text cannot be put where keys lead.** -/
inductive Blocked : List String → Datum → Fault → Prop
  /-- There are no keys. -/
  | noKeys {d : Datum} : Blocked [] d .noPlace
  /-- Keys do not lead into a scalar. -/
  | scalar {key : String} {rest : List String} {d : Datum} (hd : isContainer d = false) : Blocked (key :: rest) d .noPlace
  /-- Keys lead through a value that is still to be given. -/
  | missing {key : String} {rest : List String} {entries : List (Datum × Datum)} (hrest : rest ≠ [])
    (hmissing : isMissing (Datum.field key entries) = true) : Blocked (key :: rest) (.map entries) .noPlace
  /-- The text cannot be put below an entry of a map. -/
  | inEntry {key : String} {rest : List String} {entries : List (Datum × Datum)} {fault : Fault} (hrest : rest ≠ [])
    (hgiven : isMissing (Datum.field key entries) = false) (h : Blocked rest (container (Datum.field key entries)) fault) :
    Blocked (key :: rest) (.map entries) fault
  /-- The last key leads to an item of a list and is no integer. -/
  | noInteger {key : String} {items : List Datum} {fault : Decimal.IntegerFault}
    (hkey : Decimal.integer 10 key = .error fault) : Blocked [key] (.list items) (.noInteger fault)
  /-- A key leads through an item of a list and is no integer. -/
  | noIndex {key : String} {rest : List String} {items : List Datum} {fault : Decimal.IntegerFault} (hrest : rest ≠ [])
    (hkey : Decimal.integer 10 key = .error fault) : Blocked (key :: rest) (.list items) (.noIndex key)
  /-- A list has no such item. -/
  | noItem {key : String} {rest : List String} {items : List Datum} {i : Int} (hkey : Decimal.integer 10 key = .ok i)
    (hi : index? items.length i = none) : Blocked (key :: rest) (.list items) .noPlace
  /-- Keys lead through an item that is still to be given. -/
  | missingItem {key : String} {rest : List String} {items : List Datum} {i : Int} {n : Nat} (hrest : rest ≠ [])
    (hkey : Decimal.integer 10 key = .ok i) (hi : index? items.length i = some n)
    (hmissing : isMissing (if i < 0 then .null else items.getD n .null) = true) :
    Blocked (key :: rest) (.list items) .noPlace
  /-- The text cannot be put below an item of a list. -/
  | inItem {key : String} {rest : List String} {items : List Datum} {i : Int} {n : Nat} {fault : Fault}
    (hrest : rest ≠ []) (hkey : Decimal.integer 10 key = .ok i) (hi : index? items.length i = some n)
    (hgiven : isMissing (if i < 0 then .null else items.getD n .null) = false)
    (h : Blocked rest (container (if i < 0 then .null else items.getD n .null)) fault) :
    Blocked (key :: rest) (.list items) fault

variable {value : String}

theorem blocked_of_putLast {key : String} {d : Datum} {fault : Fault}
    (h : putLast false key (.text value) d = .error fault) : Blocked [key] d fault := by
  cases d with
  | map entries => cases h
  | list items =>
    rw [putLast] at h
    split at h
    · rename_i fault hkey
      cases h
      exact .noInteger hkey
    · rename_i i hkey
      split at h
      · rename_i hi
        cases h
        exact .noItem hkey hi
      · cases h
  | _ =>
    cases h
    exact .scalar rfl

theorem blocked_of_update {keys : List String} {d : Datum} {fault : Fault}
    (h : update false (.text value) keys d = .error fault) : Blocked keys d fault := by
  -- the last key puts the text, any other goes on in the container to which it leads
  induction keys generalizing d with
  | nil =>
    cases h
    exact .noKeys
  | cons key rest ih =>
    by_cases hrest : rest = []
    · subst hrest
      exact blocked_of_putLast h
    cases d with
    | map entries =>
      rw [update_map hrest] at h
      split at h
      case isTrue hmissing =>
        cases h
        exact .missing hrest (hmissing.resolve_right nofun)
      case isFalse hgiven =>
        rcases bind_eq_error_iff.mp h with h | ⟨w, -, h⟩
        · exact .inEntry hrest (Bool.eq_false_iff.mpr fun hmissing => hgiven (.inl hmissing)) (ih h)
        · -- an open map takes any key
          cases h
    | list items =>
      rw [update_list hrest] at h
      split at h
      · cases h
        exact .noIndex hrest ‹_›
      rename_i i hkey
      split at h
      · cases h
        exact .noItem hkey ‹_›
      rename_i n hi
      by_cases hmissing : isMissing (if i < 0 then .null else items.getD n .null) = true
      · rw [if_pos hmissing] at h
        cases h
        exact .missingItem hrest hkey hi hmissing
      · rw [if_neg hmissing] at h
        rcases bind_eq_error_iff.mp h with h | ⟨w, -, h⟩
        · exact .inItem hrest hkey hi (Bool.eq_false_iff.mpr hmissing) (ih h)
        · cases h
    | _ =>
      rw [update] at h
      · cases h
        exact .scalar rfl
      all_goals simp [hrest]

/-- Nothing is put where keys are blocked. -/
theorem Blocked.update {keys : List String} {d : Datum} {fault : Fault} (h : Blocked keys d fault) :
    update false (.text value) keys d = .error fault := by
  -- the keys before the one that is blocked lead into containers, one level for each
  induction h with
  | noKeys => rfl
  | @scalar key rest d hd =>
    cases d with
    | map | list => cases hd
    | _ => cases rest <;> rfl
  | missing hrest hmissing => rw [update_map hrest, if_pos (Or.inl hmissing)]
  | inEntry hrest hgiven _ ih =>
    rw [update_map hrest, if_neg (by simp [hgiven]), ih]
    rfl
  | noInteger hkey => rw [KeyPath.update, putLast, hkey]
  | noIndex hrest hkey => rw [update_list hrest, hkey]
  | @noItem key rest items i hkey hi =>
    by_cases hrest : rest = []
    · subst hrest
      rw [KeyPath.update, putLast, hkey]
      dsimp only
      rw [hi]
    · rw [update_list hrest, hkey]
      dsimp only
      rw [hi]
  | missingItem hrest hkey hi hmissing =>
    rw [update_list hrest, hkey]
    dsimp only
    rw [hi]
    exact if_pos hmissing
  | inItem hrest hkey hi hgiven _ ih =>
    rw [update_list hrest, hkey]
    dsimp only
    rw [hi]
    dsimp only
    rw [if_neg (Bool.eq_false_iff.mp hgiven), ih]
    rfl

/-- **A text is put where keys lead, unless they are blocked.** -/
theorem update_text_eq_error_iff {keys : List String} {d : Datum} {fault : Fault} :
    KeyPath.update false (.text value) keys d = .error fault ↔ Blocked keys d fault :=
  ⟨blocked_of_update, Blocked.update⟩

end KeyPath

namespace Settings

open Text (Utf8.decodePiecewise Utf8.decode Utf8.encode Utf8.normalizeNewlines)

variable {s : Surroundings}

/-! ## Data without references -/

namespace Resolved

theorem size_pos (d : Datum) : 0 < size d := by
  cases d <;> simp [size]

theorem size_lt_of_child {d child : Datum} (h : child ∈ children d) : size child < size d := by
  cases d with
  | list items =>
    rw [size, Nat.lt_succ_iff]
    induction items with
    | nil => cases h
    | cons d items ih =>
      rw [size.sizes]
      rcases List.mem_cons.mp h with rfl | h
      · omega
      · have := ih h
        omega
  | map entries =>
    rw [size, Nat.lt_succ_iff]
    induction entries with
    | nil => cases h
    | cons e entries ih =>
      rw [size.entrySizes]
      rcases List.mem_cons.mp h with rfl | h
      · exact Nat.le_add_right ..
      · have := ih h
        omega
  | _ => cases h

end Resolved

open Resolved

/-- Plain data is resolved with as much fuel as it has size. -/
theorem resolve_eq_some_of_plain {root : Datum} {fuel : Nat} {way : List Nat} {d : Datum} (hplain : IsPlain d)
    (hd : at? root way = some d) (hfuel : size d < fuel) : resolve s root fuel way d = some d := by
  -- what is followed ends at once, so the fuel is needed for the levels of the data only
  induction fuel generalizing way d with
  | zero => cases hfuel
  | succ fuel ih =>
    have hfollow : follow s root fuel way d = some (.node way) := by
      obtain ⟨fuel, rfl⟩ := Nat.exists_eq_add_one.mpr (Nat.lt_of_lt_of_le (size_pos d) (Nat.lt_succ_iff.mp hfuel))
      cases d with
      | text t => rw [follow, isPlain_text.mp hplain, if_neg Bool.false_ne_true]
      | _ =>
        rw [follow]
        simp
    have hchild {n : Nat} {child : Datum} (hchild : (children d)[n]? = some child) :
        resolve s root fuel (way ++ [n]) child = some child := by
      refine ih (hplain.at ((at?_singleton d n).trans hchild)) ((at?_concat hd n).trans hchild) ?_
      have := size_lt_of_child (List.mem_of_getElem? hchild)
      omega
    rw [resolve, hfollow]
    simp only [hd, Option.bind_eq_bind, Option.bind_some]
    cases d with
    | list items =>
      dsimp only
      rw [mapM_congr_of_mem (g := fun e => pure e.1), List.mapM_pure, List.zipIdx_map_fst]
      · rfl
      · rintro ⟨child, n⟩ he
        exact hchild (List.mem_zipIdx_iff_getElem?.mp he)
    | map entries =>
      dsimp only
      rw [mapM_congr_of_mem (g := fun e => pure e.1), List.mapM_pure, List.zipIdx_map_fst]
      · rfl
      · rintro ⟨⟨k, child⟩, n⟩ he
        dsimp only
        rw [hchild (by simp [children, List.mem_zipIdx_iff_getElem?.mp he])]
        rfl
    | _ => rfl

/-- **Data without references** stands for itself. -/
theorem resolved_plain {d : Datum} (hplain : IsPlain d) : resolved s d = some d :=
  resolve_eq_some_of_plain hplain rfl (by omega)

/-! ## Errors that no program reports -/

/-- **Why an override does not apply** to data, with an error that no program reports. -/
inductive BadOverride (d : Datum) (word : String) : SettingsError → Prop
  /-- Its text cannot be put where its key leads. -/
  | blocked {key value : String} {fault : KeyPath.Fault} (hword : splitOverride? word = some (key, value))
    (h : KeyPath.Blocked (KeyPath.ofText key) d fault) : BadOverride d word (.ofPlace fault)
  /-- Its text has a reference that is not well formed. -/
  | broken {key value : String} {d' : Datum} (hword : splitOverride? word = some (key, value))
    (hput : KeyPath.update false (.text value) (KeyPath.ofText key) d = .ok d') (hvalue : pieces? value = none) :
    BadOverride d word .unusable

/-- **The errors of a file with overrides that no program reports.** -/
inductive Unreported (s : Surroundings) (bytes : List UInt8) (words : List String) : SettingsError → Prop
  /-- The bytes are those of no text. -/
  | noText {fault : Text.Utf8.Fault} (hdecode : Utf8.decodePiecewise bytes = .error fault)
    (hno : ∀ text, bytes ≠ Utf8.encode text) : Unreported s bytes words (.noText fault)
  /-- The text holds nothing that settings can use. -/
  | noData {text : List Char} {error : SettingsError} (htext : bytes = Utf8.encode text)
    (h : NoData (Utf8.normalizeNewlines text) error) : Unreported s bytes words error
  /-- An override does not apply to what those before it leave. -/
  | override {text : List Char} {d d' : Datum} {before after : List String} {word : String} {error : SettingsError}
    (htext : bytes = Utf8.encode text) (hdata : readText (Utf8.normalizeNewlines text) = .ok d)
    (hwords : words = before ++ word :: after) (hbefore : before.foldlM override d = .ok d')
    (h : BadOverride d' word error) : Unreported s bytes words error
  /-- A reference leads nowhere once the overrides are applied. -/
  | unresolved {text : List Char} {d d' : Datum} {way : List Nat} {t : String} (htext : bytes = Utf8.encode text)
    (hdata : readText (Utf8.normalizeNewlines text) = .ok d) (hwords : words.foldlM override d = .ok d')
    (ht : at? d' way = some (.text t)) (hrefers : hasReference t.toList = true) (hresolved : resolved s d' = none) :
    Unreported s bytes words .unusable

theorem isReported_ofPlace (fault : KeyPath.Fault) : (SettingsError.ofPlace fault).isReported = false := by
  cases fault <;> rfl

theorem override_unreported_iff {d : Datum} {word : String} {error : SettingsError} :
    override d word = .error error ∧ error.isReported = false ↔ BadOverride d word error := by
  constructor
  · rintro ⟨h, hunreported⟩
    rw [Settings.override] at h
    split at h
    · cases h
      cases hunreported
    · rename_i key value hword
      rcases bind_eq_error_iff.mp h with hput | ⟨d', hput, h⟩
      · obtain ⟨fault, hfault, rfl⟩ := mapError_eq_error_iff.mp hput
        exact .blocked hword (KeyPath.update_text_eq_error_iff.mp hfault)
      · split at h
        · cases h
        · cases h
          rename_i hunusable
          exact .broken hword (mapError_eq_ok_iff.mp hput) (Option.not_isSome_iff_eq_none.mp hunusable)
  · intro h
    cases h with
    | blocked hword h =>
      rw [Settings.override, hword]
      dsimp only
      rw [h.update]
      exact ⟨rfl, isReported_ofPlace _⟩
    | broken hword hput hvalue =>
      rw [Settings.override, hword]
      dsimp only
      rw [hput, isUsable, hvalue]
      exact ⟨rfl, rfl⟩

theorem NoData.isReported {text : List Char} {error : SettingsError} (h : NoData text error) :
    error.isReported = false := by
  have hdocument {text : List Char} {error : SettingsError} (h : NoDocument text error) : error.isReported = false := by
    cases h <;> rfl
  cases h with
  | own h => exact hdocument h
  | lone _ h => exact hdocument h
  | _ => rfl

theorem decodePiecewise_eq_ok_iff {bytes : List UInt8} {text : List Char} :
    Utf8.decodePiecewise bytes = .ok text ↔ bytes = Utf8.encode text := by
  rw [← Text.Utf8.decode_eq_ok_iff, Text.Utf8.decodePiecewise]
  split
  · rename_i hdecode
    rw [hdecode]
    exact iff_of_false nofun nofun
  · rfl

variable {f : Folder} {path : Path} {bytes : List UInt8} {words : List String} {error : SettingsError}

theorem load_of_read (hread : f.read path = .ok bytes) (words : List String) :
    load s f path words = ((Utf8.decodePiecewise bytes).mapError .noText >>= fun text =>
      readText (Utf8.normalizeNewlines text) >>= fun d => words.foldlM override d >>= ofSource s path.text) := by
  have htext : fileText s f path = (Utf8.decodePiecewise bytes).mapError .noText >>= fun text =>
      pure (Utf8.normalizeNewlines text) := by
    rw [fileText, hread]
    rfl
  rw [load_eq (hasFile_of_read hread), readFile, htext]
  cases Utf8.decodePiecewise bytes <;> rfl

/-- What leaves the loader unreported has its cause in the bytes, the overrides or the references. -/
theorem unreported_of_load (hread : f.read path = .ok bytes) (h : load s f path words = .error error)
    (hunreported : error.isReported = false) : Unreported s bytes words error := by
  rw [load_of_read hread] at h
  rcases bind_eq_error_iff.mp h with hbytes | ⟨text, hdecode, h⟩
  · obtain ⟨fault, hdecode, rfl⟩ := mapError_eq_error_iff.mp hbytes
    refine .noText hdecode fun text htext => ?_
    rw [decodePiecewise_eq_ok_iff.mpr htext] at hdecode
    cases hdecode
  have htext : bytes = Utf8.encode text := decodePiecewise_eq_ok_iff.mp (mapError_eq_ok_iff.mp hdecode)
  rcases bind_eq_error_iff.mp h with hdata | ⟨d, hdata, h⟩
  · exact .noData htext (readText_eq_error_iff.mp hdata)
  rcases bind_eq_error_iff.mp h with hwords | ⟨d', hwords, h⟩
  · obtain ⟨before, word, after, d', heq, hbefore, hword⟩ := foldlM_eq_error_iff.mp hwords
    exact .override htext hdata heq hbefore (override_unreported_iff.mp ⟨hword, hunreported⟩)
  rw [ofSource] at h
  split at h
  · rename_i hresolved
    cases h
    -- the data has a reference, for without one it would stand for itself
    have hrefers : ¬ IsPlain d' := by
      intro hplain
      rw [resolved_plain hplain] at hresolved
      cases hresolved
    obtain ⟨way, hrefers⟩ := not_forall.mp hrefers
    obtain ⟨t, hrefers⟩ := not_forall.mp hrefers
    obtain ⟨ht, hrefers⟩ := Classical.not_imp.mp hrefers
    exact .unresolved htext hdata hwords ht (Bool.not_eq_false _ ▸ hrefers) hresolved
  · -- the form of the settings is reported
    obtain ⟨fault, -, rfl⟩ := mapError_eq_error_iff.mp h
    cases hunreported

/-- With such a cause, nothing else leaves the loader. -/
theorem Unreported.load (h : Unreported s bytes words error) (hread : f.read path = .ok bytes) :
    load s f path words = .error error ∧ error.isReported = false := by
  rw [load_of_read hread]
  cases h with
  | noText hdecode =>
    rw [hdecode]
    exact ⟨rfl, rfl⟩
  | noData htext h =>
    rw [decodePiecewise_eq_ok_iff.mpr htext, Except.mapError, bind_ok, readText_eq_error_iff.mpr h]
    exact ⟨rfl, h.isReported⟩
  | @override text d d' before after word error htext hdata hwords hbefore h =>
    obtain ⟨hword, hunreported⟩ := override_unreported_iff.mpr h
    have hfold : words.foldlM Settings.override d = .error error :=
      foldlM_eq_error_iff.mpr ⟨before, word, after, d', hwords, hbefore, hword⟩
    rw [decodePiecewise_eq_ok_iff.mpr htext, Except.mapError, bind_ok, hdata, bind_ok, hfold]
    exact ⟨rfl, hunreported⟩
  | unresolved htext hdata hwords ht hrefers hresolved =>
    rw [decodePiecewise_eq_ok_iff.mpr htext, Except.mapError, bind_ok, hdata, bind_ok, hwords, bind_ok, ofSource,
      hresolved]
    exact ⟨rfl, rfl⟩

end Settings

namespace Program.CommandLine

open CommandWrap.Group (Given)
open Settings (Unreported load)

variable {s : Surroundings} {f : Folder} {path : Path} {bytes : List UInt8}

/-- What is requested fails for its tree or its file, never for settings. -/
theorem fault_perform_ne (c : Context) (notes : List Log.Note) (r : Request) (e : SettingsError) :
    (c.perform notes r).fault? ≠ some (.settings e) := by
  rw [Context.perform]
  split
  · rw [Context.treeFailed]
    split <;> rintro ⟨⟩
  · dsimp only
    split
    · rintro ⟨⟩
    · split
      · rintro ⟨⟩
      · split <;> rintro ⟨⟩

/-- A program that generates a module from a file of settings ends with the fault of these. -/
theorem generate_fault_iff (c : Context) {given : List Given} {ref : String}
    (href : Group.lastWord? given "config_ref" = some ref) (hfile : c.folder.hasFile (Path.ofText ref) = true)
    (e : SettingsError) : (c.generate given).fault? = some (.settings e) ↔
      load c.surroundings c.folder (Path.ofText ref) (Group.allWords given "override") = .error e ∧
        e.isReported = false := by
  rw [generate_of_file c href hfile]
  cases load c.surroundings c.folder (Path.ofText ref) (Group.allWords given "override") with
  | ok st =>
    refine iff_of_false (fault_perform_ne c _ _ e) ?_
    rintro ⟨⟨⟩, -⟩
  | error e' =>
    dsimp only
    rw [Context.settingsFailed, Except.error.injEq]
    split
    case isTrue hreported =>
      constructor
      · rintro ⟨⟩
      · rintro ⟨rfl, hunreported⟩
        rw [hreported] at hunreported
        cases hunreported
    case isFalse hunreported =>
      rw [Context.broken, Option.some.injEq, Fault.settings.injEq]
      refine ⟨?_, And.left⟩
      rintro rfl
      exact ⟨rfl, Bool.eq_false_iff.mpr hunreported⟩

/-- Data has no decidable equality, so a fault is found by its form. -/
theorem eq_malformed_of_check {x : Except Yaml.Fault Datum}
    (h : (match x with | .error .malformed => true | _ => false) = true) : x = .error .malformed := by
  split at h
  · rfl
  · cases h

end Program.CommandLine

end CommandWrap
