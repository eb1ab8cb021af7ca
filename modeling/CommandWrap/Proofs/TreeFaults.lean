import CommandWrap.Program.Output
import CommandWrap.Proofs.Decoding
import CommandWrap.Proofs.Faults
import CommandWrap.Proofs.TreeData

/-!
# Bad files of command trees

Programs report that a file of a command tree is missing, is no YAML or describes no tree.  Other errors leave the
reader as well.
-/
namespace CommandWrap

/-! ## Data that describes no tree -/

/-- **A datum within another**: the datum itself, or one within an item of the list, a value of the map or a key of
the set. -/
inductive Datum.Within (x : Datum) : Datum → Prop
  | self : Within x x
  | item {d : Datum} {items : List Datum} (hd : d ∈ items) (h : Within x d) : Within x (.list items)
  | value {k v : Datum} {entries : List (Datum × Datum)} (hv : (k, v) ∈ entries) (h : Within x v) :
    Within x (.map entries)
  | key {k : Datum} {keys : List Datum} (hk : k ∈ keys) (h : Within x k) : Within x (.keySet keys)

theorem Datum.Within.trans {x y z : Datum} (h : x.Within y) (h' : y.Within z) : x.Within z := by
  induction h' with
  | self => exact h
  | item hd _ ih => exact .item hd ih
  | value hv _ ih => exact .value hv ih
  | key hk _ ih => exact .key hk ih

/-- **Where the errors that no program reports come from**: an integer of too many digits, or a reference back. -/
def TreeError.ArisesIn (root : Datum) : TreeError → Prop
  | .integerTooLong => ∃ i, (Datum.int i).Within root ∧ Datum.isShortInteger i = false
  | .endless => ∃ up, (Datum.listAgain up).Within root ∨ (Datum.mapAgain up).Within root
  | _ => True

namespace TreeReader

open Datum

variable {root : Datum}

theorem mem_of_lookup {key : String} {entries : List (Datum × Datum)} {v : Datum} (h : lookup key entries = some v) :
    ∃ k, (k, v) ∈ entries := by
  induction entries with
  | nil => cases h
  | cons e entries ih =>
    obtain ⟨k, w⟩ := e
    rw [lookup] at h
    split at h
    · rename_i u hu
      obtain ⟨l, hl⟩ := ih (h ▸ hu)
      exact ⟨l, List.mem_cons_of_mem _ hl⟩
    · split at h
      · exact ⟨k, Option.some.inj h ▸ List.mem_cons_self ..⟩
      · cases h

/-- What a key of a map leads to lies within the map, if it is there. -/
theorem within_field (key : String) {entries : List (Datum × Datum)} (h : (Datum.map entries).Within root) :
    field key entries = .null ∨ (field key entries).Within root := by
  rw [field]
  cases hlookup : lookup key entries with
  | none => exact .inl rfl
  | some v =>
    obtain ⟨k, hk⟩ := mem_of_lookup hlookup
    exact .inr (.trans (.value hk .self) h)

theorem faultsIn_textOf (place key : String) {d : Datum} (h : d = .null ∨ d.Within root) :
    FaultsIn (TreeError.ArisesIn root) (textOf place key d) := by
  rcases h with rfl | h
  · exact faultsIn_ok _
  cases d with
  | int i =>
    simp only [textOf, faultsIn_ite, faultsIn_ok, faultsIn_error, implies_true, true_and]
    exact fun hlong => ⟨i, h, Bool.eq_false_iff.mpr hlong⟩
  | keySet keys =>
    simp only [textOf, faultsIn_ite, faultsIn_ok, faultsIn_error, implies_true, true_and]
    intro hlong
    obtain ⟨k, hk, hlong⟩ := List.all_eq_false.mp (Bool.eq_false_iff.mpr hlong)
    cases k with
    | int i => exact ⟨i, .trans (.key hk .self) h, Bool.eq_false_iff.mpr hlong⟩
    | _ => exact absurd rfl hlong
  | _ => simp [textOf, TreeError.ArisesIn]

/-- What a reference back leads to lies within the same data. -/
theorem within_meant {around : List Datum} {d : Datum} (haround : ∀ a ∈ around, a.Within root)
    (hd : d = .null ∨ d.Within root) :
    ((d.meant around).1 = .null ∨ (d.meant around).1.Within root) ∧ ∀ a ∈ (d.meant around).2, a.Within root := by
  have hup (up : Nat) : (around.getD up .null = .null ∨ (around.getD up .null).Within root) ∧
      ∀ a ∈ around.drop (up + 1), a.Within root := by
    refine ⟨?_, fun a ha => haround a (List.mem_of_mem_drop ha)⟩
    rw [List.getD_eq_getElem?_getD]
    cases h : around[up]? with
    | none => exact .inl rfl
    | some a => exact .inr (haround a (List.mem_of_getElem? h))
  cases d with
  | listAgain up => exact hup up
  | mapAgain up => exact hup up
  | _ => exact ⟨hd, haround⟩

theorem faultsIn_flagOf (place : String) {around : List Datum} {d : Datum} (haround : ∀ a ∈ around, a.Within root)
    (hd : d.Within root) : FaultsIn (TreeError.ArisesIn root) (flagOf place around d) := by
  obtain ⟨hmeant, -⟩ := within_meant haround (.inr hd)
  rw [flagOf]
  split
  · rename_i entries hentries
    rw [hentries] at hmeant
    have hmap := hmeant.resolve_left (fun h => by cases h)
    have htext (key : String) := faultsIn_textOf place key (within_field key hmap)
    simp [htext, TreeError.ArisesIn]
  · simp [TreeError.ArisesIn]

theorem within_itemsOf {around items outer : List Datum} {d : Datum} (haround : ∀ a ∈ around, a.Within root)
    (hd : d = .null ∨ d.Within root) (h : itemsOf? around d = some (items, outer)) :
    (∀ e ∈ items, e.Within root) ∧ ∀ a ∈ outer, a.Within root := by
  obtain ⟨hmeant, houter⟩ := within_meant haround hd
  rw [itemsOf?] at h
  split at h
  · rename_i heq
    rw [heq] at hmeant houter
    obtain ⟨rfl, rfl⟩ := Prod.mk.inj (Option.some.inj h)
    have hlist := hmeant.resolve_left (fun h => by cases h)
    exact ⟨fun e he => .trans (.item he .self) hlist, List.forall_mem_cons.mpr ⟨hlist, houter⟩⟩
  · split at h
    · obtain ⟨rfl, rfl⟩ := Prod.mk.inj (Option.some.inj h)
      exact ⟨List.forall_mem_nil _, List.forall_mem_nil _⟩
    · cases h

theorem endless_of_isAgain {d : Datum} (hagain : isAgain d = true) (h : d = .null ∨ d.Within root) :
    TreeError.endless.ArisesIn root := by
  rcases h with rfl | h
  · cases hagain
  cases d with
  | listAgain up => exact ⟨up, .inl h⟩
  | mapAgain up => exact ⟨up, .inr h⟩
  | _ => cases hagain

/-- **Whatever data is read as a tree**, what no program reports of it has its cause within the data. -/
theorem faultsIn_treeOf (place : String) {around : List Datum} {d : Datum} (haround : ∀ a ∈ around, a.Within root)
    (hd : d.Within root) : FaultsIn (TreeError.ArisesIn root) (treeOf place around d) := by
  -- on the size of the data, while the containers around it stay within the data that was read
  induction hsize : sizeOf d using Nat.strongRecOn generalizing place around d with
  | _ size ih =>
    cases d with
    | map entries =>
      have hinner : ∀ a ∈ Datum.map entries :: around, a.Within root := List.forall_mem_cons.mpr ⟨hd, haround⟩
      have htext (place key : String) := faultsIn_textOf place key (within_field key hd)
      have hat (place name : String) :
          FaultsIn (TreeError.ArisesIn root) (treeAt place name (.map entries :: around) entries) := by
        rw [treeAt]
        split
        · rename_i flags aroundFlags commands aroundCommands hitems hcommands
          obtain ⟨hflags, haroundFlags⟩ := within_itemsOf hinner (within_field _ hd) hitems
          obtain ⟨hcommand, haroundCommands⟩ := within_itemsOf hinner (within_field _ hd) hcommands
          simp only [faultsIn_bind, htext, true_and]
          intro usage _ short _
          refine ⟨faultsIn_mapM fun f hf => faultsIn_flagOf place haroundFlags (hflags f hf), fun infos _ => ?_⟩
          split
          · rename_i hagain
            rw [faultsIn_error]
            exact endless_of_isAgain hagain (within_field _ hd)
          · rename_i hagain
            have hlt {c : Datum} (hc : c ∈ commands) : sizeOf c < size :=
              hsize ▸ sizeOf_command_lt (Bool.eq_false_iff.mpr hagain) hcommands hc
            simp only [faultsIn_bind, faultsIn_pure, implies_true, and_true]
            exact faultsIn_mapM fun c hc => ih _ (hlt hc) place haroundCommands (hcommand c hc) rfl
        · simp [TreeError.ArisesIn]
      simp [treeOf_map, htext, hat, TreeError.ArisesIn]
    | mapAgain up =>
      rw [treeOf, faultsIn_error]
      exact ⟨up, .inr hd⟩
    | _ => simp [treeOf, TreeError.ArisesIn]

end TreeReader

/-! ## Files -/

namespace TreeFile

open Text (Utf8.decode Utf8.encode Utf8.normalizeNewlines)

/-- **The errors of a file that no program reports.** -/
inductive Unreported (bytes : List UInt8) : TreeFileError → Prop
  /-- The bytes are those of no text. -/
  | noText {fault : Text.Utf8.Fault} (hdecode : Utf8.decode bytes = .error fault)
    (hno : ∀ text, bytes ≠ Utf8.encode text) : Unreported bytes (.noText fault)
  /-- The text has a fault that is no breach of a rule. -/
  | badValue {text : List Char} {fault : Yaml.Fault} (htext : bytes = Utf8.encode text)
    (hdata : Datum.ofYaml schema (Utf8.normalizeNewlines text) = .error fault) (hfault : fault ≠ .malformed)
    (harises : fault.Arises) : Unreported bytes (.badValue fault)
  /-- The data of the text has an integer of too many digits or a reference back where a text or a command is
  wanted. -/
  | noTree {text : List Char} {entries : List (Datum × Datum)} {error : TreeError} (htext : bytes = Utf8.encode text)
    (hdata : Datum.ofYaml schema (Utf8.normalizeNewlines text) = .ok (.map entries))
    (htree : CommandTree.ofDatum "" (.map entries) = .error error) (herror : error = .integerTooLong ∨ error = .endless)
    (harises : error.ArisesIn (.map entries)) : Unreported bytes (.noTree error)

theorem load_of_read {f : Folder} {path : Path} {bytes : List UInt8} (hread : f.read path = .ok bytes) :
    load f path = (Utf8.decode bytes).mapError .noText >>= fun text =>
      parse path.text (Utf8.normalizeNewlines text) := by
  have hhas : f.has path = true := by
    rw [Folder.read] at hread
    rw [Folder.has]
    cases hfind : f.find path with
    | error fault =>
      rw [hfind] at hread
      cases hread
    | ok item => rfl
  rw [load, hhas, hread]
  rfl

/-- A text that is read without a report has a fault that is no breach of a rule, or its data makes no tree. -/
theorem unreported_of_parse {path : String} {text : List Char} {error : TreeFileError}
    (h : parse path (Utf8.normalizeNewlines text) = .error error) (hunreported : Program.isReported error = false) :
    Unreported (Utf8.encode text) error := by
  rw [parse] at h
  split at h
  · cases h
    cases hunreported
  · rename_i fault hfault hdata
    cases h
    exact .badValue rfl hdata (fun heq => hfault heq) (Yaml.explained_ofYaml schema _ _ hdata)
  · rename_i entries hdata
    cases htree : CommandTree.ofDatum "" (.map entries) with
    | ok t =>
      rw [htree] at h
      cases h
    | error e =>
      rw [htree] at h
      cases h
      refine .noTree rfl hdata htree ?_ (TreeReader.faultsIn_treeOf "" (List.forall_mem_nil _) .self e htree)
      cases e with
      | integerTooLong => exact .inl rfl
      | endless => exact .inr rfl
      | _ => cases hunreported
  · cases h
    cases hunreported

/-- Such a text gives the error. -/
theorem Unreported.load {path : String} {bytes : List UInt8} {error : TreeFileError} (h : Unreported bytes error) :
    ((Utf8.decode bytes).mapError TreeFileError.noText >>= fun text => parse path (Utf8.normalizeNewlines text)) =
      .error error ∧ Program.isReported error = false := by
  have hdecode (text : List Char) : Utf8.decode (Utf8.encode text) = .ok text :=
    (Text.Utf8.decode_eq_ok_iff _ text).mpr rfl
  cases h with
  | noText hfault =>
    rw [hfault]
    exact ⟨rfl, rfl⟩
  | badValue htext hdata hfault =>
    subst htext
    rw [hdecode, Except.mapError, bind_ok, parse, hdata]
    refine ⟨?_, rfl⟩
    split
    · rename_i heq
      exact absurd (Except.error.inj heq) hfault
    · rename_i heq
      exact congrArg (Except.error ∘ TreeFileError.badValue) (Except.error.inj heq).symm
    · rename_i heq
      cases heq
    · rename_i heq
      cases heq
  | noTree htext hdata htree herror =>
    subst htext
    rw [hdecode, Except.mapError, bind_ok, parse, hdata]
    refine ⟨congrArg (Except.mapError TreeFileError.noTree) htree, ?_⟩
    rcases herror with rfl | rfl <;> rfl

/-- **What leaves the reader of a file unreported.**  A file that can be read gives an error that no program
reports exactly if its bytes are no text, or its text has one of the faults that are no breach of a rule, or its
data would make an endless tree or a text of an integer with too many digits. -/
theorem unreported_iff {f : Folder} {path : Path} {bytes : List UInt8} (hread : f.read path = .ok bytes)
    (error : TreeFileError) :
    load f path = .error error ∧ Program.isReported error = false ↔ Unreported bytes error := by
  rw [load_of_read hread]
  constructor
  · rintro ⟨h, hunreported⟩
    cases hdecode : Utf8.decode bytes with
    | error fault =>
      rw [hdecode] at h
      cases h
      refine .noText hdecode fun text htext => ?_
      rw [(Text.Utf8.decode_eq_ok_iff bytes text).mpr htext] at hdecode
      cases hdecode
    | ok text =>
      rw [hdecode] at h
      rw [(Text.Utf8.decode_eq_ok_iff bytes text).mp hdecode]
      exact unreported_of_parse h hunreported
  · exact Unreported.load

/-- A byte that starts no character. -/
theorem unreported_noText :
    let f : Folder := { items := [(["tree.yaml"], .file [0xFF])] }
    let path : Path := { names := ["tree.yaml"] }
    f.read path = .ok [0xFF] ∧ load f path = .error (.noText ⟨0xFF, 0, 1, .start⟩) ∧
      Program.isReported (.noText ⟨0xFF, 0, 1, .start⟩) = false := by
  intro f path
  have hread : f.read path = .ok [0xFF] := by rfl
  have hdecode : Utf8.decode [0xFF] = .error ⟨0xFF, 0, 1, .start⟩ := by cbv
  have hno (text : List Char) : [0xFF] ≠ Utf8.encode text := by
    intro htext
    rw [(Text.Utf8.decode_eq_ok_iff _ text).mpr htext] at hdecode
    cases hdecode
  exact ⟨hread, (unreported_iff hread _).mpr (.noText hdecode hno)⟩

end TreeFile

end CommandWrap
