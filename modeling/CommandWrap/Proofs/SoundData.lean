import CommandWrap.Proofs.Faults
import CommandWrap.Proofs.FoundData
import CommandWrap.Proofs.GrownLists
import CommandWrap.Proofs.Overrides

/-!
# Sound data

Data that a document gives is sound (`Datum.Sound`): the scalars in it that are neither texts nor numbers nor truth
values have texts, and the keys of every map in it are distinct.  The reader of documents makes such data
(`Yaml.sound_ofYaml`): scalars are given their values one by one, and every map is put together entry by entry.

So the text that is shown for sound data is empty only where the data counts as empty (`Datum.Sound.display_ne_empty`).
-/
namespace CommandWrap

namespace Datum

/-! ## Sound data -/

/-- **Sound data**: scalars of other kinds have texts, and the keys of maps are distinct. -/
inductive Sound : Datum → Prop
  /-- Nothing. -/
  | null : Sound .null
  /-- A truth value. -/
  | bool (b : Bool) : Sound (.bool b)
  /-- An integer. -/
  | int (i : Int) : Sound (.int i)
  /-- A floating point number. -/
  | float (x : Decimal.Binary64) : Sound (.float x)
  /-- A text. -/
  | text (s : String) : Sound (.text s)
  /-- Another scalar. -/
  | other {text : String} (htext : text ≠ "") (isEmpty : Bool) : Sound (.other text isEmpty)
  /-- A list. -/
  | list {items : List Datum} (hitems : ∀ d ∈ items, Sound d) : Sound (.list items)
  /-- A map. -/
  | map {entries : List (Datum × Datum)} (hdistinct : HasDistinctKeys entries) (hkeys : ∀ e ∈ entries, Sound e.1)
    (hvalues : ∀ e ∈ entries, Sound e.2) : Sound (.map entries)
  /-- A set. -/
  | keySet (keys : List Datum) : Sound (.keySet keys)
  /-- A list that is met again. -/
  | listAgain (up : Nat) : Sound (.listAgain up)
  /-- A map that is met again. -/
  | mapAgain (up : Nat) : Sound (.mapAgain up)

theorem sound_list_iff {items : List Datum} : (Datum.list items).Sound ↔ ∀ d ∈ items, d.Sound := by
  constructor
  · rintro (_ | _ | _ | _ | _ | _ | hitems)
    exact hitems
  · exact .list

theorem sound_map_iff {entries : List (Datum × Datum)} :
    (Datum.map entries).Sound ↔ HasDistinctKeys entries ∧ (∀ e ∈ entries, e.1.Sound) ∧ ∀ e ∈ entries, e.2.Sound := by
  constructor
  · intro h
    cases h with
    | map hdistinct hkeys hvalues => exact ⟨hdistinct, hkeys, hvalues⟩
  · rintro ⟨hdistinct, hkeys, hvalues⟩
    exact .map hdistinct hkeys hvalues

/-- A sound entry is put into a sound map. -/
theorem Sound.insertEntry {k v : Datum} {entries : List (Datum × Datum)} (h : (Datum.map entries).Sound) (hk : k.Sound)
    (hv : v.Sound) : (Datum.map (insertEntry k v entries)).Sound := by
  obtain ⟨hdistinct, hkeys, hvalues⟩ := sound_map_iff.mp h
  refine .map (hdistinct.insertEntry k v) (fun e he => ?_) fun e he => ?_
  · rcases mem_insertEntry he with hold | ⟨-, hkey | ⟨e', he', hkey⟩⟩
    · exact hkeys e hold
    · exact hkey ▸ hk
    · exact hkey ▸ hkeys e' he'
  · rcases mem_insertEntry he with hold | ⟨hvalue, -⟩
    · exact hvalues e hold
    · exact hvalue ▸ hv

/-- A map of sound entries is sound. -/
theorem sound_ofEntries {entries : List (Datum × Datum)} (h : ∀ e ∈ entries, e.1.Sound ∧ e.2.Sound) :
    (ofEntries entries).Sound := by
  have hfold : ∀ es, (Datum.map es).Sound →
      (Datum.map (entries.foldl (fun es e => Datum.insertEntry e.1 e.2 es) es)).Sound := by
    induction entries with
    | nil => exact fun _ hes => hes
    | cons e entries ih =>
      rw [List.forall_mem_cons] at h
      exact fun es hes => ih h.2 _ (hes.insertEntry h.1.1 h.1.2)
  exact hfold [] (.map .nil (List.forall_mem_nil _) (List.forall_mem_nil _))

/-! ## Texts of sound data -/

theorem Sound.quote_ne_empty {d : Datum} (h : d.Sound) : d.quote ≠ "" := by
  have hvalue {v : Value} : v.quote ≠ "" := by
    intro hempty
    have := v.length_quote_pos
    rw [hempty] at this
    exact absurd this (by decide)
  have hended (s : String) {mark : String} (hmark : 0 < mark.length) : s ++ mark ≠ "" := by
    intro hempty
    have := Value.length_append_pos s hmark
    rw [hempty] at this
    exact absurd this (by decide)
  cases h with
  | null => decide
  | bool b => exact hvalue (v := .bool b)
  | int i => exact hvalue (v := .int i)
  | float x => exact hvalue (v := .float x)
  | text s => exact hvalue (v := .text s)
  | other htext => exact htext
  | list => exact hended _ (by decide)
  | map => exact hended _ (by decide)
  | keySet keys =>
    rw [quote]
    split
    · decide
    · exact hended _ (by decide)
  | listAgain up =>
    rw [quote]
    decide
  | mapAgain up =>
    rw [quote]
    decide

/-- **The text of sound data** is empty only where the data counts as empty. -/
theorem Sound.display_ne_empty {d : Datum} (h : d.Sound) (hfull : d.isEmpty = false) : d.display ≠ "" := by
  cases d with
  | text s =>
    rintro (rfl : s = "")
    cases hfull
  | _ => exact h.quote_ne_empty

end Datum

/-! ## Documents -/

namespace Yaml

open Datum (Sound)

theorem Timestamp.text_ne_empty (t : Timestamp) : t.text ≠ "" := by
  intro hempty
  have hlength := congrArg String.length hempty
  rw [Timestamp.text] at hlength
  cases hclock : t.clock? with
  | none => simp [hclock, String.length_append] at hlength
  | some c => simp [hclock, String.length_append] at hlength

/-- **What a value is**, by the kind of its scalar. -/
inductive ValueOf (s : String) : ScalarKind → Datum → Prop
  | null : ValueOf s .null .null
  | bool (b : Bool) : ValueOf s .bool (.bool b)
  | int (i : Int) : ValueOf s .int (.int i)
  | float (x : Decimal.Binary64) : ValueOf s .float (.float x)
  | timestamp (t : Timestamp) : ValueOf s .timestamp (.other t.text false)
  | text : ValueOf s .text (.text s)

theorem valueOf_of_scalarOf {kind : ScalarKind} {s : String} {d : Datum} (h : Builder.scalarOf kind s = .ok d) :
    ValueOf s kind d := by
  cases kind with
  | null =>
    cases h
    exact .null
  | bool =>
    obtain ⟨b, -, rfl⟩ := map_eq_ok_iff.mp h
    exact .bool b
  | int =>
    obtain ⟨i, -, rfl⟩ := map_eq_ok_iff.mp h
    exact .int i
  | float =>
    obtain ⟨x, -, rfl⟩ := map_eq_ok_iff.mp h
    exact .float x
  | timestamp =>
    rw [Builder.scalarOf, Scalar.timestampOf] at h
    split at h
    · cases h
    · split at h
      · cases h
      · cases h
        exact .timestamp _
  | text =>
    cases h
    exact .text
  | merge | default | indicator => cases h

theorem exists_of_bytesOf {s : String} {d : Datum} (h : Scalar.bytesOf s = .ok d) :
    ∃ bytes, d = .other (Text.ByteText.quoted bytes) bytes.isEmpty := by
  rw [Scalar.bytesOf] at h
  split at h
  · cases h
  · split at h
    · cases h
    · cases h
      exact ⟨_, rfl⟩

theorem sound_of_isValue {d : Datum} (h : Builder.IsValue d) : d.Sound := by
  rcases h with ⟨kind, text, h⟩ | ⟨text, h⟩
  · cases valueOf_of_scalarOf h with
    | null => exact .null
    | bool => exact .bool _
    | int => exact .int _
    | float => exact .float _
    | timestamp t => exact .other (Timestamp.text_ne_empty t) _
    | text => exact .text _
  · obtain ⟨bytes, rfl⟩ := exists_of_bytesOf h
    refine .other (fun hempty => ?_) _
    have hchars := congrArg String.toList hempty
    rw [Text.ByteText.quoted, String.toList_ofList] at hchars
    cases hchars

/-- **The data of a node** is sound. -/
theorem yields_unfold (schema : Schema) {b : Builder} (hb : b.HasValues) (fuel : Nat) (around : List Nat) (number : Nat) :
    Yields (fun _ d => d.Sound) (fun r => r.1.Sound) (unfold schema b fuel around number) := by
  induction fuel generalizing around number with
  | zero => exact yields_pure .null
  | succ fuel ih =>
    have hpair (e : Nat × Nat) : Yields (fun _ d => d.Sound) (fun r => r.1.1.Sound ∧ r.1.2.Sound) (do
        let k ← unfold schema b fuel (number :: around) e.1
        let v ← unfold schema b fuel (number :: around) e.2
        return ((k.1, v.1), k.2 && v.2)) :=
      yields_bind (ih _ _) fun k hk => yields_bind (ih _ _) fun v hv => yields_pure ⟨hk, hv⟩
    have hlast {r : Datum × Bool} (hr : r.1.Sound) :=
      yields_last (fun _ d => d.Sound) number (P := fun r => r.1.Sound) hr fun _ => hr
    rw [Yaml.unfold]
    split
    · exact yields_pure (sound_of_isValue (hb number _ (getElem?_of_getD ‹_›)))
    refine yields_get fun found hfound => ?_
    split
    · exact yields_pure (hfound number _ (getElem?_of_getD ‹_›))
    dsimp only
    split
    · refine yields_pure ?_
      split_ifs
      · exact .mapAgain _
      · exact .other (by decide) _
      · exact .listAgain _
    split
    · refine yields_bind (yields_mapM fun e _ => hpair e) fun rs hrs => hlast (Datum.sound_ofEntries ?_)
      rw [List.forall_mem_map]
      exact hrs
    · exact yields_bind (yields_mapM fun e _ => hpair e) fun rs hrs => hlast (.keySet _)
    · refine yields_bind (yields_mapM (Q := fun r => r.1.1.Sound ∧ r.1.2.Sound) fun item _ => ?_)
        fun rs _ => hlast (.list ?_)
      · split
        · exact hpair _
        · exact yields_pure ⟨.null, .null⟩
      · -- a pair is shown as a text between parentheses
        rw [List.forall_mem_map]
        refine fun r _ => .other (fun hempty => ?_) _
        have hpos := Value.length_append_pos ("(" ++ r.1.1.quote ++ ", " ++ r.1.2.quote) (t := ")") (by decide)
        rw [hempty] at hpos
        exact absurd hpos (by decide)
    · refine yields_bind (yields_mapM fun item _ => ih _ item) fun rs hrs => hlast (.list ?_)
      rw [List.forall_mem_map]
      exact hrs
    · exact hlast .null

/-- **The data of a document** is sound. -/
theorem sound_ofYaml {schema : Schema} {text : List Char} {d : Datum} (h : Datum.ofYaml schema text = .ok d) : d.Sound := by
  obtain ⟨g, -, hdata⟩ := bind_eq_ok_iff.mp h
  rw [NodeGraph.data] at hdata
  split at hdata
  · cases hdata
    exact .null
  · rename_i root _
    obtain ⟨⟨_, b⟩, hrun, hd⟩ := bind_eq_ok_iff.mp hdata
    have hb : b.HasValues :=
      post_of_triple (Builder.safe_build schema root _) (Builder.hasValues_start _ _ _) hrun
    cases hd
    exact (yields_unfold schema hb _ _ _ _ (foundIn_start _ _)).1

end Yaml

end CommandWrap
