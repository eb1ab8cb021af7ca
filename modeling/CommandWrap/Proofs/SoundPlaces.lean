import CommandWrap.Proofs.References
import CommandWrap.Proofs.SoundData
import CommandWrap.Proofs.TreeFaults

/-!
# Places in sound data

What a way or a path of keys leads to in sound data is sound, and sound data that is put where a path leads leaves the
data sound (`KeyPath.sound_update`): a map takes an entry under one key, a list takes an item in the place of another,
and maps are merged entry by entry (`KeyPath.sound_merge`).

How a value is put below a key of a map or an item of a list is said in one equation each (`KeyPath.update_map`,
`KeyPath.update_list`).
-/
namespace CommandWrap

/-! ## Places in sound data -/

section places

open Datum (Sound)
open Settings.Resolved

theorem Datum.Sound.lookup {entries : List (Datum × Datum)} (h : (Datum.map entries).Sound) {key : String} {v : Datum}
    (hv : Datum.lookup key entries = some v) : v.Sound := by
  obtain ⟨k, hmem⟩ := TreeReader.mem_of_lookup hv
  exact (Datum.sound_map_iff.mp h).2.2 _ hmem

/-- What a key leads to is sound, also where there is no such key. -/
theorem Datum.Sound.field {entries : List (Datum × Datum)} (h : (Datum.map entries).Sound) (key : String) :
    (Datum.field key entries).Sound := by
  rw [Datum.field]
  cases hlookup : Datum.lookup key entries with
  | none => exact .null
  | some v => exact h.lookup hlookup

/-- Entries with the keys of a sound map and with sound values make a sound map. -/
theorem Datum.Sound.of_forall₂ {es es' : List (Datum × Datum)} (h : (Datum.map es).Sound)
    (hrow : List.Forall₂ (fun e e' => e'.1 = e.1 ∧ e'.2.Sound) es es') : (Datum.map es').Sound := by
  obtain ⟨hdistinct, hkeys, -⟩ := Datum.sound_map_iff.mp h
  have hkeys' : es'.map Prod.fst = es.map Prod.fst := by
    rw [← List.forall₂_eq_eq_eq, List.forall₂_map_left_iff, List.forall₂_map_right_iff]
    exact hrow.flip.imp fun _ _ he => he.1
  refine .map ?_ (fun e' he' => ?_) fun e' he' => ?_
  · rw [Datum.HasDistinctKeys, ← List.pairwise_map (f := Prod.fst) (R := fun k k' => Datum.sameKey k k' = false)]
      at hdistinct ⊢
    rwa [hkeys']
  · obtain ⟨e, he, hkey, -⟩ := exists_left_of_mem hrow he'
    exact hkey ▸ hkeys e he
  · obtain ⟨e, -, -, hvalue⟩ := exists_left_of_mem hrow he'
    exact hvalue

theorem Datum.Sound.child {d child : Datum} (h : d.Sound) (hchild : child ∈ children d) : child.Sound := by
  cases h with
  | list hitems => exact hitems child hchild
  | map _ _ hvalues =>
    obtain ⟨e, he, rfl⟩ := List.mem_map.mp hchild
    exact hvalues e he
  | _ => cases hchild

theorem Datum.Sound.at {root d : Datum} {way : List Nat} (h : root.Sound) (hd : at? root way = some d) : d.Sound := by
  induction way generalizing root with
  | nil =>
    cases hd
    exact h
  | cons n way ih =>
    rw [at?_cons, Option.bind_eq_some_iff] at hd
    obtain ⟨child, hchild, hd⟩ := hd
    exact ih (h.child (List.mem_of_getElem? hchild)) hd

theorem Datum.Sound.get {d v : Datum} {keys : List String} (h : d.Sound) (hv : KeyPath.get? keys d = some v) :
    v.Sound := by
  induction keys generalizing d with
  | nil =>
    cases hv
    exact h
  | cons key rest ih =>
    cases h with
    | list hitems =>
      rw [KeyPath.get?, Option.bind_eq_bind, Option.bind_eq_some_iff] at hv
      obtain ⟨i, -, hv⟩ := hv
      dsimp only at hv
      split_ifs at hv
      · cases hv
      simp only [Option.bind_eq_bind, Option.bind_eq_some_iff] at hv
      obtain ⟨n, -, old, hold, hv⟩ := hv
      exact ih (hitems old (List.mem_of_getElem? hold)) hv
    | map _ _ hvalues =>
      simp only [KeyPath.get?, Option.bind_eq_bind, Option.bind_eq_some_iff] at hv
      obtain ⟨n, -, e, he, hv⟩ := hv
      exact ih (hvalues e (List.mem_of_getElem? he)) hv
    | _ => cases hv

end places

/-! ## Values that are put into sound data -/

namespace KeyPath

open Datum (Sound)

variable {isClosed : Bool}

theorem sound_putEntry {key : String} {v : Datum} {entries entries' : List (Datum × Datum)}
    (h : putEntry isClosed key v entries = .ok entries') (hentries : (Datum.map entries).Sound) (hv : v.Sound) :
    (Datum.map entries').Sound := by
  rw [putEntry] at h
  split at h
  · cases h
  · cases h
    exact hentries.insertEntry (.text key) hv

theorem sound_set {items : List Datum} (hitems : (Datum.list items).Sound) {v : Datum} (hv : v.Sound) (n : Nat) :
    (Datum.list (items.set n v)).Sound := by
  refine .list fun d hd => ?_
  rcases List.mem_or_eq_of_mem_set hd with hd | rfl
  · exact Datum.sound_list_iff.mp hitems d hd
  · exact hv

/-- Entries are merged into a sound map one by one. -/
theorem sound_mergeEntries {new entries entries' : List (Datum × Datum)}
    (hmerge : ∀ e ∈ new, ∀ (isClosed : Bool) (old w : Datum), merge isClosed old e.2 = .ok w → old.Sound → w.Sound)
    (hkeys : ∀ e ∈ new, e.1.Sound) (h : mergeEntries isClosed entries new = .ok entries')
    (hentries : (Datum.map entries).Sound) : (Datum.map entries').Sound := by
  induction new generalizing entries with
  | nil =>
    rw [mergeEntries] at h
    cases h
    exact hentries
  | cons e new ih =>
    obtain ⟨k, v⟩ := e
    rw [List.forall_mem_cons] at hmerge hkeys
    rw [mergeEntries] at h
    have hold : (((entries.find? fun e => Datum.sameKey e.1 k).map Prod.snd).getD Datum.null).Sound := by
      cases hfind : entries.find? fun e => Datum.sameKey e.1 k with
      | none => exact Sound.null
      | some e => exact (Datum.sound_map_iff.mp hentries).2.2 e (List.mem_of_find?_eq_some hfind)
    dsimp only at h
    split at h
    · cases h
    · obtain ⟨w, hw, h⟩ := bind_eq_ok_iff.mp h
      exact ih hmerge.2 hkeys.2 h (hentries.insertEntry hkeys.1 (hmerge.1 _ _ _ hw hold))

/-- **Sound data is merged into sound data.** -/
theorem sound_merge {old v w : Datum} (h : merge isClosed old v = .ok w) (hold : old.Sound) (hv : v.Sound) : w.Sound := by
  -- only a map is merged, value by value; anything else takes the place of what was there
  induction hv generalizing isClosed old w with
  | @map new hdistinct hkeys hvalues _ ih =>
    have hnew {isClosed : Bool} {entries entries' : List (Datum × Datum)}
        (h : mergeEntries isClosed entries new = .ok entries') (hentries : (Datum.map entries).Sound) :
        (Datum.map entries').Sound :=
      sound_mergeEntries (fun e he _ _ _ hw hold => ih e he hw hold) hkeys h hentries
    rw [merge.eq_def] at h
    dsimp only at h
    split at h
    · obtain ⟨entries', hentries, rfl⟩ := map_eq_ok_iff.mp h
      exact hnew hentries hold
    · cases h
    · obtain ⟨entries', hentries, rfl⟩ := map_eq_ok_iff.mp h
      exact hnew hentries (.map .nil (List.forall_mem_nil _) (List.forall_mem_nil _))
  | list hitems =>
    rw [merge.eq_def] at h
    dsimp only at h
    split at h
    · cases h
    · cases h
      exact .list hitems
  | _ =>
    rw [merge] at h
    · cases h
      constructor <;> assumption
    all_goals simp

theorem sound_putLast {key : String} {v d d' : Datum} (h : putLast isClosed key v d = .ok d') (hd : d.Sound)
    (hv : v.Sound) : d'.Sound := by
  rw [putLast.eq_def] at h
  split at h
  · obtain ⟨w, hw, h⟩ := bind_eq_ok_iff.mp h
    obtain ⟨entries', hput, h⟩ := bind_eq_ok_iff.mp h
    cases h
    exact sound_putEntry hput hd (sound_merge hw (hd.field key) hv)
  · split at h
    · cases h
    · split at h
      · cases h
      · cases h
        exact sound_set hd hv _
  · cases h

/-- What a key leads on to: a container as it is, and an empty map in the place of anything else. -/
def container (d : Datum) : Datum :=
  if isContainer d then d else .map []

theorem sound_container {d : Datum} (hd : d.Sound) : (container d).Sound := by
  rw [container]
  split
  · exact hd
  · exact .map .nil (List.forall_mem_nil _) (List.forall_mem_nil _)

/-- Putting a value below a key of a map. -/
theorem update_map {rest : List String} (hrest : rest ≠ []) (v : Datum) (key : String) (entries : List (Datum × Datum)) :
    update isClosed v (key :: rest) (.map entries) =
      if isMissing (Datum.field key entries) = true ∨ (isClosed && (place? key entries).isNone) = true then .error .noPlace
      else update isClosed v rest (container (Datum.field key entries)) >>= fun w =>
        (putEntry isClosed key w entries).map .map := by
  rw [update]
  · dsimp only
    rw [← container]
    by_cases hmissing : isMissing (Datum.field key entries) = true
    · rw [if_pos hmissing, if_pos (Or.inl hmissing)]
      split <;> rfl
    · rw [if_neg hmissing]
      by_cases hclosed : (isClosed && (place? key entries).isNone) = true
      · rw [if_pos hclosed, if_pos (Or.inr hclosed)]
        rfl
      · rw [if_neg hclosed, if_neg (by simp [hmissing, hclosed])]
        rfl
  · exact hrest

/-- Putting a value below an item of a list. -/
theorem update_list {rest : List String} (hrest : rest ≠ []) (v : Datum) (key : String) (items : List Datum) :
    update isClosed v (key :: rest) (.list items) =
      match Decimal.integer 10 key with
      | .error _ => .error (.noIndex key)
      | .ok i =>
        match index? items.length i with
        | none => .error .noPlace
        | some n =>
          if isMissing (if i < 0 then .null else items.getD n .null) = true then .error .noPlace
          else update isClosed v rest (container (if i < 0 then .null else items.getD n .null)) >>= fun w =>
            .ok (.list (items.set n w)) := by
  rw [update]
  · cases Decimal.integer 10 key with
    | error fault => rfl
    | ok i =>
      dsimp only
      cases index? items.length i with
      | none => rfl
      | some n =>
        dsimp only
        rw [← container]
        by_cases hmissing : isMissing (if i < 0 then .null else items.getD n .null) = true
        · rw [if_pos hmissing, if_pos hmissing]
          rfl
        · rw [if_neg hmissing, if_neg hmissing]
          rfl
  · exact hrest

/-- **Putting sound data where a path leads** leaves the data sound. -/
theorem sound_update {v : Datum} {keys : List String} {d d' : Datum} (h : update isClosed v keys d = .ok d') (hd : d.Sound)
    (hv : v.Sound) : d'.Sound := by
  induction keys generalizing d d' with
  | nil => cases h
  | cons key rest ih =>
    by_cases hrest : rest = []
    · subst hrest
      exact sound_putLast h hd hv
    cases d with
    | map entries =>
      rw [update_map hrest] at h
      split at h
      · cases h
      obtain ⟨w, hw, hput⟩ := bind_eq_ok_iff.mp h
      obtain ⟨entries', hentries, rfl⟩ := map_eq_ok_iff.mp hput
      exact sound_putEntry hentries hd (ih hw (sound_container (hd.field key)))
    | list items =>
      rw [update_list hrest] at h
      split at h
      · cases h
      split at h
      · cases h
      rw [ite_eq_iff'] at h
      obtain ⟨w, hw, hset⟩ := bind_eq_ok_iff.mp (h.2 fun hmissing => nomatch h.1 hmissing)
      cases hset
      -- below an index that counts from the end lies nothing, as far as an update sees
      refine sound_set hd (ih hw (sound_container ?_)) _
      split
      · exact .null
      · rename_i n _ _
        rw [List.getD_eq_getElem?_getD]
        cases hitem : items[n]? with
        | none => exact .null
        | some item => exact Datum.sound_list_iff.mp hd item (List.mem_of_getElem? hitem)
    | _ =>
      rw [update] at h
      · cases h
      all_goals simp [hrest]

end KeyPath

end CommandWrap
