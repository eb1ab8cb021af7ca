import CommandWrap.Proofs.SoundPlaces

/-!
# References to sound data

The literals in a reference are scalars, so its arguments are made of sound data (`Reference.Sound`); this holds of
whatever the reader of references reads, by induction on its fuel with one case for each function (`readsSound`).  And
what is followed, selected, called or resolved in sound data is sound, by induction on the fuel again (`followsSound`).
So the data for which sound data stands is sound (`sound_resolved`).
-/
namespace CommandWrap.Settings

/-! ## What holds of a result -/

/-- The result, if there is one, has the property. -/
def ResultIn {α : Type} (P : α → Prop) (x : Option α) : Prop :=
  ∀ a, x = some a → P a

section ResultIn

variable {α β : Type} {P : α → Prop}

theorem resultIn_none : ResultIn P none :=
  nofun

theorem resultIn_some {a : α} (ha : P a) : ResultIn P (some a) := by
  rintro _ ⟨⟩
  exact ha

theorem resultIn_bind {x : Option β} {f : β → Option α} (hf : ∀ b, x = some b → ResultIn P (f b)) :
    ResultIn P (x >>= f) := by
  intro a ha
  obtain ⟨b, hb, ha⟩ := Option.bind_eq_some_iff.mp ha
  exact hf b hb a ha

theorem resultIn_mapM {f : β → Option α} {xs : List β} (hf : ∀ x ∈ xs, ResultIn P (f x)) :
    ResultIn (fun ys => ∀ y ∈ ys, P y) (xs.mapM f) := by
  intro ys hys y hy
  obtain ⟨x, hx, hxy⟩ := exists_left_of_mem (forall₂_imp_of_mem (S := fun x y => x ∈ xs ∧ f x = some y)
    (mapM_eq_some_iff.mp hys) fun x hx y hxy => ⟨hx, hxy⟩) hy
  exact hf x hx y hxy.2

theorem resultIn_map {f : β → α} {x : Option β} (hf : ∀ a, x = some a → P (f a)) :
    ResultIn P (x.map f) := by
  intro b hb
  obtain ⟨a, ha, rfl⟩ := Option.map_eq_some_iff.mp hb
  exact hf a ha

end ResultIn

/-! ## References that are made of sound data -/

mutual

/-- A part of a text whose reference, if it is one, is made of sound data. -/
inductive Piece.Sound : Piece → Prop
  /-- Plain text. -/
  | text {cs : List Char} : Piece.Sound (.text cs)
  /-- A reference. -/
  | reference {r : Reference} (hr : r.Sound) : Piece.Sound (.reference r)

/-- **A reference that is made of sound data.** -/
inductive Reference.Sound : Reference → Prop
  /-- To what a path leads. -/
  | node {path : List Piece} : Reference.Sound (.node path)
  /-- To what a function makes of its arguments. -/
  | call {name : List Piece} {arguments : List Element} (harguments : ∀ e ∈ arguments, e.Sound) :
    Reference.Sound (.call name arguments)

/-- An argument that is made of sound data. -/
inductive Element.Sound : Element → Prop
  /-- A literal. -/
  | literal {d : Datum} (hd : d.Sound) : Element.Sound (.literal d)
  /-- A text. -/
  | text {parts : List Piece} : Element.Sound (.text parts)
  /-- The value of a reference. -/
  | value {r : Reference} (hr : r.Sound) : Element.Sound (.value r)
  /-- A list. -/
  | list {items : List Element} (hitems : ∀ e ∈ items, e.Sound) : Element.Sound (.list items)
  /-- A map. -/
  | map {entries : List (Datum × Element)} (hkeys : ∀ e ∈ entries, e.1.Sound) (hvalues : ∀ e ∈ entries, e.2.Sound) :
    Element.Sound (.map entries)

end

/-- A literal is a scalar. -/
theorem Literal.sound_value {run : List Char} {d : Datum} (h : Literal.value? run = some d) : d.Sound := by
  rw [Literal.value?] at h
  split_ifs at h
  · cases h
    exact .null
  · cases h
    exact .bool _
  · cases h
    exact .bool _
  · obtain ⟨i, -, rfl⟩ := Option.map_eq_some_iff.mp h
    exact .int i
  · obtain ⟨x, -, rfl⟩ := Option.map_eq_some_iff.mp h
    exact .float x

namespace Reference

theorem sound_consChar {c : Char} {ps : List Piece} (h : ∀ p ∈ ps, p.Sound) : ∀ p ∈ consChar c ps, p.Sound := by
  rw [consChar.eq_def]
  split
  · rw [List.forall_mem_cons] at h ⊢
    exact ⟨.text, h.2⟩
  · exact List.forall_mem_cons.mpr ⟨.text, h⟩

theorem sound_consChars {cs : List Char} {ps : List Piece} (h : ∀ p ∈ ps, p.Sound) : ∀ p ∈ consChars cs ps, p.Sound := by
  induction cs with
  | nil => exact h
  | cons c cs ih => exact sound_consChar ih

theorem sound_elementOf {run : List Char} {ps : List Piece} (h : ∀ p ∈ ps, p.Sound) : (elementOf run ps).Sound := by
  rw [elementOf.eq_def]
  split
  · cases h _ (List.mem_singleton_self _) with
    | reference hr => exact .value hr
  · split
    · exact .literal (Literal.sound_value ‹_›)
    · exact .text

/-- **What is read is made of sound data**, with the given fuel. -/
structure ReadsSound (fuel : Nat) : Prop where
  text : ∀ quote cs, ResultIn (fun r => ∀ p ∈ r.1, p.Sound) (readText fuel quote cs)
  reference : ∀ cs, ResultIn (fun r => r.1.Sound) (readReference fuel cs)
  items : ∀ closing cs, ResultIn (fun r => ∀ e ∈ r.1, e.Sound) (readItems fuel closing cs)
  sequence : ∀ closing cs, ResultIn (fun r => ∀ e ∈ r.1, e.Sound) (readSequence fuel closing cs)
  element : ∀ cs, ResultIn (fun r => r.1.Sound) (readElement fuel cs)
  run : ∀ inKey cs, ResultIn (fun r => ∀ p ∈ r.2.1, p.Sound) (readRun fuel inKey cs)
  entries : ∀ cs, ResultIn (fun r => ∀ e ∈ r.1, e.1.Sound ∧ e.2.Sound) (readEntries fuel cs)

section step

variable {fuel : Nat} (ih : ReadsSound fuel)

include ih

/-- Plain text in front of the text that is read. -/
theorem sound_marked (quote : Option Char) (marks rest : List Char) :
    ResultIn (fun r : List Piece × List Char => ∀ p ∈ r.1, p.Sound) (do
      let (ps, tail) ← readText fuel quote rest
      return (consChars marks ps, tail)) :=
  resultIn_bind fun r hr => resultIn_some (sound_consChars (ih.text _ _ r hr))

theorem sound_readText (quote : Option Char) (cs : List Char) :
    ResultIn (fun r => ∀ p ∈ r.1, p.Sound) (readText (fuel + 1) quote cs) := by
  rw [readText.eq_def]
  dsimp only
  split
  · split
    · exact resultIn_some (List.forall_mem_nil _)
    · exact resultIn_none
  · split
    · split
      · exact sound_marked ih _ _ _
      · exact sound_marked ih _ _ _
    split
    · split
      · exact sound_marked ih _ _ _
      · exact resultIn_some (sound_consChars (List.forall_mem_nil _))
    · exact sound_marked ih _ _ _
  · split
    · refine resultIn_bind fun r hr => resultIn_bind fun t ht => resultIn_some ?_
      exact List.forall_mem_cons.mpr ⟨.reference (ih.reference _ r hr), ih.text _ _ t ht⟩
    split
    · exact resultIn_some (List.forall_mem_nil _)
    · exact resultIn_bind fun t ht => resultIn_some (sound_consChar (ih.text _ _ t ht))

/-- Behind its keys, a reference ends as a path or as a call. -/
theorem sound_behindKeys (path name : List Piece) (refused : Bool) (cs : List Char) :
    ResultIn (fun r : Reference × List Char => r.1.Sound)
      (match Literal.skipSpaces cs with
        | '\x7d' :: tail => some (.node path, tail)
        | _ =>
          match cs with
          | ':' :: tail =>
            if refused then none
            else do
              let (items, tail) ← readItems fuel '\x7d' (Literal.skipSpaces tail)
              return (.call name items, tail)
          | _ => none) := by
  split
  · exact resultIn_some .node
  · split
    · split
      · exact resultIn_none
      · exact resultIn_bind fun r hr => resultIn_some (.call (ih.items _ _ r hr))
    · exact resultIn_none

theorem sound_readReference (cs : List Char) : ResultIn (fun r => r.1.Sound) (readReference (fuel + 1) cs) := by
  rw [readReference]
  dsimp only
  split
  · refine resultIn_bind fun k _ => ?_
    split
    · exact resultIn_bind fun first _ => resultIn_bind fun more _ => sound_behindKeys ih _ _ _ _
    · exact resultIn_none
  · exact resultIn_bind fun k _ => resultIn_bind fun first _ => resultIn_bind fun more _ => sound_behindKeys ih _ _ _ _

theorem sound_readItems (closing : Char) (cs : List Char) :
    ResultIn (fun r => ∀ e ∈ r.1, e.Sound) (readItems (fuel + 1) closing cs) := by
  rw [readItems]
  split
  · split
    · exact resultIn_some (List.forall_mem_nil _)
    · exact ih.sequence _ _
  · exact resultIn_none

/-- Behind an item, the items end or go on. -/
theorem sound_behindItem (closing : Char) {r : Element × List Char} (hr : r.1.Sound) :
    ResultIn (fun r : List Element × List Char => ∀ e ∈ r.1, e.Sound)
      (match Literal.skipSpaces r.2 with
        | ',' :: tail => do
          let (es, tail) ← readSequence fuel closing (Literal.skipSpaces tail)
          return (r.1 :: es, tail)
        | c :: tail => if c = closing then some ([r.1], tail) else none
        | [] => none) := by
  split
  · refine resultIn_bind fun t ht => resultIn_some ?_
    exact List.forall_mem_cons.mpr ⟨hr, ih.sequence _ _ t ht⟩
  · split
    · exact resultIn_some (List.forall_mem_singleton.mpr hr)
    · exact resultIn_none
  · exact resultIn_none

theorem sound_readSequence (closing : Char) (cs : List Char) :
    ResultIn (fun r => ∀ e ∈ r.1, e.Sound) (readSequence (fuel + 1) closing cs) := by
  rw [readSequence]
  dsimp only
  split
  · split
    · exact sound_behindItem ih closing (r := (.text [], cs)) .text
    · exact resultIn_bind fun r hr => sound_behindItem ih closing (ih.element _ r hr)
  · rw [if_neg Bool.false_ne_true]
    exact resultIn_bind fun r hr => sound_behindItem ih closing (ih.element _ r hr)

theorem sound_readElement (cs : List Char) : ResultIn (fun r => r.1.Sound) (readElement (fuel + 1) cs) := by
  rw [readElement.eq_def]
  dsimp only
  split
  · exact resultIn_none
  · exact resultIn_bind fun r hr => resultIn_some (.list (ih.items _ _ r hr))
  · split
    · exact resultIn_some (.map (List.forall_mem_nil _) (List.forall_mem_nil _))
    · refine resultIn_bind fun r hr => resultIn_some (.map (fun e he => ?_) fun e he => ?_)
      · exact (ih.entries _ r hr e he).1
      · exact (ih.entries _ r hr e he).2
  · split
    · exact resultIn_bind fun r hr => resultIn_some .text
    · refine resultIn_bind fun r hr => ?_
      split
      · exact resultIn_none
      · exact resultIn_some (sound_elementOf (ih.run _ _ r hr))

theorem sound_readRun (inKey : Bool) (cs : List Char) :
    ResultIn (fun r => ∀ p ∈ r.2.1, p.Sound) (readRun (fuel + 1) inKey cs) := by
  rw [readRun.eq_def]
  dsimp only
  split
  · exact resultIn_some (List.forall_mem_nil _)
  split
  · exact resultIn_some (List.forall_mem_nil _)
  · split
    · exact resultIn_bind fun r hr => resultIn_some (sound_consChar (ih.run _ _ r hr))
    · exact resultIn_bind fun r hr => resultIn_some (sound_consChar (ih.run _ _ r hr))
  · split
    · split
      · exact resultIn_none
      · refine resultIn_bind fun r hr => resultIn_bind fun t ht => resultIn_some ?_
        exact List.forall_mem_cons.mpr ⟨.reference (ih.reference _ r hr), ih.run _ _ t ht⟩
    split
    · exact resultIn_bind fun r hr => resultIn_some (sound_consChar (ih.run _ _ r hr))
    · exact resultIn_none

/-- Behind its key, an entry has a value, and the entries end or go on. -/
theorem sound_behindKey {key : Datum} (hkey : key.Sound) (tail : List Char) :
    ResultIn (fun r : List (Datum × Element) × List Char => ∀ e ∈ r.1, e.1.Sound ∧ e.2.Sound)
      (match Literal.skipSpaces tail with
        | ':' :: tail => do
          let (e, tail) ← readElement fuel (Literal.skipSpaces tail)
          match Literal.skipSpaces tail with
          | ',' :: tail => do
            let (es, tail) ← readEntries fuel (Literal.skipSpaces tail)
            return ((key, e) :: es, tail)
          | '\x7d' :: tail => some ([(key, e)], tail)
          | _ => none
        | _ => none) := by
  split
  · refine resultIn_bind fun r hr => ?_
    obtain ⟨e, tail⟩ := r
    have hfirst : (key, e).1.Sound ∧ (key, e).2.Sound := ⟨hkey, ih.element _ _ hr⟩
    dsimp only
    split
    · exact resultIn_bind fun t ht => resultIn_some (List.forall_mem_cons.mpr ⟨hfirst, ih.entries _ t ht⟩)
    · exact resultIn_some (List.forall_mem_singleton.mpr hfirst)
    · exact resultIn_none
  · exact resultIn_none

theorem sound_readEntries (cs : List Char) :
    ResultIn (fun r => ∀ e ∈ r.1, e.1.Sound ∧ e.2.Sound) (readEntries (fuel + 1) cs) := by
  rw [readEntries]
  refine resultIn_bind fun r hr => ?_
  obtain ⟨run, ps, tail⟩ := r
  dsimp only
  split
  · exact resultIn_none
  · split
    · exact sound_behindKey ih (Literal.sound_value ‹_›) _
    · refine resultIn_bind fun key hplain => sound_behindKey ih ?_ _
      obtain ⟨text, -, rfl⟩ := Option.map_eq_some_iff.mp hplain
      exact .text text

end step

/-- **What is read is made of sound data.** -/
theorem readsSound (fuel : Nat) : ReadsSound fuel := by
  induction fuel with
  | zero =>
    constructor <;> intros
    · simp only [readText, resultIn_none]
    · simp only [readReference, resultIn_none]
    · simp only [readItems, resultIn_none]
    · simp only [readSequence, resultIn_none]
    · simp only [readElement, resultIn_none]
    · simp only [readRun, resultIn_none]
    · simp only [readEntries, resultIn_none]
  | succ fuel ih =>
    exact {
      text := sound_readText ih
      reference := sound_readReference ih
      items := sound_readItems ih
      sequence := sound_readSequence ih
      element := sound_readElement ih
      run := sound_readRun ih
      entries := sound_readEntries ih }

end Reference

theorem sound_pieces {t : String} {ps : List Piece} (h : pieces? t = some ps) : ∀ p ∈ ps, p.Sound := by
  rw [pieces?] at h
  split at h
  · obtain ⟨r, hr, rfl⟩ := Option.map_eq_some_iff.mp h
    exact (Reference.readsSound _).text _ _ r hr
  · cases h
    exact List.forall_mem_singleton.mpr .text

theorem sound_element {t : String} {e : Element} (h : element? t = some e) : e.Sound := by
  rw [element?] at h
  split at h
  · rename_i hread
    cases h
    exact (Reference.readsSound _).element _ _ hread
  · cases h

/-! ## What references lead to in sound data -/

section follows

open Resolved

/-- The value that a function made, if there is one, is sound. -/
def Place.Sound : Place → Prop
  | .node _ => True
  | .made d => d.Sound

/-- **What is followed is sound**, with the given fuel. -/
structure FollowsSound (s : Surroundings) (root : Datum) (fuel : Nat) : Prop where
  follow : ∀ way d, ResultIn Place.Sound (follow s root fuel way d)
  reference : ∀ around {r}, r.Sound → ResultIn Place.Sound (reference s root fuel around r)
  select : ∀ way keys, ResultIn Place.Sound (select s root fuel way keys)
  element : ∀ around {e}, e.Sound → ResultIn Datum.Sound (element s root fuel around e)
  call : ∀ around name {arguments}, (∀ a ∈ arguments, Datum.Sound a) →
    ResultIn Place.Sound (call s root fuel around name arguments)
  resolve : ∀ way d, ResultIn Datum.Sound (resolve s root fuel way d)

variable {s : Surroundings} {root : Datum} (hroot : root.Sound) {fuel : Nat} (ih : FollowsSound s root fuel)

include ih

theorem sound_follow (way : List Nat) (d : Datum) : ResultIn Place.Sound (follow s root (fuel + 1) way d) := by
  rw [follow.eq_def]
  dsimp only
  split
  · split
    · refine resultIn_bind fun ps hps => ?_
      split
      · cases sound_pieces hps _ (List.mem_singleton_self _) with
        | reference hr => exact ih.reference _ hr
      · exact resultIn_bind fun t _ => resultIn_some (Datum.Sound.text t)
    · exact resultIn_some trivial
  · exact resultIn_some trivial

theorem sound_reference (around : List Nat) {r : Reference} (hr : r.Sound) :
    ResultIn Place.Sound (reference s root (fuel + 1) around r) := by
  cases hr with
  | node =>
    rw [reference]
    refine resultIn_bind fun path _ => resultIn_bind fun start _ => resultIn_bind fun place hplace => ?_
    have hsound := ih.select _ _ place hplace
    split
    · refine resultIn_bind fun isContainer _ => ?_
      split
      · exact resultIn_none
      · exact resultIn_some trivial
    · exact resultIn_some hsound
  | call harguments =>
    rw [reference]
    refine resultIn_bind fun name _ => resultIn_bind fun arguments hvalues => ?_
    exact ih.call _ _ (resultIn_mapM (fun e he => ih.element _ (harguments e he)) _ hvalues)

theorem sound_select (way : List Nat) (keys : List String) :
    ResultIn Place.Sound (select s root (fuel + 1) way keys) := by
  cases keys with
  | nil =>
    rw [select]
    exact resultIn_some trivial
  | cons key rest =>
    rw [select]
    refine resultIn_bind fun d _ => resultIn_bind fun n _ => resultIn_bind fun child _ => ?_
    split
    · exact resultIn_none
    · refine resultIn_bind fun place hplace => ?_
      have hsound := ih.follow _ _ place hplace
      split
      · exact ih.select _ _
      · exact resultIn_map fun v hv => Datum.Sound.get hsound hv

theorem sound_elementValue (around : List Nat) {e : Element} (he : e.Sound) :
    ResultIn Datum.Sound (element s root (fuel + 1) around e) := by
  cases he with
  | literal hd =>
    rw [element]
    exact resultIn_some hd
  | text =>
    rw [element]
    exact resultIn_map fun t _ => .text t
  | value hr =>
    rw [element]
    refine resultIn_bind fun place hplace => ?_
    have hsound := ih.reference _ hr place hplace
    split
    · exact resultIn_bind fun d _ => ih.resolve _ _
    · exact resultIn_some hsound
  | list hitems =>
    rw [element]
    exact resultIn_map fun ds hds => .list (resultIn_mapM (fun e he => ih.element _ (hitems e he)) _ hds)
  | map hkeys hvalues =>
    rw [element]
    refine resultIn_bind fun entries hentries => resultIn_some (Datum.sound_ofEntries ?_)
    refine resultIn_mapM (fun e he => resultIn_map fun d hd => ?_) _ hentries
    exact ⟨hkeys e he, ih.element _ (hvalues e he) d hd⟩

omit ih in
theorem sound_make {name : String} {arguments : List Datum} (harguments : ∀ a ∈ arguments, a.Sound) :
    ResultIn Datum.Sound (make? s name arguments) := by
  have hvariable (name : String) (default? : Option Datum) : ResultIn Datum.Sound (variable_ s name default?) := by
    rw [variable_.eq_def]
    split
    · exact resultIn_some (.text _)
    · exact resultIn_some .null
    · exact resultIn_some (.text _)
    · exact resultIn_none
  rw [make?.eq_def]
  split
  · exact resultIn_some (.text _)
  · exact hvariable _ _
  · exact hvariable _ _
  · exact resultIn_some (harguments _ (List.mem_singleton_self _))
  · exact resultIn_some (harguments _ (List.mem_singleton_self _))
  · exact resultIn_some .null
  · exact resultIn_none

include hroot

theorem sound_call (around : List Nat) (name : String) {arguments : List Datum} (harguments : ∀ a ∈ arguments, a.Sound) :
    ResultIn Place.Sound (call s root (fuel + 1) around name arguments) := by
  have hgetD (way : List Nat) (keys : List String) {default : Datum} (hdefault : default.Sound) :
      Place.Sound ((select s root fuel way keys).getD (.made default)) := by
    cases hselect : select s root fuel way keys with
    | none => exact hdefault
    | some place => exact ih.select _ _ place hselect
  rw [call.eq_def]
  dsimp only
  -- one case per function that can be called: what it selects, resolves or makes is sound
  split
  · exact resultIn_bind fun start _ => resultIn_some (hgetD _ _ .null)
  · exact resultIn_bind fun start _ => resultIn_some (hgetD _ _ (harguments _ (by simp)))
  · refine resultIn_bind fun start _ => resultIn_bind fun place _ => resultIn_bind fun way _ =>
      resultIn_bind fun d hd => ?_
    split
    · refine resultIn_some (Datum.Sound.list ?_)
      rw [List.forall_mem_map]
      exact (Datum.sound_map_iff.mp (hroot.at hd)).2.1
    · exact resultIn_none
  · refine resultIn_bind fun start _ => ?_
    split
    · exact resultIn_none
    · refine resultIn_bind fun place _ => resultIn_bind fun way _ => resultIn_bind fun d _ =>
        resultIn_bind fun v hv => ?_
      have hsound := ih.resolve _ _ v hv
      split
      · refine resultIn_some (Datum.Sound.list ?_)
        rw [List.forall_mem_map]
        exact (Datum.sound_map_iff.mp hsound).2.2
      · exact resultIn_none
  · refine resultIn_bind fun e he => resultIn_bind fun d hd => resultIn_some ?_
    exact ih.element _ (sound_element he) d hd
  · exact resultIn_map fun d hd => sound_make harguments d hd

theorem sound_resolve (way : List Nat) (d : Datum) : ResultIn Datum.Sound (resolve s root (fuel + 1) way d) := by
  rw [resolve]
  refine resultIn_bind fun place hplace => ?_
  have hsound := ih.follow _ _ place hplace
  split
  · exact resultIn_some hsound
  · refine resultIn_bind fun d hd => ?_
    have hsound := hroot.at hd
    split
    · exact resultIn_bind fun items hitems => resultIn_some
        (.list (resultIn_mapM (fun _ _ => ih.resolve _ _) _ hitems))
    · rename_i own
      refine resultIn_bind fun entries hentries => resultIn_some (hsound.of_forall₂ ?_)
      rw [← List.zipIdx_map_fst 0 own, List.forall₂_map_left_iff]
      refine forall₂_imp_of_mem (mapM_eq_some_iff.mp hentries) ?_
      rintro e - e' he'
      obtain ⟨v, hv, rfl⟩ := Option.map_eq_some_iff.mp he'
      exact ⟨rfl, ih.resolve _ _ v hv⟩
    · exact resultIn_some hsound

omit ih in
/-- **What is followed in sound data is sound.** -/
theorem followsSound (fuel : Nat) : FollowsSound s root fuel := by
  induction fuel with
  | zero =>
    constructor <;> intros
    · simp only [follow, resultIn_none]
    · simp only [reference, resultIn_none]
    · simp only [select, resultIn_none]
    · simp only [element, resultIn_none]
    · simp only [call, resultIn_none]
    · simp only [resolve, resultIn_none]
  | succ fuel ih =>
    exact {
      follow := sound_follow ih
      reference := sound_reference ih
      select := sound_select ih
      element := sound_elementValue ih
      call := sound_call hroot ih
      resolve := sound_resolve hroot ih }

omit ih in
/-- **The data for which sound data stands** is sound. -/
theorem sound_resolved {d : Datum} (h : resolved s root = some d) : d.Sound :=
  (followsSound hroot _).resolve _ _ d h

end follows

end CommandWrap.Settings
