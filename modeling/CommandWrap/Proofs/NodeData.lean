import CommandWrap.Proofs.FoundData
import CommandWrap.Proofs.ReachedNodes

/-!
# The data of nodes

The data of a node shows what the node holds (`Shows`): a scalar its value, a list the data of its items, and a map
that of its entries, inside the nodes around it.  A node that is met again inside itself shows as a reference back.
Data without such references is shown inside any nodes, so what was found for a node once counts everywhere.  In the
end all nodes below the root show their data (`shows_of_data`).
-/
namespace CommandWrap.Yaml.Builder

variable {schema : Schema} {nodes : Array Node} {b : Builder}

/-- The node is a list of the items. -/
structure IsList (schema : Schema) (b : Builder) (n : Nat) (items : List Nat) : Prop where
  kind : (b.nodeAt n).kind schema = .list
  body : (b.nodeAt n).body = .sequence items

/-- The node is a map of the entries. -/
structure IsMap (schema : Schema) (b : Builder) (n : Nat) (es : List (Nat × Nat)) : Prop where
  kind : (b.nodeAt n).kind schema = .map
  body : (b.nodeAt n).body = .mapping es

/-- The node is a list of pairs, or a map of which only the keys count. -/
def IsSealed (schema : Schema) (b : Builder) (n : Nat) : Prop :=
  (b.nodeAt n).kind schema = .pairs ∨ (b.nodeAt n).kind schema = .keySet

/-- **Data in which no map is**: it is made of texts. -/
inductive OfTexts : Datum → Prop
  | null : OfTexts .null
  | other (text : String) (isEmpty : Bool) : OfTexts (.other text isEmpty)
  | keySet (keys : List Datum) : OfTexts (.keySet keys)
  | list {ds : List Datum} (hitems : ∀ d ∈ ds, ∃ text isEmpty, d = .other text isEmpty) : OfTexts (.list ds)

/-- **The data that a node shows** inside the nodes `ns`. -/
inductive Shows (schema : Schema) (b : Builder) : List Nat → Nat → Datum → Prop
  | scalar {ns : List Nat} {n : Nat} {d : Datum} (hvalue : b.scalars[n]? = some (some d)) : Shows schema b ns n d
  | outside {ns : List Nat} {n : Nat} (hn : b.nodes.size ≤ n) : Shows schema b ns n .null
  | listAgain {ns : List Nat} {n : Nat} (hn : n ∈ ns) : Shows schema b ns n (.listAgain (ns.idxOf n))
  | mapAgain {ns : List Nat} {n : Nat} (hn : n ∈ ns) : Shows schema b ns n (.mapAgain (ns.idxOf n))
  | list {ns items : List Nat} {n : Nat} {ds : List Datum} (hlist : IsList schema b n items)
    (hlength : items.length = ds.length) (hitems : ∀ p ∈ items.zip ds, Shows schema b (n :: ns) p.1 p.2) :
    Shows schema b ns n (.list ds)
  | map {ns : List Nat} {n : Nat} {es : List (Nat × Nat)} {ps : List (Datum × Datum)} (hmap : IsMap schema b n es)
    (hlength : es.length = ps.length) (hkeys : ∀ p ∈ es.zip ps, b.scalars[p.1.1]? = some (some p.2.1))
    (hvalues : ∀ p ∈ es.zip ps, Shows schema b (n :: ns) p.1.2 p.2.2) : Shows schema b ns n (Datum.ofEntries ps)
  | sealed {ns : List Nat} {n : Nat} {d : Datum} (hsealed : IsSealed schema b n) (hd : OfTexts d) :
    Shows schema b ns n d

theorem lt_of_body {n : Nat} {body : NodeBody} (hbody : (b.nodeAt n).body = body)
    (hno : ∀ text isImplicit, body ≠ .scalar text isImplicit) : n < b.nodes.size := by
  refine Nat.lt_of_not_le fun hle => ?_
  rw [nodeAt, Array.getD_eq_getD_getElem?, Array.getElem?_eq_none hle] at hbody
  exact hno _ _ hbody.symm

/-- What was reached in the end: a scalar with its value, a container of which all was reached, or nothing at all. -/
theorem Sound.cases (h : Sound schema nodes [] b) (hempty : b.waiting = []) {n : Nat} (hn : ¬ b.IsFresh n) :
    b.nodes.size ≤ n ∨ (∃ d, b.scalars[n]? = some (some d)) ∨
      (∃ items, IsList schema b n items ∧ ∀ i ∈ items, ¬ b.IsFresh i) ∨
      (∃ es, IsMap schema b n es ∧ ∀ e ∈ es, (∃ d, b.scalars[e.1]? = some (some d)) ∧ ¬ b.IsFresh e.2) ∨
      (b.nodeAt n).kind schema = .pairs ∨ (b.nodeAt n).kind schema = .keySet ∧ (b.nodeAt n).IsMapping := by
  rcases Nat.lt_or_ge n nodes.size with hlt | hge
  · refine .inr ((h.valued n hlt hn).symm.imp_right fun hkind => ?_)
    have hdone : IsExpanded schema b n := by
      rcases h.expanded n hlt hn hkind with hwait | hpending | hdone
      · rw [hempty] at hwait
        cases hwait
      · cases hpending
      · exact hdone
    cases hk : (b.nodeAt n).kind schema with
    | list =>
      obtain ⟨items, hbody, hitems⟩ := hdone.list hk
      exact .inl ⟨items, ⟨hk, hbody⟩, hitems⟩
    | map =>
      obtain ⟨es, hsettled, hes⟩ := hdone.map (.inl hk)
      exact .inr (.inl ⟨es, ⟨hk, hsettled.body⟩, hes⟩)
    | pairs => exact .inr (.inr (.inl rfl))
    | keySet =>
      obtain ⟨es, hsettled, -⟩ := hdone.map (.inr hk)
      exact .inr (.inr (.inr ⟨rfl, es, hsettled.body⟩))
    | _ =>
      rw [hk] at hkind
      cases hkind
  · exact .inl (h.size ▸ hge)

section Sound

variable {n : Nat} (h : Sound schema nodes [] b) (hempty : b.waiting = [])
  (hscalar : ∀ d, b.scalars[n]? ≠ some (some d)) (hn : ¬ b.IsFresh n)

include h hempty hscalar hn

/-- A mapping that is a map. -/
theorem Sound.isMap {es : List (Nat × Nat)} (hkind : (b.nodeAt n).kind schema = .map)
    (hbody : (b.nodeAt n).body = .mapping es) :
    IsMap schema b n es ∧ ∀ e ∈ es, (∃ d, b.scalars[e.1]? = some (some d)) ∧ ¬ b.IsFresh e.2 := by
  rcases h.cases hempty hn with hout | ⟨d, hd⟩ | ⟨items, hlist, -⟩ | ⟨es', hmap, hes⟩ | hpairs | ⟨hset, -⟩
  · exact absurd (lt_of_body hbody (by simp)) (Nat.not_lt.mpr hout)
  · exact absurd hd (hscalar d)
  · cases hkind.symm.trans hlist.kind
  · cases hbody.symm.trans hmap.body
    exact ⟨hmap, hes⟩
  · cases hkind.symm.trans hpairs
  · cases hkind.symm.trans hset

/-- A sequence that holds no pairs. -/
theorem Sound.isList {items : List Nat} (hkind : (b.nodeAt n).kind schema ≠ .pairs)
    (hbody : (b.nodeAt n).body = .sequence items) : IsList schema b n items ∧ ∀ i ∈ items, ¬ b.IsFresh i := by
  rcases h.cases hempty hn with hout | ⟨d, hd⟩ | ⟨items', hlist, hitems⟩ | ⟨es, hmap, -⟩ | hpairs | ⟨-, es, hes⟩
  · exact absurd (lt_of_body hbody (by simp)) (Nat.not_lt.mpr hout)
  · exact absurd hd (hscalar d)
  · cases hbody.symm.trans hlist.body
    exact ⟨hlist, hitems⟩
  · cases hbody.symm.trans hmap.body
  · exact absurd hpairs hkind
  · cases hbody.symm.trans hes

/-- Neither a sequence nor a map. -/
theorem Sound.shows_null (hmap : ∀ es, (b.nodeAt n).kind schema = .map → (b.nodeAt n).body ≠ .mapping es)
    (hlist : ∀ items, (b.nodeAt n).body ≠ .sequence items) (ns : List Nat) : Shows schema b ns n .null := by
  rcases h.cases hempty hn with hout | ⟨d, hd⟩ | ⟨items, hlist', -⟩ | ⟨es, hmap', -⟩ | hpairs | ⟨hset, -⟩
  · exact .outside hout
  · exact absurd hd (hscalar d)
  · exact absurd hlist'.body (hlist items)
  · exact absurd hmap'.body (hmap es hmap'.kind)
  · exact .sealed (.inl hpairs) .null
  · exact .sealed (.inr hset) .null

end Sound

/-! ## Unfolding -/

/-- What holds of the data that is found for a node: once it was reached, it shows the data inside any nodes. -/
def ShowsAnywhere (schema : Schema) (b : Builder) (n : Nat) (d : Datum) : Prop :=
  ¬ b.IsFresh n → ∀ ns, Shows schema b ns n d

/-- **What a node unfolds to** inside the nodes `ns`: its value, or data that it shows, anywhere if it is free. -/
structure UnfoldsTo (schema : Schema) (b : Builder) (ns : List Nat) (n : Nat) (r : Datum × Bool) : Prop where
  value : ∀ d, b.scalars[n]? = some (some d) → r.1 = d
  shows : ¬ b.IsFresh n → Shows schema b ns n r.1
  free : r.2 = true → ShowsAnywhere schema b n r.1

/-- What the nodes of an entry unfold to. -/
def EntryUnfoldsTo (schema : Schema) (b : Builder) (ns : List Nat) (e : Nat × Nat) (r : (Datum × Datum) × Bool) :
    Prop :=
  ∃ isFreeKey isFree, UnfoldsTo schema b ns e.1 (r.1.1, isFreeKey) ∧ UnfoldsTo schema b ns e.2 (r.1.2, isFree) ∧
    (r.2 = true → isFree = true)

theorem rel_of_mem_zip_map {α β γ : Type} {R : α → β → Prop} {f : β → γ} {xs : List α} {ys : List β}
    (h : List.Forall₂ R xs ys) {p : α × γ} (hp : p ∈ xs.zip (ys.map f)) : ∃ y ∈ ys, R p.1 y ∧ p.2 = f y := by
  rw [List.zip_map_right, List.mem_map] at hp
  obtain ⟨⟨x, y⟩, hxy, rfl⟩ := hp
  exact ⟨y, (List.of_mem_zip hxy).2, (List.forall₂_iff_zip.mp h).2 hxy, rfl⟩

section unfold

variable {ns items : List Nat} {n : Nat} {es : List (Nat × Nat)}

theorem unfoldsTo_list (hscalar : ∀ d, b.scalars[n]? ≠ some (some d))
    (hlist : ¬ b.IsFresh n → IsList schema b n items ∧ ∀ i ∈ items, ¬ b.IsFresh i) {rs : List (Datum × Bool)}
    (hrs : List.Forall₂ (UnfoldsTo schema b (n :: ns)) items rs) :
    UnfoldsTo schema b ns n (.list (rs.map (·.1)), rs.all (·.2)) := by
  have hlength : items.length = (rs.map (·.1)).length := by rw [List.length_map, hrs.length_eq]
  refine ⟨fun d hd => absurd hd (hscalar d), fun hn => ?_, fun hfree hn ns' => ?_⟩
  · obtain ⟨hlist, hreached⟩ := hlist hn
    refine .list hlist hlength fun p hp => ?_
    obtain ⟨r, hr, hunfolds, hd⟩ := rel_of_mem_zip_map hrs hp
    exact hd ▸ hunfolds.shows (hreached p.1 (List.of_mem_zip hp).1)
  · obtain ⟨hlist, hreached⟩ := hlist hn
    refine .list hlist hlength fun p hp => ?_
    obtain ⟨r, hr, hunfolds, hd⟩ := rel_of_mem_zip_map hrs hp
    exact hd ▸ hunfolds.free (List.all_eq_true.mp hfree r hr) (hreached p.1 (List.of_mem_zip hp).1) _

theorem unfoldsTo_map (hscalar : ∀ d, b.scalars[n]? ≠ some (some d))
    (hmap : ¬ b.IsFresh n → IsMap schema b n es ∧
      ∀ e ∈ es, (∃ d, b.scalars[e.1]? = some (some d)) ∧ ¬ b.IsFresh e.2) {rs : List ((Datum × Datum) × Bool)}
    (hrs : List.Forall₂ (EntryUnfoldsTo schema b (n :: ns)) es rs) :
    UnfoldsTo schema b ns n (Datum.ofEntries (rs.map (·.1)), rs.all (·.2)) := by
  have hlength : es.length = (rs.map (·.1)).length := by rw [List.length_map, hrs.length_eq]
  have hkeys (hn : ¬ b.IsFresh n) (p : (Nat × Nat) × Datum × Datum) (hp : p ∈ es.zip (rs.map (·.1))) :
      b.scalars[p.1.1]? = some (some p.2.1) := by
    obtain ⟨r, -, ⟨isFreeKey, isFree, hkey, -⟩, hd⟩ := rel_of_mem_zip_map hrs hp
    obtain ⟨⟨d, hvalue⟩, -⟩ := (hmap hn).2 p.1 (List.of_mem_zip hp).1
    rw [hvalue, hd, hkey.value d hvalue]
  refine ⟨fun d hd => absurd hd (hscalar d), fun hn => ?_, fun hfree hn ns' => ?_⟩
  · refine .map (hmap hn).1 hlength (hkeys hn) fun p hp => ?_
    obtain ⟨r, hr, ⟨isFreeKey, isFree, -, hvalue, -⟩, hd⟩ := rel_of_mem_zip_map hrs hp
    exact hd ▸ hvalue.shows ((hmap hn).2 p.1 (List.of_mem_zip hp).1).2
  · refine .map (hmap hn).1 hlength (hkeys hn) fun p hp => ?_
    obtain ⟨r, hr, ⟨isFreeKey, isFree, -, hvalue, hall⟩, hd⟩ := rel_of_mem_zip_map hrs hp
    have hfree := hall (List.all_eq_true.mp hfree r hr)
    exact hd ▸ hvalue.free hfree ((hmap hn).2 p.1 (List.of_mem_zip hp).1).2 _

/-- A node that shows its data whatever is around it. -/
theorem unfoldsTo_of_shows {d : Datum} {isFree : Bool} (hscalar : ∀ d', b.scalars[n]? = some (some d') → d = d')
    (h : ShowsAnywhere schema b n d) : UnfoldsTo schema b ns n (d, isFree) :=
  ⟨hscalar, fun hn => h hn ns, fun _ => h⟩

theorem length_le_of_nodup (hnodup : ns.Nodup) {size : Nat} (hrange : ∀ m ∈ ns, m < size) : ns.length ≤ size := by
  have hsub : ns ⊆ List.range size := fun m hm => List.mem_range.mpr (hrange m hm)
  simpa using (hnodup.subperm hsub).length_le

/-- A list of pairs or a map that counts only its keys: whatever texts it unfolds to, it shows. -/
theorem unfoldsTo_sealed (hscalar : ∀ d, b.scalars[n]? ≠ some (some d)) (hkind : IsSealed schema b n) {d : Datum}
    (hd : OfTexts d) {isFree : Bool} : UnfoldsTo schema b ns n (d, isFree) :=
  unfoldsTo_of_shows (fun d' hd' => absurd hd' (hscalar d')) fun _ _ => .sealed hkind hd

/-- A node that is met again inside itself refers back to where it is. -/
theorem unfoldsTo_again (hscalar : ∀ d, b.scalars[n]? ≠ some (some d)) (hmem : n ∈ ns) {kind : NodeKind}
    (hkind : (b.nodeAt n).kind schema = kind) :
    UnfoldsTo schema b ns n (if kind = .map then .mapAgain (ns.idxOf n)
      else if kind = .keySet then .other "set(...)" false else .listAgain (ns.idxOf n), false) := by
  refine ⟨fun d hd => absurd hd (hscalar d), fun _ => ?_, fun hfree => absurd hfree Bool.false_ne_true⟩
  dsimp only
  split_ifs with hmap hset
  · exact .mapAgain hmem
  · exact .sealed (.inr (hkind.trans hset)) (.other ..)
  · exact .listAgain hmem

/-- An entry unfolds once its key and its value do. -/
theorem yields_entryUnfoldsTo {inner : Nat → Found (Datum × Bool)} (e : Nat × Nat)
    (hinner : ∀ m, Yields (ShowsAnywhere schema b) (UnfoldsTo schema b ns m) (inner m)) :
    Yields (ShowsAnywhere schema b) (EntryUnfoldsTo schema b ns e) (do
      let k ← inner e.1
      let v ← inner e.2
      return ((k.1, v.1), k.2 && v.2)) :=
  yields_bind (hinner e.1) fun k hk => yields_bind (hinner e.2) fun v hv =>
    yields_pure ⟨k.2, v.2, hk, hv, fun hall => (Bool.and_eq_true_iff.mp hall).2⟩

/-- **Unfolding a node.**  The nodes around it differ, so the fuel is enough for all nodes in it. -/
theorem yields_unfoldsTo (h : Sound schema nodes [] b) (hempty : b.waiting = []) (fuel : Nat) (hnodup : ns.Nodup)
    (hrange : ∀ m ∈ ns, m < b.nodes.size) (hfuel : b.nodes.size < fuel + ns.length) :
    Yields (ShowsAnywhere schema b) (UnfoldsTo schema b ns n) (unfold schema b fuel ns n) := by
  -- by induction on the fuel, for all nodes around: each level has one more of them
  induction fuel generalizing ns n with
  | zero =>
    have hle := length_le_of_nodup hnodup hrange
    omega
  | succ fuel ih =>
    have hlast {r : Datum × Bool} (hr : UnfoldsTo schema b ns n r) :=
      yields_last (ShowsAnywhere schema b) n hr hr.free
    rw [Yaml.unfold]
    split
    · rename_i d hd
      have hvalue := getElem?_of_getD hd
      refine yields_pure (unfoldsTo_of_shows (fun d' hd' => ?_) fun _ ns => .scalar hvalue)
      cases hvalue.symm.trans hd'
      rfl
    rename_i hnone
    have hscalar (d : Datum) : b.scalars[n]? ≠ some (some d) := by
      intro hd
      refine hnone d ?_
      rw [Array.getD_eq_getD_getElem?, hd]
      rfl
    refine yields_get fun found hfound => ?_
    split
    · rename_i d hd
      exact yields_pure (unfoldsTo_of_shows (fun d' hd' => absurd hd' (hscalar d')) (hfound n d (getElem?_of_getD hd)))
    dsimp only
    split
    · exact yields_pure (unfoldsTo_again hscalar (List.contains_iff_mem.mp ‹_›) rfl)
    rename_i houtside
    have hinner (hn : n < b.nodes.size) (m : Nat) : Yields (ShowsAnywhere schema b) (UnfoldsTo schema b (n :: ns) m)
        (unfold schema b fuel (n :: ns) m) := by
      have hfresh : n ∉ ns := fun hn => houtside (List.contains_iff_mem.mpr hn)
      exact ih (List.nodup_cons.mpr ⟨hfresh, hnodup⟩) (List.forall_mem_cons.mpr ⟨hn, hrange⟩)
        (by rw [List.length_cons]; omega)
    split
    · rename_i es hkind hbody
      have hn := lt_of_body hbody (by simp)
      refine yields_bind (yields_forall₂ fun e _ => yields_entryUnfoldsTo e (hinner hn)) fun rs hrs => hlast ?_
      exact unfoldsTo_map hscalar (fun hn => h.isMap hempty hscalar hn hkind hbody) hrs
    · rename_i es hkind hbody
      have hn := lt_of_body hbody (by simp)
      refine yields_bind (yields_forall₂ fun e _ => yields_entryUnfoldsTo e (hinner hn)) fun rs hrs => hlast ?_
      exact unfoldsTo_sealed hscalar (.inr hkind) (.keySet _)
    · rename_i items hkind hbody
      have hn := lt_of_body hbody (by simp)
      refine yields_bind (yields_mapM (Q := fun _ => True) fun item _ => ?_) fun rs _ => hlast ?_
      · split
        · exact fun found hfound => ⟨trivial, (yields_entryUnfoldsTo _ (hinner hn) found hfound).2⟩
        · exact yields_pure trivial
      · refine unfoldsTo_sealed hscalar (.inl hkind) (.list ?_)
        rw [List.forall_mem_map]
        exact fun r _ => ⟨_, _, rfl⟩
    · rename_i items hbody hpairs
      have hn := lt_of_body hbody (by simp)
      refine yields_bind (yields_forall₂ fun item _ => hinner hn item) fun rs hrs => hlast ?_
      exact unfoldsTo_list hscalar (fun hn => h.isList hempty hscalar hn hpairs hbody) hrs
    · rename_i hlist hmap hset hpairs
      exact hlast (unfoldsTo_of_shows (fun d hd => absurd hd (hscalar d)) fun hn =>
        h.shows_null hempty hscalar hn hmap hlist)

end unfold

/-- **The data of a document** is what its root shows in the end. -/
theorem shows_of_data {g : NodeGraph} {root : Nat} {d : Datum} (hroot : g.root? = some root)
    (hdata : g.data schema = .ok d) : ∃ b, Builds schema g.nodes root b ∧ Shows schema b [] root d := by
  rw [NodeGraph.data, hroot] at hdata
  obtain ⟨⟨⟨⟩, b⟩, hrun, hd⟩ := bind_eq_ok_iff.mp hdata
  have hbuilds : Builds schema g.nodes root b := hrun
  obtain ⟨hsound, hempty, hfresh⟩ := hbuilds.sound
  have hfuel : b.nodes.size < g.nodes.size + 1 + ([] : List Nat).length := by
    rw [hsound.size, List.length_nil]
    omega
  obtain ⟨hunfolds, -⟩ := yields_unfoldsTo (n := root) hsound hempty (g.nodes.size + 1) List.nodup_nil
    (List.forall_mem_nil _) hfuel _ (foundIn_start _ g.nodes.size)
  cases hd
  exact ⟨b, hbuilds, hunfolds.shows hfresh⟩

end CommandWrap.Yaml.Builder
