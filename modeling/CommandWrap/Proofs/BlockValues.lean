import CommandWrap.Proofs.BlockNodes

/-!
# The data of blocks

A node that stands for data gives this data when the document is built.  Every node is reached level by level:
the containers that wait at a level have larger numbers than those before, so the levels come to an end.
The main result is `data_eq`.
-/
namespace CommandWrap

/-! ## Maps of different texts -/

namespace Datum

theorem insertEntry_new {k v : Datum} {es : List (Datum × Datum)} (h : ∀ e ∈ es, sameKey e.1 k = false) :
    insertEntry k v es = es ++ [(k, v)] := by
  induction es with
  | nil => rfl
  | cons e es ih =>
    rw [List.forall_mem_cons] at h
    rw [insertEntry, h.1, ih h.2]
    rfl

/-- A map of different texts holds its entries in their order. -/
theorem ofEntries_eq {ps : List (Datum × Datum)} (h : Yaml.IsRecord ps) : ofEntries ps = .map ps := by
  have hfold {add : List (Datum × Datum) → Datum × Datum → List (Datum × Datum)}
      (hadd : ∀ es k v, add es (k, v) = insertEntry k v es) (ps es : List (Datum × Datum))
      (htexts : ∀ p ∈ es ++ ps, ∃ k, p.1 = .text k) (hdistinct : (es ++ ps).Pairwise fun p q => p.1 ≠ q.1) :
      ps.foldl add es = es ++ ps := by
    induction ps generalizing es with
    | nil => rw [List.foldl_nil, List.append_nil]
    | cons p ps ih =>
      obtain ⟨k, v⟩ := p
      have hnew : ∀ e ∈ es, sameKey e.1 k = false := by
        intro e he
        obtain ⟨s, hs⟩ := htexts e (List.mem_append_left _ he)
        obtain ⟨t, rfl⟩ := htexts (k, v) (by simp)
        have hne := (List.pairwise_append.mp hdistinct).2.2 e he (.text t, v) List.mem_cons_self
        rw [hs] at hne ⊢
        exact beq_eq_false_iff_ne.mpr fun heq => hne (congrArg Datum.text heq)
      have hsame : es ++ (k, v) :: ps = (es ++ [(k, v)]) ++ ps := by simp
      rw [hsame] at htexts hdistinct ⊢
      rw [List.foldl_cons, hadd, insertEntry_new hnew, ih _ htexts hdistinct]
  exact congrArg Datum.map (hfold (fun _ _ _ => rfl) ps [] h.isText h.distinct)

end Datum

namespace Yaml

variable {schema : Schema} {nodes : Array Node}

theorem eq_of_zip {α β : Type} {xs : List α} {ys zs : List β} (hys : xs.length = ys.length) (hzs : xs.length = zs.length)
    (h : ∀ x y z, (x, y) ∈ xs.zip ys → (x, z) ∈ xs.zip zs → y = z) : ys = zs := by
  induction xs generalizing ys zs with
  | nil => rw [List.length_eq_zero_iff.mp hys.symm, List.length_eq_zero_iff.mp hzs.symm]
  | cons x xs ih =>
    obtain ⟨y, ys, rfl⟩ := List.exists_cons_of_length_eq_add_one hys.symm
    obtain ⟨z, zs, rfl⟩ := List.exists_cons_of_length_eq_add_one hzs.symm
    obtain rfl := h x y z List.mem_cons_self List.mem_cons_self
    rw [ih (Nat.succ.inj hys) (Nat.succ.inj hzs) fun x y z hy hz =>
      h x y z (List.mem_cons_of_mem _ hy) (List.mem_cons_of_mem _ hz)]

theorem exists_mem_zip {α β : Type} {xs : List α} {ys : List β} (h : xs.length = ys.length) {x : α} (hx : x ∈ xs) :
    ∃ y, (x, y) ∈ xs.zip ys := by
  rw [← List.map_fst_zip h.le, List.mem_map] at hx
  obtain ⟨⟨_, y⟩, hmem, rfl⟩ := hx
  exact ⟨y, hmem⟩

namespace Means

/-- A node stands for one piece of data only. -/
theorem unique {i : Nat} {d d' : Datum} (h : Means schema nodes i d) (h' : Means schema nodes i d') : d = d' := by
  induction h generalizing d' with
  | text hnode hkind =>
    cases h' with
    | text hnode' => cases hnode.symm.trans hnode'; rfl
    | list hnode' => cases hnode.symm.trans hnode'
    | map hnode' => cases hnode.symm.trans hnode'
  | list hnode hbehind hlength hitems ih =>
    cases h' with
    | text hnode' => cases hnode.symm.trans hnode'
    | list hnode' _ hlength' hitems' =>
      cases hnode.symm.trans hnode'
      exact congrArg Datum.list (eq_of_zip hlength hlength' fun j d d' hd hd' => ih _ hd (hitems' _ hd'))
    | map hnode' => cases hnode.symm.trans hnode'
  | map hnode hrecord hbehind hlength hkeys hvalues ihKeys ihValues =>
    cases h' with
    | text hnode' => cases hnode.symm.trans hnode'
    | list hnode' => cases hnode.symm.trans hnode'
    | map hnode' _ _ hlength' hkeys' hvalues' =>
      cases hnode.symm.trans hnode'
      exact congrArg Datum.map (eq_of_zip hlength hlength' fun e p p' hp hp' =>
        Prod.ext (ihKeys _ hp (hkeys' _ hp')) (ihValues _ hp (hvalues' _ hp')))

end Means

/-! ## Reaching the nodes -/

namespace Builder

/-- Was the node reached? -/
def IsReached (b : Builder) (j : Nat) : Prop :=
  b.reached[j]? = some true

/-- **What is kept while nodes are reached**: the nodes stay as they are, and the scalars that were reached have
their values. -/
structure Holds (schema : Schema) (nodes : Array Node) (b : Builder) : Prop where
  same : b.nodes = nodes
  reachedSize : b.reached.size = nodes.size
  scalarsSize : b.scalars.size = nodes.size
  scalar : ∀ j s, Means schema nodes j (.text s) → IsReached b j → b.scalars[j]? = some (some (.text s))
  container : ∀ j d, Means schema nodes j d → (∀ s, d ≠ .text s) → b.scalars[j]? = some none

/-- **What one step adds**: every node it reaches waits if it is a container, and waiting nodes have numbers from
`least` on. -/
structure Grows (schema : Schema) (nodes : Array Node) (least : Nat) (b b' : Builder) : Prop where
  reached : ∀ j, IsReached b j → IsReached b' j
  fresh : ∀ j, IsReached b' j → IsReached b j ∨ j ∈ b'.waiting ∨ ∃ s, Means schema nodes j (.text s)
  keeps : ∀ j ∈ b.waiting, j ∈ b'.waiting
  waiting : ∀ j ∈ b'.waiting, j ∈ b.waiting ∨ least ≤ j ∧ ∃ d, Means schema nodes j d ∧ ∀ s, d ≠ .text s

variable {least : Nat} {b b' b'' : Builder}

theorem Grows.refl (b : Builder) : Grows schema nodes least b b :=
  ⟨fun _ => id, fun _ => .inl, fun _ => id, fun _ => .inl⟩

theorem Grows.trans (h : Grows schema nodes least b b') (h' : Grows schema nodes least b' b'') :
    Grows schema nodes least b b'' := by
  refine ⟨fun j hj => h'.reached j (h.reached j hj), fun j hj => ?_, fun j hj => h'.keeps j (h.keeps j hj),
    fun j hj => ?_⟩
  · rcases h'.fresh j hj with hj | hj | hj
    · exact (h.fresh j hj).imp_right (Or.imp_left (h'.keeps j))
    · exact .inr (.inl hj)
    · exact .inr (.inr hj)
  · rcases h'.waiting j hj with hj | hj
    · exact h.waiting j hj
    · exact .inr hj

theorem Grows.mono {more : Nat} (h : Grows schema nodes more b b') (hle : least ≤ more) :
    Grows schema nodes least b b' :=
  ⟨h.reached, h.fresh, h.keeps, fun j hj => (h.waiting j hj).imp_right fun hj => ⟨hle.trans hj.1, hj.2⟩⟩

theorem kind_scalar {s : String} {isImplicit : Bool} (h : isImplicit = true → schema.kindOf s = .text) :
    ({ body := .scalar s isImplicit } : Node).kind schema = .scalar .text := by
  cases isImplicit with
  | false => rfl
  | true => exact congrArg NodeKind.scalar (h rfl)

theorem isReached_set {i : Nat} (h : i < b.reached.size) (j : Nat) :
    (b.reached.set! i true)[j]? = some true ↔ j = i ∨ IsReached b j := by
  rw [Array.set!_eq_setIfInBounds, Array.getElem?_setIfInBounds]
  by_cases hij : i = j
  · subst hij
    simp [h]
  · simp [hij, Ne.symm hij, IsReached]

/-- A text that is reached has its value. -/
theorem Holds.reachText (hb : Holds schema nodes b) {i : Nat} {s : String} (h : Means schema nodes i (.text s)) :
    let b' := { b with scalars := b.scalars.set! i (some (.text s)), reached := b.reached.set! i true }
    Holds schema nodes b' ∧ Grows schema nodes i b b' ∧ IsReached b' i := by
  have hreached : i < b.reached.size := hb.reachedSize ▸ h.lt_size
  have hscalar : i < b.scalars.size := hb.scalarsSize ▸ h.lt_size
  have hset (j : Nat) := isReached_set hreached j
  refine ⟨⟨hb.same, by simp [hb.reachedSize], by simp [hb.scalarsSize], fun j s' hj hj' => ?_, fun j d hj hd => ?_⟩,
    ⟨fun j hj => (hset j).mpr (.inr hj), fun j hj => ?_, fun _ => id, fun _ => .inl⟩, (hset i).mpr (.inl rfl)⟩
  · rw [Array.set!_eq_setIfInBounds, Array.getElem?_setIfInBounds]
    by_cases hij : i = j
    · subst hij
      simp [hscalar, hj.unique h]
    · rw [if_neg hij]
      exact hb.scalar j s' hj (((hset j).mp hj').resolve_left (Ne.symm hij))
  · rw [Array.set!_eq_setIfInBounds, Array.getElem?_setIfInBounds, if_neg]
    · exact hb.container j d hj hd
    · rintro rfl
      exact hd s (hj.unique h)
  · rcases (hset j).mp hj with rfl | hj
    · exact .inr (.inr ⟨s, h⟩)
    · exact .inl hj

/-- A container that is reached waits. -/
theorem Holds.reachContainer (hb : Holds schema nodes b) {i : Nat} {d : Datum} (h : Means schema nodes i d)
    (hd : ∀ s, d ≠ .text s) :
    let b' := { b with reached := b.reached.set! i true, waiting := i :: b.waiting }
    Holds schema nodes b' ∧ Grows schema nodes i b b' ∧ IsReached b' i := by
  have hreached : i < b.reached.size := hb.reachedSize ▸ h.lt_size
  have hset (j : Nat) := isReached_set hreached j
  refine ⟨⟨hb.same, by simp [hb.reachedSize], hb.scalarsSize, fun j s hj hj' => ?_, hb.container⟩,
    ⟨fun j hj => (hset j).mpr (.inr hj), fun j hj => ?_, fun j => List.mem_cons_of_mem i, fun j hj => ?_⟩,
    (hset i).mpr (.inl rfl)⟩
  · refine hb.scalar j s hj (((hset j).mp hj').resolve_left ?_)
    rintro rfl
    exact hd s (h.unique hj)
  · rcases (hset j).mp hj with rfl | hj
    · exact .inr (.inl List.mem_cons_self)
    · exact .inl hj
  · rcases List.mem_cons.mp hj with rfl | hj
    · exact .inr ⟨Nat.le_refl _, d, h, hd⟩
    · exact .inl hj

/-- **A node that stands for data** is reached. -/
theorem run_reach (hb : Holds schema nodes b) {i : Nat} {d : Datum} (h : Means schema nodes i d) :
    ∃ b', (reach schema i).run b = .ok ((), b') ∧ Holds schema nodes b' ∧ Grows schema nodes i b b' ∧ IsReached b' i := by
  by_cases hreached : IsReached b i
  · -- a node that was reached before is left as it is
    have hget : b.reached[i]?.getD true = true := by rw [hreached]; rfl
    refine ⟨b, ?_, hb, .refl b, hreached⟩
    simp [reach, hget]
    rfl
  · have hlt : i < b.reached.size := hb.reachedSize ▸ h.lt_size
    have hget : b.reached[i]?.getD true = false := by
      rw [IsReached, Array.getElem?_eq_getElem hlt] at hreached
      rw [Array.getElem?_eq_getElem hlt]
      simpa using hreached
    cases h with
    | @text _ s isImplicit hnode hkind =>
      have hn : b.nodes[i]? = some { body := .scalar s isImplicit } := hb.same ▸ hnode
      have hk := kind_scalar hkind
      refine ⟨_, ?_, hb.reachText (.text hnode hkind)⟩
      simp [reach, hget, kind, node, textOf, scalarOf, hn, hk]
    | @list _ items ds hnode hbehind hlength hitems =>
      have hn : b.nodes[i]? = some { body := .sequence items } := hb.same ▸ hnode
      have hk : ({ body := .sequence items } : Node).kind schema = .list := rfl
      refine ⟨_, ?_, hb.reachContainer (.list hnode hbehind hlength hitems) fun s => by simp⟩
      simp [reach, hget, kind, node, hn, hk]
      rfl
    | @map _ es ps hnode hrecord hbehind hlength hkeys hvalues =>
      have hn : b.nodes[i]? = some { body := .mapping es } := hb.same ▸ hnode
      have hk : ({ body := .mapping es } : Node).kind schema = .map := rfl
      refine ⟨_, ?_, hb.reachContainer (.map hnode hrecord hbehind hlength hkeys hvalues) fun s => by simp⟩
      simp [reach, hget, kind, node, hn, hk]
      rfl

/-- One step after the other. -/
theorem run_forM {α : Type} (least : Nat) (f : α → M Unit) (done : α → Builder → Prop) {xs : List α}
    (hdone : ∀ x b b', Grows schema nodes least b b' → done x b → done x b')
    (hstep : ∀ x ∈ xs, ∀ b, Holds schema nodes b →
      ∃ b', (f x).run b = .ok ((), b') ∧ Holds schema nodes b' ∧ Grows schema nodes least b b' ∧ done x b')
    (hb : Holds schema nodes b) :
    ∃ b', (xs.forM f).run b = .ok ((), b') ∧ Holds schema nodes b' ∧ Grows schema nodes least b b' ∧
      ∀ x ∈ xs, done x b' := by
  induction xs generalizing b with
  | nil => exact ⟨b, rfl, hb, .refl b, List.forall_mem_nil _⟩
  | cons x xs ih =>
    rw [List.forall_mem_cons] at hstep
    obtain ⟨b₁, hrun, hb₁, hgrows, hx⟩ := hstep.1 b hb
    obtain ⟨b₂, hrun', hb₂, hgrows', hxs⟩ := ih hstep.2 hb₁
    refine ⟨b₂, ?_, hb₂, hgrows.trans hgrows', List.forall_mem_cons.mpr ⟨hdone x _ _ hgrows' hx, hxs⟩⟩
    change (f x >>= fun _ => xs.forM f).run b = _
    rw [StateT.run_bind, hrun, bind_ok]
    exact hrun'

/-- Reach the nodes of an entry; the first must be a scalar. -/
def reachEntry (schema : Schema) (e : Nat × Nat) : M Unit := do
  reach schema e.1
  if !(← isKey e.1) then malformed
  reach schema e.2

theorem run_reachEntry {e : Nat × Nat} {s : String} {d : Datum} (hb : Holds schema nodes b)
    (hkey : Means schema nodes e.1 (.text s)) (hvalue : Means schema nodes e.2 d) (hle : least ≤ e.1 ∧ least ≤ e.2) :
    ∃ b', (reachEntry schema e).run b = .ok ((), b') ∧ Holds schema nodes b' ∧ Grows schema nodes least b b' ∧
      IsReached b' e.1 ∧ IsReached b' e.2 := by
  obtain ⟨b₁, hrun, hb₁, hgrows, hk⟩ := run_reach hb hkey
  obtain ⟨b₂, hrun', hb₂, hgrows', hv⟩ := run_reach hb₁ hvalue
  refine ⟨b₂, ?_, hb₂, (hgrows.mono hle.1).trans (hgrows'.mono hle.2), hgrows'.reached _ hk, hv⟩
  have hscalar := hb₁.scalar _ _ hkey hk
  simp [reachEntry, hrun, isKey, hscalar, hrun', bind_ok]

/-- Nothing is merged into a mapping whose keys are texts. -/
theorem run_mergeFrom {i : Nat} {es : List (Nat × Nat)} (hnode : b.nodes[i]? = some { body := .mapping es })
    (hmarks : ∀ e ∈ es, b.isMark schema e.1 = false) (fuel : Nat) :
    (mergeFrom schema (fuel + 1) i 0 []).run b = .ok ((), b) := by
  have hindex : es.findIdx (fun e => b.isMark schema e.1) = es.length := by
    rw [List.findIdx_eq_length]
    exact hmarks
  simp [mergeFrom, entries, node, hnode, hindex]
  rfl

/-- A step that only looks at the nodes. -/
def Looks {α : Type} (b : Builder) (x : M α) : Prop :=
  ∃ y, x.run b = .ok (y, b)

theorem looks_pure {α : Type} (y : α) : Looks b (pure y) :=
  ⟨y, rfl⟩

theorem looks_bind {α β : Type} {x : M α} {f : α → M β} (hx : Looks b x) (hf : ∀ y, Looks b (f y)) :
    Looks b (x >>= f) := by
  obtain ⟨y, hy⟩ := hx
  obtain ⟨z, hz⟩ := hf y
  exact ⟨z, by rw [StateT.run_bind, hy, bind_ok, hz]⟩

theorem looks_filterMapM {α β : Type} {f : α → M (Option β)} (hf : ∀ x, Looks b (f x)) (xs : List α) :
    Looks b (xs.filterMapM f) := by
  have hloop (found : List β) : Looks b (List.filterMapM.loop f xs found) := by
    induction xs generalizing found with
    | nil => exact looks_pure found.reverse
    | cons x xs ih =>
      refine looks_bind (hf x) fun y => ?_
      cases y with
      | none => exact ih found
      | some y => exact ih (y :: found)
  exact hloop []

theorem looks_node (i : Nat) : Looks b (node i) :=
  ⟨_, rfl⟩

/-- Whether keys are repeated is looked up, whatever comes of it. -/
theorem looks_hasRepeatedKey (es : List (Nat × Nat)) : Looks b (hasRepeatedKey schema es) := by
  rw [hasRepeatedKey]
  refine looks_bind (looks_filterMapM (fun e => ?_) es) fun _ => looks_pure _
  refine looks_bind (looks_node e.1) fun n => ?_
  split
  · exact looks_pure _
  · exact looks_pure _

theorem run_mergeFuel (b : Builder) : ∃ fuel, mergeFuel.run b = .ok (fuel + 1, b) := by
  obtain ⟨fuel, hfuel, hpos⟩ : ∃ fuel, mergeFuel.run b = .ok (fuel, b) ∧ 0 < fuel := ⟨_, rfl, by omega⟩
  obtain ⟨fuel, rfl⟩ := Nat.exists_eq_add_one.mpr hpos
  exact ⟨fuel, hfuel⟩

theorem not_isMark (hb : Holds schema nodes b) {i : Nat} {s : String} (h : Means schema nodes i (.text s)) :
    b.isMark schema i = false := by
  cases h with
  | @text _ _ isImplicit hnode hkind =>
    have hn : b.nodes[i]? = some { body := .scalar s isImplicit } := hb.same ▸ hnode
    have hk := kind_scalar hkind
    simp [isMark, hn, hk]

/-- The nodes directly below a node. -/
def below (nodes : Array Node) (i : Nat) : List Nat :=
  match (nodes.getD i default).body with
  | .scalar _ _ => []
  | .sequence items => items
  | .mapping es => es.flatMap fun e => [e.1, e.2]

theorem below_text {i : Nat} {s : String} (h : Means schema nodes i (.text s)) : below nodes i = [] := by
  cases h with
  | text hnode => simp [below, hnode]

theorem below_sequence {i : Nat} {items : List Nat} (h : nodes[i]? = some { body := .sequence items }) :
    below nodes i = items := by
  simp [below, h]

theorem mem_below_mapping {i : Nat} {es : List (Nat × Nat)} (h : nodes[i]? = some { body := .mapping es }) (j : Nat) :
    j ∈ below nodes i ↔ ∃ e ∈ es, j = e.1 ∨ j = e.2 := by
  have hbelow : below nodes i = es.flatMap fun e => [e.1, e.2] := by simp [below, h]
  simp [hbelow]

/-- A sequence that is looked at reaches its items. -/
theorem run_expand_sequence (hb : Holds schema nodes b) {i : Nat} {items : List Nat}
    (hnode : b.nodes[i]? = some { body := .sequence items }) (hbehind : ∀ j ∈ items, i < j)
    (hmeans : ∀ j ∈ items, ∃ d, Means schema nodes j d) :
    ∃ b', (expand schema i).run b = .ok ((), b') ∧ Holds schema nodes b' ∧ Grows schema nodes (i + 1) b b' ∧
      ∀ j ∈ items, IsReached b' j := by
  obtain ⟨b', hrun, hb', hgrows, hreached⟩ := run_forM (i + 1) (reach schema) (fun j b => IsReached b j)
    (fun _ _ _ hgrows => hgrows.reached _) (fun j hj b hb => by
      obtain ⟨d, hd⟩ := hmeans j hj
      obtain ⟨b', hrun, hb', hgrows, hj'⟩ := run_reach hb hd
      exact ⟨b', hrun, hb', hgrows.mono (hbehind j hj), hj'⟩) hb
  refine ⟨b', ?_, hb', hgrows, hreached⟩
  have hkind : ({ body := .sequence items } : Node).kind schema = .list := rfl
  have hitems : (forM items (reach schema)).run b = .ok ((), b') := hrun
  simp [expand, kind, node, hnode, hkind, hitems]

/-- A mapping that is looked at reaches the nodes of its entries; nothing is merged into it. -/
theorem run_expand_mapping (hunique : schema.hasUniqueKeys = false) (hb : Holds schema nodes b) {i : Nat}
    {es : List (Nat × Nat)} (hnode : b.nodes[i]? = some { body := .mapping es })
    (hbehind : ∀ e ∈ es, i < e.1 ∧ i < e.2)
    (hmeans : ∀ e ∈ es, (∃ s, Means schema nodes e.1 (.text s)) ∧ ∃ d, Means schema nodes e.2 d) :
    ∃ b', (expand schema i).run b = .ok ((), b') ∧ Holds schema nodes b' ∧ Grows schema nodes (i + 1) b b' ∧
      ∀ e ∈ es, IsReached b' e.1 ∧ IsReached b' e.2 := by
  obtain ⟨b', hrun, hb', hgrows, hreached⟩ := run_forM (i + 1) (reachEntry schema)
    (fun e b => IsReached b e.1 ∧ IsReached b e.2)
    (fun _ _ _ hgrows => And.imp (hgrows.reached _) (hgrows.reached _)) (fun e he b hb => by
      obtain ⟨⟨s, hkey⟩, d, hvalue⟩ := hmeans e he
      exact run_reachEntry hb hkey hvalue (hbehind e he)) hb
  refine ⟨b', ?_, hb', hgrows, hreached⟩
  have hkind : ({ body := .mapping es } : Node).kind schema = .map := rfl
  have hmarks : ∀ e ∈ es, b.isMark schema e.1 = false := by
    intro e he
    obtain ⟨⟨s, hkey⟩, -⟩ := hmeans e he
    exact not_isMark hb hkey
  -- the schema does not ask whether keys are repeated, but they are looked up all the same
  obtain ⟨isRepeated, hrepeated⟩ : Looks b (hasRepeatedKey schema es) := looks_hasRepeatedKey es
  obtain ⟨fuel, hfuel⟩ := run_mergeFuel b
  have hmerge := run_mergeFrom hnode hmarks fuel
  have hentries : (entries i).run b = .ok (es, b) := by
    simp [entries, node, hnode]
    rfl
  unfold reachEntry at hrun
  simpa [expand, kind, node, hnode, hkind, hunique, hrepeated, hfuel, hmerge, hentries, bind_ok] using hrun

/-- **A container** that is looked at reaches the nodes below it. -/
theorem run_expand (hunique : schema.hasUniqueKeys = false) (hb : Holds schema nodes b) {i : Nat} {d : Datum}
    (h : Means schema nodes i d) (hd : ∀ s, d ≠ .text s) :
    ∃ b', (expand schema i).run b = .ok ((), b') ∧ Holds schema nodes b' ∧ Grows schema nodes (i + 1) b b' ∧
      ∀ j ∈ below nodes i, IsReached b' j := by
  cases h with
  | text => exact absurd rfl (hd _)
  | @list _ items ds hnode hbehind hlength hitems =>
    rw [below_sequence hnode]
    refine run_expand_sequence hb (hb.same ▸ hnode) hbehind fun j hj => ?_
    obtain ⟨d, hd⟩ := exists_mem_zip hlength hj
    exact ⟨d, hitems _ hd⟩
  | @map _ es ps hnode hrecord hbehind hlength hkeys hvalues =>
    obtain ⟨b', hrun, hb', hgrows, hreached⟩ :=
      run_expand_mapping hunique hb (hb.same ▸ hnode) hbehind fun e he => by
        obtain ⟨p, hp⟩ := exists_mem_zip hlength he
        obtain ⟨s, hs⟩ := hrecord.isText p (List.of_mem_zip hp).2
        exact ⟨⟨s, hs ▸ hkeys _ hp⟩, p.2, hvalues _ hp⟩
    refine ⟨b', hrun, hb', hgrows, fun j hj => ?_⟩
    obtain ⟨e, he, rfl | rfl⟩ := (mem_below_mapping hnode j).mp hj
    · exact (hreached e he).1
    · exact (hreached e he).2

/-- **All levels** are looked at: in the end nothing waits, and what was reached has reached the nodes below it. -/
theorem run_expandAll (hunique : schema.hasUniqueKeys = false) (fuel : Nat) (hb : Holds schema nodes b)
    (hwaiting : ∀ i ∈ b.waiting, nodes.size < fuel + i ∧ ∃ d, Means schema nodes i d ∧ ∀ s, d ≠ .text s)
    (hclosed : ∀ i, IsReached b i → i ∈ b.waiting ∨ ∀ j ∈ below nodes i, IsReached b j) :
    ∃ b', (expandAll schema fuel).run b = .ok ((), b') ∧ Holds schema nodes b' ∧ (∀ i, IsReached b i → IsReached b' i) ∧
      ∀ i, IsReached b' i → ∀ j ∈ below nodes i, IsReached b' j := by
  have hdone (hempty : b.waiting = []) (i : Nat) (hi : IsReached b i) : ∀ j ∈ below nodes i, IsReached b j := by
    refine (hclosed i hi).resolve_left ?_
    rw [hempty]
    exact List.not_mem_nil
  induction fuel generalizing b with
  | zero =>
    have hempty : b.waiting = [] := by
      refine List.eq_nil_iff_forall_not_mem.mpr fun i hi => ?_
      obtain ⟨hle, d, hd, -⟩ := hwaiting i hi
      have hlt := hd.lt_size
      omega
    exact ⟨b, rfl, hb, fun _ => id, hdone hempty⟩
  | succ fuel ih =>
    by_cases hempty : b.waiting = []
    · refine ⟨b, ?_, hb, fun _ => id, hdone hempty⟩
      simp [expandAll, hempty]
      rfl
    · -- the containers below a level have larger numbers than those in it, so less fuel is enough for them
      obtain ⟨b₁, hrun, hb₁, hgrows, hlevel⟩ := run_forM (nodes.size - fuel + 1) (expand schema)
        (fun i b => ∀ j ∈ below nodes i, IsReached b j) (b := { b with waiting := [] }) (fun i b b' hgrows hi j hj => hgrows.reached j (hi j hj)) (fun i hi b hb => by
          obtain ⟨hle, d, hd, htext⟩ := hwaiting i (List.mem_reverse.mp hi)
          obtain ⟨b', hrun, hb', hgrows, hbelow⟩ := run_expand hunique hb hd htext
          exact ⟨b', hrun, hb', hgrows.mono (by omega), hbelow⟩) ⟨hb.same, hb.reachedSize, hb.scalarsSize, hb.scalar, hb.container⟩
      have hclosed₁ (i : Nat) (hi : IsReached b₁ i) : i ∈ b₁.waiting ∨ ∀ j ∈ below nodes i, IsReached b₁ j := by
        rcases hgrows.fresh i hi with hi | hi | ⟨s, hs⟩
        · refine .inr ?_
          rcases hclosed i hi with hi | hi
          · exact hlevel i (List.mem_reverse.mpr hi)
          · exact fun j hj => hgrows.reached j (hi j hj)
        · exact .inl hi
        · rw [below_text hs]
          exact .inr (List.forall_mem_nil _)
      have hwaiting₁ : ∀ i ∈ b₁.waiting, nodes.size < fuel + i ∧ ∃ d, Means schema nodes i d ∧ ∀ s, d ≠ .text s := by
        intro i hi
        obtain ⟨hle, hd⟩ := (hgrows.waiting i hi).resolve_left List.not_mem_nil
        exact ⟨by omega, hd⟩
      obtain ⟨b₂, hrun', hb₂, hreached, hend⟩ := ih hb₁ hwaiting₁ hclosed₁ (fun hempty i hi =>
        (hclosed₁ i hi).resolve_left (by rw [hempty]; exact List.not_mem_nil))
      refine ⟨b₂, ?_, hb₂, fun i hi => hreached i (hgrows.reached i hi), hend⟩
      have hrunLevel : (forM b.waiting.reverse (expand schema)).run { b with waiting := [] } = .ok ((), b₁) := hrun
      simp [expandAll, hempty, hrunLevel, bind_ok, hrun']

end Builder

/-! ## The data of a node -/

/-- The data found so far is that of the nodes. -/
def FoundOk (schema : Schema) (nodes : Array Node) (found : Array (Option Datum)) : Prop :=
  ∀ (i : Nat) (d : Datum), found[i]? = some (some d) → Means schema nodes i d

/-- A step that gives `y` whatever was found before. -/
def Gives {α : Type} (schema : Schema) (nodes : Array Node) (x : Found α) (y : α) : Prop :=
  ∀ found, FoundOk schema nodes found → ∃ found', x.run found = (y, found') ∧ FoundOk schema nodes found'

section Gives

variable {α β : Type} {x : Found α} {y : α} {f : α → Found β} {z : β}

theorem gives_pure (y : α) : Gives schema nodes (pure y) y :=
  fun found hfound => ⟨found, rfl, hfound⟩

theorem gives_bind (hx : Gives schema nodes x y) (hf : Gives schema nodes (f y) z) : Gives schema nodes (x >>= f) z := by
  intro found hfound
  obtain ⟨found₁, hrun, hfound₁⟩ := hx found hfound
  obtain ⟨found₂, hrun', hfound₂⟩ := hf found₁ hfound₁
  refine ⟨found₂, ?_, hfound₂⟩
  rw [StateT.run_bind, hrun]
  exact hrun'

theorem gives_mapM {xs : List α} {zs : List β} (hlength : xs.length = zs.length)
    (h : ∀ p ∈ xs.zip zs, Gives schema nodes (f p.1) p.2) : Gives schema nodes (xs.mapM f) zs := by
  induction xs generalizing zs with
  | nil =>
    rw [List.length_eq_zero_iff.mp hlength.symm]
    exact gives_pure []
  | cons x xs ih =>
    obtain ⟨z, zs, rfl⟩ := List.exists_cons_of_length_eq_add_one hlength.symm
    rw [List.zip_cons_cons, List.forall_mem_cons] at h
    rw [List.mapM_cons]
    exact gives_bind h.1 (gives_bind (ih (Nat.succ.inj hlength) h.2) (gives_pure _))

theorem gives_get {f : Array (Option Datum) → Found β} (h : ∀ found, FoundOk schema nodes found → Gives schema nodes (f found) z) :
    Gives schema nodes (get >>= f) z :=
  fun found hfound => h found hfound found hfound

theorem gives_map (hx : Gives schema nodes x y) (g : α → β) : Gives schema nodes (g <$> x) (g y) := by
  rw [map_eq_pure_bind]
  exact gives_bind hx (gives_pure _)

/-- What is found is kept. -/
theorem gives_keep {i : Nat} {d : Datum} (h : Means schema nodes i d) :
    Gives schema nodes (modify fun found => found.set! i (some d)) () := by
  intro found hfound
  refine ⟨_, rfl, fun j e he => ?_⟩
  dsimp only at he
  rw [Array.set!_eq_setIfInBounds, Array.getElem?_setIfInBounds] at he
  split at he
  · rename_i hij
    subst hij
    split at he
    · cases he
      exact h
    · cases he
  · exact hfound j e he

/-- The data of several nodes, none of which holds a reference back. -/
theorem gives_all {f : α → Found (β × Bool)} {xs : List α} {ds : List β} (hlength : xs.length = ds.length)
    (h : ∀ p ∈ xs.zip ds, Gives schema nodes (f p.1) (p.2, true)) :
    Gives schema nodes (xs.mapM f) (ds.map fun d => (d, true)) := by
  refine gives_mapM (by rw [List.length_map, hlength]) fun q hq => ?_
  rw [List.zip_map_right, List.mem_map] at hq
  obtain ⟨p, hp, rfl⟩ := hq
  exact h p hp

/-- What was found before is the data of the node. -/
theorem gives_found {found : Array (Option Datum)} (hfound : FoundOk schema nodes found) {i : Nat} {d d' : Datum}
    (h : Means schema nodes i d) (hd' : found[i]?.getD none = some d') :
    Gives schema nodes (pure (d', true) : Found (Datum × Bool)) (d, true) := by
  have hget : found[i]? = some (some d') := by
    rcases hopt : found[i]? with _ | (_ | e)
    · simp [hopt] at hd'
    · simp [hopt] at hd'
    · simpa [hopt] using hd'
  rw [(hfound i d' hget).unique h]
  exact gives_pure _

end Gives

theorem all_free {α : Type} (xs : List α) : ((xs.map fun x => (x, true)).all fun r => r.2) = true := by
  simp

theorem map_fst_free {α : Type} (xs : List α) : (xs.map fun x => (x, true)).map (fun r => r.1) = xs := by
  rw [List.map_map]
  exact List.map_id xs

section unfold

variable {b : Builder} {fuel i : Nat} {around : List Nat}

/-- A list, once the data of its items is known. -/
theorem gives_sequence {items : List Nat} {ds : List Datum} (h : Means schema nodes i (.list ds))
    (hscalar : b.scalars[i]? = some none) (hnode : b.nodes[i]? = some { body := .sequence items })
    (houtside : i ∉ around) (hlength : items.length = ds.length)
    (hitems : ∀ p ∈ items.zip ds, Gives schema nodes (unfold schema b fuel (i :: around) p.1) (p.2, true)) :
    Gives schema nodes (unfold schema b (fuel + 1) around i) (.list ds, true) := by
  have hkind : ({ body := .sequence items } : Node).kind schema = .list := rfl
  simp only [Yaml.unfold, Array.getD_eq_getD_getElem?, hscalar, Option.getD_some, List.contains_eq_mem, houtside,
    decide_false, Bool.false_eq_true, if_false, hnode, hkind, bind_pure_comp, pure_bind]
  refine gives_get fun found hfound => ?_
  split
  · exact gives_found hfound h ‹_›
  · refine gives_bind (gives_all hlength hitems) ?_
    rw [if_pos (all_free ds), map_fst_free, all_free]
    exact gives_map (gives_keep h) fun _ => (Datum.list ds, true)

/-- A map, once the data of its entries is known. -/
theorem gives_mapping {es : List (Nat × Nat)} {ps : List (Datum × Datum)} (h : Means schema nodes i (.map ps))
    (hrecord : IsRecord ps) (hscalar : b.scalars[i]? = some none)
    (hnode : b.nodes[i]? = some { body := .mapping es }) (houtside : i ∉ around) (hlength : es.length = ps.length)
    (hkeys : ∀ p ∈ es.zip ps, Gives schema nodes (unfold schema b fuel (i :: around) p.1.1) (p.2.1, true))
    (hvalues : ∀ p ∈ es.zip ps, Gives schema nodes (unfold schema b fuel (i :: around) p.1.2) (p.2.2, true)) :
    Gives schema nodes (unfold schema b (fuel + 1) around i) (.map ps, true) := by
  have hkind : ({ body := .mapping es } : Node).kind schema = .map := rfl
  simp only [Yaml.unfold, Array.getD_eq_getD_getElem?, hscalar, Option.getD_some, List.contains_eq_mem, houtside,
    decide_false, Bool.false_eq_true, if_false, hnode, hkind, bind_pure_comp, pure_bind]
  refine gives_get fun found hfound => ?_
  split
  · exact gives_found hfound h ‹_›
  · refine gives_bind (gives_all hlength fun p hp => gives_bind (hkeys p hp) (gives_map (hvalues p hp) _)) ?_
    rw [if_pos (all_free ps), map_fst_free, all_free, Datum.ofEntries_eq hrecord]
    exact gives_map (gives_keep h) fun _ => (Datum.map ps, true)

end unfold

/-- **The data of a node** that was reached with all nodes below it. -/
theorem gives_unfold {b : Builder} (hb : Builder.Holds schema nodes b)
    (hclosed : ∀ i, b.IsReached i → ∀ j ∈ Builder.below nodes i, b.IsReached j) (fuel : Nat) {around : List Nat} {i : Nat}
    {d : Datum} (h : Means schema nodes i d) (hreached : b.IsReached i) (haround : ∀ a ∈ around, a < i)
    (hfuel : nodes.size < fuel + i) : Gives schema nodes (unfold schema b fuel around i) (d, true) := by
  induction fuel generalizing around i d with
  | zero =>
    have hlt := h.lt_size
    omega
  | succ fuel ih =>
    -- numbers grow downwards, so a node is never inside itself
    have houtside : i ∉ around := fun hi => Nat.lt_irrefl i (haround i hi)
    have hmember {j : Nat} {d : Datum} (hj : j ∈ Builder.below nodes i) (hlt : i < j) (hd : Means schema nodes j d) :
        Gives schema nodes (unfold schema b fuel (i :: around) j) (d, true) :=
      ih hd (hclosed i hreached j hj) (List.forall_mem_cons.mpr ⟨hlt, fun a ha => (haround a ha).trans hlt⟩) (by omega)
    cases h with
    | @text _ s isImplicit hnode hkind =>
      have hscalar := hb.scalar i s (.text hnode hkind) hreached
      simp only [Yaml.unfold, Array.getD_eq_getD_getElem?, hscalar, Option.getD_some]
      exact gives_pure _
    | @list _ items ds hnode hbehind hlength hitems =>
      have h : Means schema nodes i (.list ds) := .list hnode hbehind hlength hitems
      refine gives_sequence h (hb.container i _ h fun s => by simp) (hb.same ▸ hnode) houtside hlength fun p hp => ?_
      have hmem := (List.of_mem_zip hp).1
      exact hmember (Builder.below_sequence hnode ▸ hmem) (hbehind _ hmem) (hitems p hp)
    | @map _ es ps hnode hrecord hbehind hlength hkeys hvalues =>
      have h : Means schema nodes i (.map ps) := .map hnode hrecord hbehind hlength hkeys hvalues
      have hbelow := Builder.mem_below_mapping hnode
      refine gives_mapping h hrecord (hb.container i _ h fun s => by simp) (hb.same ▸ hnode) houtside hlength
        (fun p hp => ?_) fun p hp => ?_
      · have hmem := (List.of_mem_zip hp).1
        exact hmember ((hbelow _).mpr ⟨p.1, hmem, .inl rfl⟩) (hbehind _ hmem).1 (hkeys p hp)
      · have hmem := (List.of_mem_zip hp).1
        exact hmember ((hbelow _).mpr ⟨p.1, hmem, .inr rfl⟩) (hbehind _ hmem).2 (hvalues p hp)

/-- **The data of the nodes** whose first one stands for a piece of data. -/
theorem data_eq (hunique : schema.hasUniqueKeys = false) {d : Datum} (h : Means schema nodes 0 d) :
    NodeGraph.data schema { nodes, root? := some 0 } = .ok d := by
  have hb : Builder.Holds schema nodes
      { nodes, scalars := Array.replicate nodes.size none, reached := Array.replicate nodes.size false } := by
    refine ⟨rfl, Array.size_replicate, Array.size_replicate, fun j s hj hreached => ?_, fun j d hj _ => ?_⟩
    · simp [Builder.IsReached, Array.getElem?_replicate] at hreached
    · simp [hj.lt_size]
  obtain ⟨b₁, hrun, hb₁, hgrows, hroot⟩ := Builder.run_reach hb h
  have hfresh (i : Nat) (hi : b₁.IsReached i) : i ∈ b₁.waiting ∨ ∀ j ∈ Builder.below nodes i, b₁.IsReached j := by
    rcases hgrows.fresh i hi with hi | hi | ⟨s, hs⟩
    · simp [Builder.IsReached, Array.getElem?_replicate] at hi
    · exact .inl hi
    · rw [Builder.below_text hs]
      exact .inr (List.forall_mem_nil _)
  obtain ⟨b₂, hrun', hb₂, hreached, hclosed⟩ := Builder.run_expandAll hunique (nodes.size + 1) hb₁
    (fun i hi => ⟨by omega, ((hgrows.waiting i hi).resolve_left List.not_mem_nil).2⟩) hfresh
  obtain ⟨found, hfound, -⟩ := gives_unfold hb₂ hclosed (nodes.size + 1) h (hreached 0 hroot) (List.forall_mem_nil _)
    (by omega) (Array.replicate nodes.size none) (fun i d hi => by simp [Array.getElem?_replicate] at hi)
  simp [NodeGraph.data, StateT.run_bind, hrun, bind_ok, hrun', hfound]

end Yaml

end CommandWrap
