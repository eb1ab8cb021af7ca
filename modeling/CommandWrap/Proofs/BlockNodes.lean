import CommandWrap.Proofs.Outcomes
import CommandWrap.Yaml.Data
import Mathlib

/-!
# The nodes of blocks

`Means` says what data a node stands for.  A node that is read is added behind the nodes so far, and only the
node itself is filled in later; so the nodes below it have larger numbers, and what they mean does not change.
-/
namespace CommandWrap.Yaml

/-! ## What nodes mean -/

/-- The keys of the entries are different texts. -/
structure IsRecord (ps : List (Datum × Datum)) : Prop where
  isText : ∀ p ∈ ps, ∃ k, p.1 = .text k
  distinct : ps.Pairwise fun p q => p.1 ≠ q.1

/-- **A node stands for data** that is made of texts, lists and maps; the nodes below it come behind it. -/
inductive Means (schema : Schema) (nodes : Array Node) : Nat → Datum → Prop
  /-- A scalar that is a text. -/
  | text {i : Nat} {s : String} {isImplicit : Bool} (hnode : nodes[i]? = some { body := .scalar s isImplicit })
    (hkind : isImplicit = true → schema.kindOf s = .text) : Means schema nodes i (.text s)
  /-- A sequence. -/
  | list {i : Nat} {items : List Nat} {ds : List Datum} (hnode : nodes[i]? = some { body := .sequence items })
    (hbehind : ∀ j ∈ items, i < j) (hlength : items.length = ds.length)
    (hitems : ∀ p ∈ items.zip ds, Means schema nodes p.1 p.2) : Means schema nodes i (.list ds)
  /-- A mapping whose keys are different texts. -/
  | map {i : Nat} {es : List (Nat × Nat)} {ps : List (Datum × Datum)} (hnode : nodes[i]? = some { body := .mapping es })
    (hrecord : IsRecord ps) (hbehind : ∀ e ∈ es, i < e.1 ∧ i < e.2) (hlength : es.length = ps.length)
    (hkeys : ∀ p ∈ es.zip ps, Means schema nodes p.1.1 p.2.1) (hvalues : ∀ p ∈ es.zip ps, Means schema nodes p.1.2 p.2.2) :
    Means schema nodes i (.map ps)

namespace Means

variable {schema : Schema} {nodes nodes' : Array Node} {i : Nat} {d : Datum}

theorem lt_size (h : Means schema nodes i d) : i < nodes.size := by
  cases h with
  | text hnode => exact (Array.getElem?_eq_some_iff.mp hnode).1
  | list hnode => exact (Array.getElem?_eq_some_iff.mp hnode).1
  | map hnode => exact (Array.getElem?_eq_some_iff.mp hnode).1

/-- What a node means depends only on the node and those behind it. -/
theorem mono (h : Means schema nodes i d) (hsame : ∀ j, i ≤ j → j < nodes.size → nodes'[j]? = nodes[j]?) :
    Means schema nodes' i d := by
  induction h with
  | @text i s isImplicit hnode hkind =>
    have hlt := (Array.getElem?_eq_some_iff.mp hnode).1
    exact .text ((hsame i (Nat.le_refl i) hlt).trans hnode) hkind
  | @list i items ds hnode hbehind hlength hitems ih =>
    have hlt := (Array.getElem?_eq_some_iff.mp hnode).1
    refine .list ((hsame i (Nat.le_refl i) hlt).trans hnode) hbehind hlength fun p hp => ih p hp fun j hj => ?_
    have hmem := hbehind p.1 (List.of_mem_zip hp).1
    exact hsame j (by omega)
  | @map i es ps hnode hrecord hbehind hlength hkeys hvalues ihKeys ihValues =>
    have hlt := (Array.getElem?_eq_some_iff.mp hnode).1
    refine .map ((hsame i (Nat.le_refl i) hlt).trans hnode) hrecord hbehind hlength (fun p hp => ihKeys p hp fun j hj => ?_)
      (fun p hp => ihValues p hp fun j hj => ?_)
    · have hmem := hbehind p.1 (List.of_mem_zip hp).1
      exact hsame j (by omega)
    · have hmem := hbehind p.1 (List.of_mem_zip hp).1
      exact hsame j (by omega)

end Means

/-! ## One step of reading -/

namespace NodeReader

variable {s : NodeReader} {t : Token} {ts : List Token}

theorem run_peek (h : s.tokens = t :: ts) : peek.run s = .ok (t, s) := by
  rw [peek, StateT.run_bind, StateT.run_get, pure_bind]
  dsimp only
  rw [h]
  rfl

theorem run_skip (h : s.tokens = t :: ts) : skip.run s = .ok ((), { s with tokens := ts }) := by
  rw [skip, StateT.run_modify, h]
  rfl

theorem run_add (n : Node) : (add n).run s = .ok (s.nodes.size, { s with nodes := s.nodes.push n }) :=
  rfl

theorem run_fill (number : Nat) (body : NodeBody) :
    (fill number body).run s = .ok ((), { s with nodes := s.nodes.modify number fun n => { n with body } }) :=
  rfl

/-- Is the token written in front of a node? -/
def isProperty : Token → Bool
  | .anchor _ => true
  | .tag _ _ => true
  | .alias _ => true
  | _ => false

theorem run_takeProperties (h : s.tokens = t :: ts) (ht : isProperty t = false) : takeProperties.run s = .ok ({}, s) := by
  have hanchor : takeAnchor?.run s = .ok (none, s) := by
    rw [takeAnchor?, StateT.run_bind, run_peek h, bind_ok]
    cases t with
    | anchor name => cases ht
    | _ => rfl
  have htag : takeTag?.run s = .ok (none, s) := by
    rw [takeTag?, StateT.run_bind, run_peek h, bind_ok]
    cases t with
    | tag handle suffix => cases ht
    | _ => rfl
  rw [takeProperties, StateT.run_bind, hanchor, bind_ok]
  dsimp only
  rw [StateT.run_bind, htag]
  rfl

theorem run_node_scalar {text : String} {isPlain : Bool} (h : s.tokens = .scalar text isPlain :: ts) (place : Place)
    (fuel : Nat) :
    (node place (fuel + 1)).run s =
      .ok (s.nodes.size, { s with tokens := ts, nodes := s.nodes.push { body := .scalar text isPlain } }) := by
  rw [node, StateT.run_bind, run_peek h, bind_ok]
  dsimp only
  rw [StateT.run_bind, run_takeProperties h rfl, bind_ok]
  dsimp only
  rw [StateT.run_bind, run_peek h, bind_ok]
  dsimp only
  rw [StateT.run_bind, run_skip h, bind_ok]
  simp [addScalar, anchorNext, Properties.ownTag?, run_add]

theorem run_node_mapping {place : Place} {fuel : Nat} {es : List (Nat × Nat)} {s' : NodeReader}
    (h : s.tokens = .blockMappingStart :: ts) (hplace : place ≠ .flow)
    (hentries : (blockEntries fuel).run { s with tokens := ts, nodes := s.nodes.push { body := .mapping [] } } =
      .ok (es, s')) :
    (node place (fuel + 1)).run s = .ok (s.nodes.size,
      { s' with nodes := s'.nodes.modify s.nodes.size fun n => { n with body := .mapping es } }) := by
  rw [node, StateT.run_bind, run_peek h, bind_ok]
  dsimp only
  rw [StateT.run_bind, run_takeProperties h rfl, bind_ok]
  dsimp only
  rw [StateT.run_bind, run_peek h, bind_ok]
  dsimp only
  rw [if_neg hplace]
  simp [anchorNext, Properties.ownTag?, run_skip h, run_add, run_fill, hentries, bind_ok]

theorem run_node_loose {fuel : Nat} {items : List Nat} {s' : NodeReader} (h : s.tokens = .blockEntry :: ts)
    (hitems : (looseItems fuel).run { s with nodes := s.nodes.push { body := .sequence [] } } = .ok (items, s')) :
    (node .mapped (fuel + 1)).run s = .ok (s.nodes.size,
      { s' with nodes := s'.nodes.modify s.nodes.size fun n => { n with body := .sequence items } }) := by
  rw [node, StateT.run_bind, run_peek h, bind_ok]
  dsimp only
  rw [StateT.run_bind, run_takeProperties h rfl, bind_ok]
  dsimp only
  rw [StateT.run_bind, run_peek h, bind_ok]
  dsimp only
  rw [if_pos rfl]
  simp [anchorNext, Properties.ownTag?, run_add, run_fill, hitems, bind_ok]

theorem run_optionalNode {place : Place} {missing : Token → Bool} (h : s.tokens = t :: ts) (ht : missing t = false)
    (fuel : Nat) : (optionalNode place missing (fuel + 1)).run s = (node place fuel).run s := by
  rw [optionalNode, StateT.run_bind, run_peek h, bind_ok]
  dsimp only
  rw [ht]
  rfl

theorem run_blockEntries_end (h : s.tokens = .blockEnd :: ts) (fuel : Nat) :
    (blockEntries (fuel + 1)).run s = .ok ([], { s with tokens := ts }) := by
  rw [blockEntries, StateT.run_bind, run_peek h, bind_ok]
  dsimp only
  rw [StateT.run_bind, run_skip h]
  rfl

theorem run_looseItems_end (h : s.tokens = t :: ts) (ht : t ≠ .blockEntry) (fuel : Nat) :
    (looseItems (fuel + 1)).run s = .ok ([], s) := by
  rw [looseItems, StateT.run_bind, run_peek h, bind_ok]
  cases t with
  | blockEntry => exact absurd rfl ht
  | _ => rfl

theorem run_looseItems_cons {fuel item : Nat} {items : List Nat} {s₁ s₂ : NodeReader} (h : s.tokens = .blockEntry :: ts)
    (hitem : (optionalNode .block (fun t => t == .blockEntry || endsMapped t) fuel).run { s with tokens := ts } =
      .ok (item, s₁)) (hitems : (looseItems fuel).run s₁ = .ok (items, s₂)) :
    (looseItems (fuel + 1)).run s = .ok (item :: items, s₂) := by
  rw [looseItems, StateT.run_bind, run_peek h, bind_ok]
  simp [run_skip h, hitem, hitems, bind_ok]

theorem run_blockEntries_cons {fuel k v : Nat} {es : List (Nat × Nat)} {s₁ s₂ s₃ : NodeReader} {us : List Token}
    (h : s.tokens = .key :: ts) (hkey : (optionalNode .mapped endsMapped fuel).run { s with tokens := ts } = .ok (k, s₁))
    (hvalue : s₁.tokens = .value :: us)
    (hv : (optionalNode .mapped endsMapped fuel).run { s₁ with tokens := us } = .ok (v, s₂))
    (hes : (blockEntries fuel).run s₂ = .ok (es, s₃)) :
    (blockEntries (fuel + 1)).run s = .ok ((k, v) :: es, s₃) := by
  rw [blockEntries, StateT.run_bind, run_peek h, bind_ok]
  simp [run_skip h, hkey, run_peek hvalue, run_skip hvalue, hv, hes, bind_ok]

/-! ## What is read -/

/-- The nodes so far stay as they are. -/
def Extends (nodes nodes' : Array Node) : Prop :=
  nodes.size ≤ nodes'.size ∧ ∀ j < nodes.size, nodes'[j]? = nodes[j]?

variable {schema : Schema} {nodes nodes' nodes'' : Array Node}

theorem Extends.trans (h : Extends nodes nodes') (h' : Extends nodes' nodes'') : Extends nodes nodes'' :=
  ⟨h.1.trans h'.1, fun j hj => (h'.2 j (hj.trans_le h.1)).trans (h.2 j hj)⟩

theorem extends_push (nodes : Array Node) (n : Node) : Extends nodes (nodes.push n) := by
  refine ⟨by simp, fun j hj => ?_⟩
  rw [Array.getElem?_push_lt hj, Array.getElem?_eq_getElem hj]

/-- What a node means stays as it is. -/
theorem Extends.means {i : Nat} {d : Datum} (h : Extends nodes nodes') (hd : Means schema nodes i d) :
    Means schema nodes' i d :=
  hd.mono fun j _ hj => h.2 j hj

/-- A node that is added first and filled in at last. -/
theorem Extends.fill {n : Node} (h : Extends (nodes.push n) nodes') (body : NodeBody) :
    Extends nodes (nodes'.modify nodes.size fun n => { n with body }) ∧
      (nodes'.modify nodes.size fun n => { n with body })[nodes.size]? = some { n with body } := by
  have hsize : nodes.size < nodes'.size := by
    have := h.1
    rw [Array.size_push] at this
    omega
  have hnode : nodes'[nodes.size]? = some n := by
    rw [h.2 nodes.size (by simp), Array.getElem?_push_size]
  refine ⟨⟨by simpa using hsize.le, fun j hj => ?_⟩, ?_⟩
  · rw [Array.getElem?_modify, if_neg (Nat.ne_of_gt hj)]
    exact ((extends_push nodes n).trans h).2 j hj
  · rw [Array.getElem?_modify, if_pos rfl, hnode]
    rfl

/-- What stands behind a node keeps its meaning when the node is filled in. -/
theorem means_modify {i j : Nat} {d : Datum} (h : Means schema nodes j d) (hj : i < j) (f : Node → Node) :
    Means schema (nodes.modify i f) j d :=
  h.mono fun k hk _ => by rw [Array.getElem?_modify, if_neg (by omega)]

/-- **Tokens of a value** behind a key. -/
def ReadsValue (schema : Schema) (ts : List Token) (d : Datum) : Prop :=
  ∀ (s : NodeReader) (t : Token) (more : List Token) (fuel : Nat), s.tokens = ts ++ t :: more →
    t = .key ∨ t = .blockEnd → ts.length + 3 ≤ fuel →
    ∃ i nodes', (optionalNode .mapped endsMapped fuel).run s = .ok (i, { s with tokens := t :: more, nodes := nodes' }) ∧
      Extends s.nodes nodes' ∧ s.nodes.size ≤ i ∧ Means schema nodes' i d

/-- **Tokens of items** that are not indented. -/
def ReadsItems (schema : Schema) (ts : List Token) (ds : List Datum) : Prop :=
  ∀ (s : NodeReader) (t : Token) (more : List Token) (fuel : Nat), s.tokens = ts ++ t :: more → t ≠ .blockEntry →
    ts.length < fuel →
    ∃ items nodes', (looseItems fuel).run s = .ok (items, { s with tokens := t :: more, nodes := nodes' }) ∧
      Extends s.nodes nodes' ∧ (∀ j ∈ items, s.nodes.size ≤ j) ∧ items.length = ds.length ∧
      ∀ p ∈ items.zip ds, Means schema nodes' p.1 p.2

/-- **Tokens of entries**, up to the end of their mapping. -/
def ReadsEntries (schema : Schema) (ts : List Token) (ps : List (Datum × Datum)) : Prop :=
  ∀ (s : NodeReader) (more : List Token) (fuel : Nat), s.tokens = ts ++ .blockEnd :: more → ts.length < fuel →
    ∃ es nodes', (blockEntries fuel).run s = .ok (es, { s with tokens := more, nodes := nodes' }) ∧
      Extends s.nodes nodes' ∧ (∀ e ∈ es, s.nodes.size ≤ e.1 ∧ s.nodes.size ≤ e.2) ∧ es.length = ps.length ∧
      (∀ p ∈ es.zip ps, Means schema nodes' p.1.1 p.2.1) ∧ ∀ p ∈ es.zip ps, Means schema nodes' p.1.2 p.2.2

theorem readsValue_text {text : String} {isPlain : Bool} (hkind : isPlain = true → schema.kindOf text = .text) :
    ReadsValue schema [.scalar text isPlain] (.text text) := by
  intro s t more fuel hs ht hfuel
  obtain ⟨fuel, rfl⟩ := Nat.exists_eq_add_of_le' (Nat.le_of_add_left_le hfuel : 2 ≤ fuel)
  refine ⟨s.nodes.size, _, ?_, extends_push .., Nat.le_refl _, .text Array.getElem?_push_size hkind⟩
  rw [run_optionalNode hs rfl, run_node_scalar hs]
  rfl

/-- The mapping around entries. -/
theorem ReadsEntries.node {ts : List Token} {ps : List (Datum × Datum)} (h : ReadsEntries schema ts ps)
    (hps : IsRecord ps) {place : Place} (hplace : place ≠ .flow) {s : NodeReader} {more : List Token}
    (hs : s.tokens = .blockMappingStart :: (ts ++ .blockEnd :: more)) {fuel : Nat} (hfuel : ts.length < fuel) :
    ∃ nodes', (NodeReader.node place (fuel + 1)).run s =
        .ok (s.nodes.size, { s with tokens := more, nodes := nodes' }) ∧
      Extends s.nodes nodes' ∧ Means schema nodes' s.nodes.size (.map ps) := by
  let inside : NodeReader :=
    { s with tokens := ts ++ .blockEnd :: more, nodes := s.nodes.push { body := .mapping [] } }
  obtain ⟨es, nodes', hrun, hextends, hbehind, hlength, hkeys, hvalues⟩ := h inside more fuel rfl hfuel
  obtain ⟨hfill, hnode⟩ := hextends.fill (.mapping es)
  have hafter : ∀ e ∈ es, s.nodes.size < e.1 ∧ s.nodes.size < e.2 := by
    intro e he
    have hsize : inside.nodes.size = s.nodes.size + 1 := Array.size_push ..
    have hboth := hbehind e he
    omega
  refine ⟨_, run_node_mapping hs hplace hrun, hfill, .map hnode hps hafter hlength (fun p hp => ?_) fun p hp => ?_⟩
  · exact means_modify (hkeys p hp) (hafter p.1 (List.of_mem_zip hp).1).1 _
  · exact means_modify (hvalues p hp) (hafter p.1 (List.of_mem_zip hp).1).2 _

theorem readsItems_nil : ReadsItems schema [] [] := by
  intro s t more fuel hs ht hfuel
  obtain ⟨fuel, rfl⟩ := Nat.exists_eq_add_one.mpr hfuel
  refine ⟨[], s.nodes, ?_, ⟨Nat.le_refl _, fun _ _ => rfl⟩, List.forall_mem_nil _, rfl, List.forall_mem_nil _⟩
  rw [run_looseItems_end hs ht]
  cases s
  cases hs
  rfl

theorem ReadsEntries.item {ts us : List Token} {ps : List (Datum × Datum)} {ds : List Datum} (h : ReadsEntries schema ts ps)
    (hps : IsRecord ps) (hds : ReadsItems schema us ds) :
    ReadsItems schema (.blockEntry :: .blockMappingStart :: (ts ++ .blockEnd :: us)) (.map ps :: ds) := by
  intro s t more fuel hs ht hfuel
  simp only [List.length_cons, List.length_append] at hfuel
  obtain ⟨fuel, rfl⟩ := Nat.exists_eq_add_of_le' (show 3 ≤ fuel by omega)
  let inside : NodeReader := { s with tokens := .blockMappingStart :: (ts ++ .blockEnd :: (us ++ t :: more)) }
  have hinside : s.tokens = .blockEntry :: inside.tokens := by
    rw [hs]
    simp [inside]
  have hlt : ts.length < fuel := by omega
  have hblock : Place.block ≠ .flow := by decide
  -- the nodes of the other items come behind those of this one
  obtain ⟨nodes₁, hnode, hextends, hmeans⟩ := h.node hps hblock (s := inside) rfl hlt
  obtain ⟨items, nodes₂, hitems, hextends', hbehind, hlength, hmean⟩ :=
    hds { s with tokens := us ++ t :: more, nodes := nodes₁ } t more (fuel + 2) rfl ht (by omega)
  refine ⟨s.nodes.size :: items, nodes₂, ?_, hextends.trans hextends', ?_, congrArg (· + 1) hlength, ?_⟩
  · refine run_looseItems_cons hinside ?_ hitems
    rw [run_optionalNode (s := inside) rfl rfl]
    exact hnode
  · rw [List.forall_mem_cons]
    exact ⟨Nat.le_refl _, fun j hj => hextends.1.trans (hbehind j hj)⟩
  · rw [List.zip_cons_cons, List.forall_mem_cons]
    exact ⟨hextends'.means hmeans, hmean⟩

theorem ReadsItems.value {ts : List Token} {ds : List Datum} (h : ReadsItems schema (.blockEntry :: ts) ds) :
    ReadsValue schema (.blockEntry :: ts) (.list ds) := by
  intro s t more fuel hs ht hfuel
  obtain ⟨fuel, rfl⟩ := Nat.exists_eq_add_of_le' (Nat.le_of_add_left_le hfuel : 2 ≤ fuel)
  have hend : t ≠ .blockEntry := by
    rintro rfl
    simp at ht
  let inside : NodeReader := { s with nodes := s.nodes.push { body := .sequence [] } }
  obtain ⟨items, nodes', hitems, hextends, hbehind, hlength, hmean⟩ := h inside t more fuel hs hend (by omega)
  obtain ⟨hfill, hnode⟩ := hextends.fill (.sequence items)
  have hafter : ∀ j ∈ items, s.nodes.size < j := by
    intro j hj
    have hsize : inside.nodes.size = s.nodes.size + 1 := Array.size_push ..
    have hle := hbehind j hj
    omega
  refine ⟨s.nodes.size, _, ?_, hfill, Nat.le_refl _, .list hnode hafter hlength fun p hp => ?_⟩
  · rw [run_optionalNode hs rfl, run_node_loose hs hitems]
  · exact means_modify (hmean p hp) (hafter p.1 (List.of_mem_zip hp).1) _

theorem readsEntries_nil : ReadsEntries schema [] [] := by
  intro s more fuel hs hfuel
  obtain ⟨fuel, rfl⟩ := Nat.exists_eq_add_one.mpr hfuel
  exact ⟨[], s.nodes, run_blockEntries_end hs fuel, ⟨Nat.le_refl _, fun _ _ => rfl⟩, List.forall_mem_nil _, rfl,
    List.forall_mem_nil _, List.forall_mem_nil _⟩

theorem ReadsValue.entry {ts us : List Token} {d : Datum} {ps : List (Datum × Datum)} {k : String}
    (hkind : schema.kindOf k = .text) (h : ReadsValue schema ts d) (hps : ReadsEntries schema us ps)
    (hus : us = [] ∨ ∃ more, us = .key :: more) :
    ReadsEntries schema (.key :: .scalar k true :: .value :: (ts ++ us)) ((.text k, d) :: ps) := by
  intro s more fuel hs hfuel
  simp only [List.length_cons, List.length_append] at hfuel
  obtain ⟨fuel, rfl⟩ := Nat.exists_eq_add_of_le' (show 3 ≤ fuel by omega)
  obtain ⟨t, behind, hbehind, ht⟩ : ∃ t behind, us ++ .blockEnd :: more = t :: behind ∧ (t = .key ∨ t = .blockEnd) := by
    rcases hus with rfl | ⟨us, rfl⟩
    · exact ⟨_, _, rfl, .inr rfl⟩
    · exact ⟨_, _, rfl, .inl rfl⟩
  -- the nodes of the key, of its value and of the other entries, one behind the other
  let n : Node := { body := .scalar k true }
  have hkey : (optionalNode .mapped endsMapped (fuel + 2)).run
      { s with tokens := .scalar k true :: .value :: (ts ++ us ++ .blockEnd :: more) } =
      .ok (s.nodes.size, { s with tokens := .value :: (ts ++ us ++ .blockEnd :: more), nodes := s.nodes.push n }) := by
    rw [run_optionalNode rfl rfl, run_node_scalar rfl]
  obtain ⟨v, nodes₁, hv, hextends, hle, hmeans⟩ :=
    h { s with tokens := ts ++ t :: behind, nodes := s.nodes.push n } t behind (fuel + 2) rfl ht (by omega)
  obtain ⟨es, nodes₂, hes, hextends', hafter, hlength, hkeys, hvalues⟩ :=
    hps { s with tokens := us ++ .blockEnd :: more, nodes := nodes₁ } more (fuel + 2) rfl (by omega)
  have hpush := extends_push s.nodes n
  have hkeyMeans : Means schema nodes₂ s.nodes.size (.text k) :=
    (hextends.trans hextends').means (.text Array.getElem?_push_size fun _ => hkind)
  have hvalueTokens : ts ++ us ++ .blockEnd :: more = ts ++ t :: behind := by rw [List.append_assoc, hbehind]
  refine ⟨(s.nodes.size, v) :: es, nodes₂, ?_, hpush.trans (hextends.trans hextends'), ?_, congrArg (· + 1) hlength, ?_, ?_⟩
  · refine run_blockEntries_cons hs hkey rfl ?_ hes
    dsimp only
    rw [hvalueTokens, hbehind]
    exact hv
  · rw [List.forall_mem_cons]
    refine ⟨⟨Nat.le_refl _, hpush.1.trans hle⟩, fun e he => ?_⟩
    have hsize := hpush.1.trans hextends.1
    have hboth := hafter e he
    exact ⟨hsize.trans hboth.1, hsize.trans hboth.2⟩
  · rw [List.zip_cons_cons, List.forall_mem_cons]
    exact ⟨hkeyMeans, hkeys⟩
  · rw [List.zip_cons_cons, List.forall_mem_cons]
    exact ⟨hextends'.means hmeans, hvalues⟩

theorem run_document {fuel i : Nat} {s' : NodeReader} (h : s.tokens = .blockMappingStart :: ts)
    (hnode : (node .block fuel).run { s with handles := standardHandles } = .ok (i, s'))
    (hs' : s'.tokens = [.streamEnd]) : (document fuel).run s = .ok (some i, s') := by
  have hskip : skipDocumentEnds.run s' = .ok ((), s') := by
    cases s'
    cases hs'
    rfl
  rw [document, StateT.run_bind, run_peek h, bind_ok]
  simp [hnode, hskip, run_peek hs', bind_ok]
  rfl

/-- **The nodes of a text** that holds the entries of one mapping. -/
theorem ofText_eq {text : List Char} {ts : List Token} {ps : List (Datum × Datum)} (h : ReadsEntries schema ts ps)
    (hps : IsRecord ps) (htokens : tokenize text = (.blockMappingStart :: ts ++ [.blockEnd, .streamEnd], none)) :
    ∃ nodes, NodeGraph.ofText text = .ok { nodes, root? := some 0 } ∧ Means schema nodes 0 (.map ps) := by
  let tokens : List Token := .blockMappingStart :: (ts ++ .blockEnd :: [.streamEnd])
  have hsame : .blockMappingStart :: ts ++ [.blockEnd, .streamEnd] = tokens := rfl
  let start : NodeReader := { tokens, fault? := none, handles := standardHandles }
  have hlt : ts.length < 8 * (tokens.length + 2) - 1 := by
    simp [tokens]
    omega
  have hblock : Place.block ≠ .flow := by decide
  obtain ⟨nodes, hnode, -, hmeans⟩ := h.node hps hblock (s := start) rfl hlt
  have hfuel : 8 * (tokens.length + 2) - 1 + 1 = 8 * (tokens.length + 2) := by omega
  rw [hfuel] at hnode
  have hdocument := run_document (s := { tokens, fault? := none }) rfl hnode rfl
  refine ⟨nodes, ?_, hmeans⟩
  rw [NodeGraph.ofText, htokens, hsame]
  dsimp only
  rw [hdocument]
  rfl

end NodeReader

end CommandWrap.Yaml
