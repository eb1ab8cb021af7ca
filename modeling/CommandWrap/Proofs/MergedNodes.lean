import CommandWrap.Proofs.Outcomes
import CommandWrap.Yaml.Data

/-!
# Merging nodes

Merging puts the entries of some mappings into others, and makes texts of default keys; nothing else of a document
changes (`Node.Becomes`).  A mapping without merge keys and default keys is settled: it keeps its entries, whatever
is merged later (`Builder.merges_of_mergeFrom`).  A scalar without a tag is read as its text, or as the value that its
text has (`Node.Becomes.reads`).
-/
namespace CommandWrap.Yaml

variable {schema : Schema}

/-! ## What becomes of a node -/

/-- The node is a mapping. -/
def Node.IsMapping (n : Node) : Prop :=
  ∃ es, n.body = .mapping es

/-- **What building makes of a node**: a default key may become a text, and a mapping may hold other entries. -/
structure Node.Becomes (schema : Schema) (old new : Node) : Prop where
  tag : new.tag? = old.tag? ∨ old.kind schema = .scalar .default ∧ new.tag? = some (standardTag ++ "str")
  body : new.body = old.body ∨ ∃ es es', old.body = .mapping es ∧ new.body = .mapping es'

theorem ofTag_text : NodeKind.ofTag (standardTag ++ "str") = .scalar .text := by
  decide +kernel

namespace Node.Becomes

variable {old new : Node}

theorem refl (n : Node) : n.Becomes schema n :=
  ⟨.inl rfl, .inl rfl⟩

theorem kind (h : old.Becomes schema new) :
    new.kind schema = old.kind schema ∨ old.kind schema = .scalar .default ∧ new.kind schema = .scalar .text := by
  obtain ⟨tag?, body⟩ := new
  obtain ⟨htag, hbody⟩ := h
  rcases htag with rfl | ⟨hdefault, rfl⟩
  · refine .inl ?_
    rcases hbody with rfl | ⟨es, es', hold, rfl⟩
    · rfl
    · simp only [Node.kind, hold]
      cases old.tag? <;> rfl
  · exact .inr ⟨hdefault, ofTag_text⟩

theorem trans {mid : Node} (h : old.Becomes schema mid) (h' : mid.Becomes schema new) : old.Becomes schema new := by
  constructor
  · rcases h'.tag with hsame | ⟨hdefault, htag⟩
    · rw [hsame]
      exact h.tag
    · refine .inr ⟨?_, htag⟩
      rcases h.kind with hkind | ⟨-, htext⟩
      · rw [← hkind, hdefault]
      · cases hdefault.symm.trans htext
  · rcases h.body with hsame | ⟨es, es', hold, hmid⟩
    · rw [← hsame]
      exact h'.body
    · rcases h'.body with hsame' | ⟨-, es'', -, hnew⟩
      · exact .inr ⟨es, es', hold, hsame' ▸ hmid⟩
      · exact .inr ⟨es, es'', hold, hnew⟩

/-- A default key becomes a text. -/
theorem settle (h : old.Becomes schema new) (hkind : new.kind schema = .scalar .default) :
    old.Becomes schema { new with tag? := some (standardTag ++ "str") } :=
  h.trans ⟨.inr ⟨hkind, rfl⟩, .inl rfl⟩

/-- The entries of a mapping change. -/
theorem put (h : old.Becomes schema new) (hold : old.IsMapping) (es : List (Nat × Nat)) :
    old.Becomes schema { new with body := .mapping es } :=
  ⟨h.tag, .inr ⟨_, es, hold.choose_spec, rfl⟩⟩

theorem isMapping_iff (h : old.Becomes schema new) : new.IsMapping ↔ old.IsMapping := by
  rcases h.body with hsame | ⟨es, es', hold, hnew⟩
  · rw [Node.IsMapping, hsame, Node.IsMapping]
  · exact ⟨fun _ => ⟨es, hold⟩, fun _ => ⟨es', hnew⟩⟩

end Node.Becomes

/-- **What a scalar is read as** that carries no tag: a quoted one as its text, and a plain one as the value that its
text has, unless it was a default key. -/
structure Node.Reads (schema : Schema) (n : Node) (d : Datum) : Prop where
  quoted : ∀ s, n = { body := .scalar s false } → d = .text s
  plain : ∀ s, n = { body := .scalar s true } →
    Builder.scalarOf (schema.kindOf s) s = .ok d ∨ schema.kindOf s = .default ∧ d = .text s

theorem Node.Becomes.reads {old new : Node} {d : Datum} (h : old.Becomes schema new)
    (hreads : ∀ s isImplicit kind, new.body = .scalar s isImplicit → new.kind schema = .scalar kind →
      Builder.scalarOf kind s = .ok d) : old.Reads schema d := by
  constructor
  · rintro s rfl
    have hbody : new.body = .scalar s false := h.body.resolve_right (by simp)
    rcases h.kind with hkind | ⟨hdefault, -⟩
    · cases hreads s false .text hbody hkind
      rfl
    · cases hdefault
  · rintro s rfl
    have hbody : new.body = .scalar s true := h.body.resolve_right (by simp)
    rcases h.kind with hkind | ⟨hdefault, htext⟩
    · exact .inl (hreads s true _ hbody hkind)
    · cases hreads s true .text hbody htext
      exact .inr ⟨NodeKind.scalar.inj hdefault, rfl⟩


namespace Builder

variable {b b₀ b' : Builder}

/-! ## Merging -/

/-- The node with a number. -/
def nodeAt (b : Builder) (n : Nat) : Node :=
  b.nodes.getD n default

/-- The entries of the node with a number, if it is a mapping. -/
def entriesAt (b : Builder) (n : Nat) : List (Nat × Nat) :=
  match (b.nodeAt n).body with
  | .mapping es => es
  | _ => []

/-- The entries of a mapping are replaced. -/
def put (b : Builder) (n : Nat) (es : List (Nat × Nat)) : Builder :=
  { b with nodes := b.nodes.modify n fun node => { node with body := .mapping es } }

/-- A default key becomes a text. -/
def settle (b : Builder) (n : Nat) : Builder :=
  { b with nodes := b.nodes.modify n fun node => { node with tag? := some (standardTag ++ "str") } }

/-- **A mapping whose entries are final**: none of its keys is a mark. -/
structure IsSettled (schema : Schema) (b : Builder) (n : Nat) (es : List (Nat × Nat)) : Prop where
  body : (b.nodeAt n).body = .mapping es
  unmarked : ∀ e ∈ es, b.isMark schema e.1 = false

/-- **What merging does**: only nodes change, and settled mappings keep their entries. -/
structure Merges (schema : Schema) (b b' : Builder) : Prop where
  size : b'.nodes.size = b.nodes.size
  becomes : ∀ n, (b.nodeAt n).Becomes schema (b'.nodeAt n)
  settled : ∀ n es, IsSettled schema b n es → (b'.nodeAt n).body = .mapping es
  scalars : b'.scalars = b.scalars
  reached : b'.reached = b.reached
  waiting : b'.waiting = b.waiting

theorem isMark_eq (n : Nat) : b.isMark schema n =
    ((b.nodeAt n).kind schema == .scalar .merge || (b.nodeAt n).kind schema == .scalar .default) :=
  rfl

theorem entriesAt_eq {n : Nat} {es : List (Nat × Nat)} (h : (b.nodeAt n).body = .mapping es) : b.entriesAt n = es := by
  rw [entriesAt, h]

theorem nodeAt_modify (n m : Nat) (f : Node → Node) :
    (b.nodes.modify n f).getD m default = if n = m ∧ m < b.nodes.size then f (b.nodeAt m) else b.nodeAt m := by
  rw [nodeAt, Array.getD_eq_getD_getElem?, Array.getD_eq_getD_getElem?, Array.getElem?_modify]
  by_cases hm : m < b.nodes.size <;> by_cases hn : n = m <;> simp [hm, hn]

theorem nodeAt_put (n m : Nat) (es : List (Nat × Nat)) : (b.put n es).nodeAt m =
    if n = m ∧ m < b.nodes.size then { b.nodeAt m with body := .mapping es } else b.nodeAt m :=
  nodeAt_modify ..

theorem nodeAt_settle (n m : Nat) : (b.settle n).nodeAt m =
    if n = m ∧ m < b.nodes.size then { b.nodeAt m with tag? := some (standardTag ++ "str") } else b.nodeAt m :=
  nodeAt_modify ..

namespace Merges

theorem refl (b : Builder) : Merges schema b b :=
  ⟨rfl, fun _ => .refl _, fun _ _ h => h.body, rfl, rfl, rfl⟩

/-- What is no mark stays none. -/
theorem unmarked (h : Merges schema b b') {n : Nat} (hn : b.isMark schema n = false) : b'.isMark schema n = false := by
  rw [isMark_eq] at hn ⊢
  rcases (h.becomes n).kind with hsame | ⟨-, htext⟩
  · rw [hsame, hn]
  · rw [htext]
    rfl

theorem isSettled (h : Merges schema b b') {n : Nat} {es : List (Nat × Nat)} (hn : IsSettled schema b n es) :
    IsSettled schema b' n es :=
  ⟨h.settled n es hn, fun e he => h.unmarked (hn.unmarked e he)⟩

/-- A mapping with a mark was not settled before. -/
theorem not_settled (h : Merges schema b b') {n : Nat} {e : Nat × Nat} (he : e ∈ b'.entriesAt n)
    (hmark : b'.isMark schema e.1 = true) (es : List (Nat × Nat)) : ¬ IsSettled schema b n es := by
  intro hn
  rw [entriesAt_eq (h.settled n es hn)] at he
  rw [h.unmarked (hn.unmarked e he)] at hmark
  cases hmark

theorem put (h : Merges schema b₀ b) {n : Nat} (hbody : (b₀.nodeAt n).IsMapping)
    (hn : ∀ es, ¬ IsSettled schema b₀ n es) (es : List (Nat × Nat)) : Merges schema b₀ (b.put n es) := by
  refine ⟨?_, fun m => ?_, fun m es' hm => ?_, h.scalars, h.reached, h.waiting⟩
  · rw [← h.size]
    exact Array.size_modify
  · rw [nodeAt_put]
    split
    · rename_i hnm
      exact (h.becomes m).put (hnm.1 ▸ hbody) es
    · exact h.becomes m
  · have hne : n ≠ m := by
      rintro rfl
      exact hn es' hm
    rw [nodeAt_put, if_neg fun hnm => hne hnm.1]
    exact h.settled m es' hm

theorem settle (h : Merges schema b₀ b) {n : Nat} (hn : (b.nodeAt n).kind schema = .scalar .default) :
    Merges schema b₀ (b.settle n) := by
  refine ⟨?_, fun m => ?_, fun m es hm => ?_, h.scalars, h.reached, h.waiting⟩
  · rw [← h.size]
    exact Array.size_modify
  · rw [nodeAt_settle]
    split
    · rename_i hnm
      exact (h.becomes m).settle (hnm.1 ▸ hn)
    · exact h.becomes m
  · have hbody := h.settled m es hm
    rw [nodeAt_settle]
    split
    · exact hbody
    · exact hbody

end Merges

theorem run_node (n : Nat) : (node n).run b = .ok (b.nodeAt n, b) := rfl

theorem run_kind (n : Nat) : (kind schema n).run b = .ok ((b.nodeAt n).kind schema, b) := rfl

theorem run_entries (n : Nat) : (entries n).run b = .ok (b.entriesAt n, b) := by
  rw [entries, StateT.run_bind, run_node, bind_ok, entriesAt]
  cases (b.nodeAt n).body <;> rfl

theorem run_change_body (n : Nat) (es : List (Nat × Nat)) :
    (change n fun node => { node with body := .mapping es }).run b = .ok ((), b.put n es) := rfl

theorem run_change_tag (n : Nat) :
    (change n fun node => { node with tag? := some (standardTag ++ "str") }).run b = .ok ((), b.settle n) := rfl

theorem not_run_malformed {α : Type} {r : α × Builder} : (malformed : M α).run b ≠ .ok r := by
  intro h
  cases h

/-- What is merged in sequence, each merge from what the one before left. -/
theorem merges_of_mapM {α β : Type} {f : α → M β} {xs : List α} {r : List β × Builder}
    (hf : ∀ x b r, Merges schema b₀ b → (f x).run b = .ok r → Merges schema b₀ r.2) (h : Merges schema b₀ b)
    (hrun : (xs.mapM f).run b = .ok r) : Merges schema b₀ r.2 := by
  induction xs generalizing b r with
  | nil =>
    cases hrun
    exact h
  | cons x xs ih =>
    simp only [List.mapM_cons, StateT.run_bind, bind_eq_ok_iff] at hrun
    obtain ⟨p, hx, q, hxs, hrun⟩ := hrun
    cases hrun
    exact ih (r := q) (hf x b p h hx) hxs

/-- The first entry from `start` on that is looked for. -/
theorem found_of_findIdx {α : Type} {p : α → Bool} {xs : List α} {start : Nat} {x : α}
    (h : xs[start + (xs.drop start).findIdx p]? = some x) : x ∈ xs ∧ p x = true := by
  refine ⟨List.mem_of_getElem? h, ?_⟩
  rw [← List.getElem?_drop] at h
  obtain ⟨hlt, hget⟩ := List.getElem?_eq_some_iff.mp h
  exact hget ▸ List.findIdx_getElem

/-- **Merging** the mappings of a mapping.  If something was found to put in front of its entries, it was not
settled. -/
theorem merges_of_mergeFrom (fuel : Nat) {n start : Nat} {merged : List (Nat × Nat)} (h : Merges schema b₀ b)
    (hn : (b₀.nodeAt n).IsMapping) (hfound : merged = [] ∨ ∀ es, ¬ IsSettled schema b₀ n es)
    (hrun : (mergeFrom schema fuel n start merged).run b = .ok ((), b')) : Merges schema b₀ b' := by
  induction fuel generalizing b b' n start merged with
  | zero => exact absurd hrun not_run_malformed
  | succ fuel ih =>
    simp only [mergeFrom, StateT.run_bind, run_entries, StateT.run_get, bind_ok, pure_bind] at hrun
    split at hrun
    · rcases hfound with rfl | hfound
      · cases hrun
        exact h
      · split at hrun
        · rw [run_change_body] at hrun
          cases hrun
          exact h.put hn hfound _
        · cases hrun
          exact h
    · rename_i k v hkv
      obtain ⟨hmem, hmark⟩ := found_of_findIdx hkv
      have hfound := h.not_settled hmem hmark
      simp only [StateT.run_bind, run_kind, bind_ok] at hrun
      split at hrun
      · -- a merge key is taken away, and what its value holds is found
        simp only [StateT.run_bind, run_change_body, run_node, bind_ok] at hrun
        have herase := h.put hn hfound
        split at hrun
        · exact absurd hrun not_run_malformed
        · rename_i es hv
          simp only [StateT.run_bind, run_entries, bind_eq_ok_iff] at hrun
          obtain ⟨⟨⟨⟩, b₁⟩, hrun₁, p, hp, hrun⟩ := hrun
          cases hp
          have hv := ((herase _).becomes v).isMapping_iff.mp ⟨es, hv⟩
          exact ih (ih (herase _) hv (.inl rfl) hrun₁) hn (.inr hfound) hrun
        · simp only [StateT.run_bind, bind_eq_ok_iff] at hrun
          obtain ⟨⟨parts, b₁⟩, hrun₁, hrun⟩ := hrun
          refine ih (merges_of_mapM (fun item b r hb hitem => ?_) (herase _) hrun₁) hn (.inr hfound) hrun
          simp only [StateT.run_bind, run_node, bind_ok] at hitem
          split at hitem
          · rename_i es hv
            simp only [StateT.run_bind, run_entries, bind_eq_ok_iff] at hitem
            obtain ⟨⟨⟨⟩, b₁⟩, hrun₁, hitem⟩ := hitem
            cases hitem
            exact ih hb ((hb.becomes item).isMapping_iff.mp ⟨es, hv⟩) (.inl rfl) hrun₁
          · exact absurd hitem not_run_malformed
      · rename_i hkind
        simp only [StateT.run_bind, run_change_tag, bind_ok] at hrun
        refine ih (h.settle ?_) hn (.inr hfound) hrun
        rw [isMark_eq, Bool.or_eq_true, beq_iff_eq, beq_iff_eq] at hmark
        exact hmark.resolve_left hkind

end Builder

end CommandWrap.Yaml
