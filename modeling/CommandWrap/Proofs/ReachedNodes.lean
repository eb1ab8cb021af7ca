import CommandWrap.Proofs.BlockValues
import CommandWrap.Proofs.MergedNodes

/-!
# Reaching nodes

The nodes of a document are reached level by level.  A step of reaching gives a scalar its value or lets a container
wait (`Reaches`), and looking at a container that waits reaches what it holds (`expands_of_run`).  What holds all along
is `Sound`: a node that was reached is no mark, it is a container or has a value, and a container was looked at unless
it waits.  A level reaches a node or is the last one, so in the end nothing waits (`Builds.sound`).
-/
namespace CommandWrap.Yaml.Builder

variable {schema : Schema} {b b' : Builder}

/-- The node holds other nodes. -/
inductive IsContainer : NodeKind → Prop
  | list : IsContainer .list
  | pairs : IsContainer .pairs
  | map : IsContainer .map
  | keySet : IsContainer .keySet

/-- The node was not reached yet. -/
def IsFresh (b : Builder) (n : Nat) : Prop :=
  b.reached[n]? = some false

/-- A node has its value. -/
def give (b : Builder) (n : Nat) (d : Datum) : Builder :=
  { b with scalars := b.scalars.set! n (some d), reached := b.reached.set! n true }

/-- A container waits. -/
def await (b : Builder) (n : Nat) : Builder :=
  { b with waiting := n :: b.waiting, reached := b.reached.set! n true }

/-- **One step of reaching**: a node that was not reached before gets its value, or waits if it is a container. -/
inductive Reaches (schema : Schema) (b : Builder) : Builder → Prop
  | value {n : Nat} {d : Datum} (hfresh : b.IsFresh n) (hunmarked : b.isMark schema n = false)
    (hkind : ¬ IsContainer ((b.nodeAt n).kind schema))
    (hreads : ∀ s isImplicit kind, (b.nodeAt n).body = .scalar s isImplicit →
      (b.nodeAt n).kind schema = .scalar kind → scalarOf kind s = .ok d) : Reaches schema b (b.give n d)
  | container {n : Nat} (hfresh : b.IsFresh n) (hkind : IsContainer ((b.nodeAt n).kind schema)) :
    Reaches schema b (b.await n)

theorem unchanged_of_findM? {α : Type} {f : α → M Bool} (hf : ∀ x r, (f x).run b = .ok r → r.2 = b) {xs : List α}
    {r : Option α × Builder} (hrun : (xs.findM? f).run b = .ok r) : r.2 = b := by
  induction xs with
  | nil =>
    cases hrun
    rfl
  | cons x xs ih =>
    simp only [List.findM?, StateT.run_bind, bind_eq_ok_iff] at hrun
    obtain ⟨⟨isFound, b₁⟩, hx, hrun⟩ := hrun
    obtain rfl := hf x _ hx
    cases isFound with
    | true =>
      cases hrun
      rfl
    | false => exact ih hrun

/-- The text of a node is looked up; that of a scalar is its own. -/
theorem textOf_of_run {fuel n : Nat} {r : String × Builder} (hrun : (textOf schema fuel n).run b = .ok r) :
    r.2 = b ∧ ∀ s isImplicit, (b.nodeAt n).body = .scalar s isImplicit → r.1 = s := by
  induction fuel generalizing n with
  | zero => cases hrun
  | succ fuel ih =>
    simp only [textOf, StateT.run_bind, run_node, bind_ok] at hrun
    split at hrun
    · rename_i text isImplicit hbody
      cases hrun
      refine ⟨rfl, fun s isImplicit hs => ?_⟩
      cases hbody.symm.trans hs
      rfl
    · cases hrun
    · rename_i es hbody
      refine ⟨?_, fun s isImplicit hs => by cases hbody.symm.trans hs⟩
      simp only [StateT.run_bind, bind_eq_ok_iff] at hrun
      obtain ⟨⟨found?, b₁⟩, hfind, hrun⟩ := hrun
      obtain rfl : b₁ = b := unchanged_of_findM? (fun e r he => by cases he; rfl) hfind
      split at hrun
      · exact (ih hrun).1
      · cases hrun

/-- A step that begins with the text of a node. -/
theorem of_textOf_bind {fuel n : Nat} {f : String → M Unit}
    (hrun : (textOf schema fuel n >>= f).run b = .ok ((), b')) : ∃ text, (f text).run b = .ok ((), b') ∧
      ∀ s isImplicit, (b.nodeAt n).body = .scalar s isImplicit → text = s := by
  rw [StateT.run_bind] at hrun
  obtain ⟨⟨text, b₁⟩, htext, hrest⟩ := bind_eq_ok_iff.mp hrun
  obtain ⟨hsame, hown⟩ := textOf_of_run htext
  obtain rfl : b₁ = b := hsame
  exact ⟨text, hrest, hown⟩

/-- What is kept of a value. -/
theorem give_of_run {n : Nat} {x : Except Fault Datum} (hrun : StateT.run (do
      let d ← x
      modify fun s => { s with scalars := s.scalars.set! n (some d) }
      modify fun s => { s with reached := s.reached.set! n true } : M Unit) b = .ok ((), b')) :
    ∃ d, x = .ok d ∧ b' = b.give n d := by
  cases x with
  | error => cases hrun
  | ok d =>
    cases hrun
    exact ⟨d, rfl, rfl⟩

theorem isFresh_set {reached : Array Bool} {n m : Nat} :
    (reached.set! n true)[m]? = some false ↔ n ≠ m ∧ reached[m]? = some false := by
  rw [Array.set!_eq_setIfInBounds, Array.getElem?_setIfInBounds]
  by_cases hnm : n = m
  · subst hnm
    simp
  · simp [hnm]

theorem not_isFresh_set (reached : Array Bool) (n : Nat) : (reached.set! n true)[n]? ≠ some false :=
  fun hfresh => (isFresh_set.mp hfresh).1 rfl

theorem isFresh_iff_getD {n : Nat} : b.IsFresh n ↔ b.reached.getD n true = false := by
  rw [IsFresh, Array.getD_eq_getD_getElem?]
  cases b.reached[n]? <;> simp

/-- A scalar is neither a mark nor a container. -/
theorem scalar_unmarked {n : Nat} {kind : ScalarKind} (hkind : (b.nodeAt n).kind schema = .scalar kind)
    (hvalued : ¬ (kind = .merge ∨ kind = .default ∨ kind = .indicator)) :
    b.isMark schema n = false ∧ ¬ IsContainer ((b.nodeAt n).kind schema) := by
  rw [isMark_eq, hkind]
  refine ⟨?_, fun hcontainer => by cases hcontainer⟩
  cases kind with
  | merge => exact absurd (.inl rfl) hvalued
  | default => exact absurd (.inr (.inl rfl)) hvalued
  | _ => rfl

/-- A fresh scalar is given the value of its text. -/
theorem reaches_scalar {n : Nat} {kind : ScalarKind} {text : String} {d : Datum} (hfresh : b.IsFresh n)
    (hkind : (b.nodeAt n).kind schema = .scalar kind)
    (hvalued : ¬ (kind = .merge ∨ kind = .default ∨ kind = .indicator))
    (htext : ∀ s isImplicit, (b.nodeAt n).body = .scalar s isImplicit → text = s) (hd : scalarOf kind text = .ok d) :
    Reaches schema b (b.give n d) := by
  obtain ⟨hunmarked, hcontainer⟩ := scalar_unmarked hkind hvalued
  refine .value hfresh hunmarked hcontainer fun s isImplicit kind' hs hkind' => ?_
  cases hkind.symm.trans hkind'
  exact htext s isImplicit hs ▸ hd

/-- A fresh node of bytes is given some value. -/
theorem reaches_binary {n : Nat} (hfresh : b.IsFresh n) (hkind : (b.nodeAt n).kind schema = .binary) (d : Datum) :
    Reaches schema b (b.give n d) := by
  refine .value hfresh ?_ ?_ fun s isImplicit kind hs hkind' => ?_
  · rw [isMark_eq, hkind]
    rfl
  · rw [hkind]
    rintro ⟨⟩
  · cases hkind.symm.trans hkind'

/-- **Reaching a node**: it is not fresh any more. -/
theorem reaches_of_run {n : Nat} (hrun : (reach schema n).run b = .ok ((), b')) :
    Relation.ReflGen (Reaches schema) b b' ∧ ¬ b'.IsFresh n := by
  simp only [reach, StateT.run_bind, StateT.run_get, pure_bind] at hrun
  split at hrun
  · rename_i hreached
    cases hrun
    refine ⟨.refl, fun hfresh => ?_⟩
    rw [isFresh_iff_getD.mp hfresh] at hreached
    cases hreached
  rename_i hfresh
  have hfresh : b.IsFresh n := isFresh_iff_getD.mpr (Bool.eq_false_iff.mpr hfresh)
  simp only [StateT.run_bind, run_kind, bind_ok, StateT.run_get, pure_bind] at hrun
  -- scalars and bytes are given values, a container waits
  split at hrun
  · rename_i kind hkind
    split at hrun
    · cases hrun
    · rename_i hvalued
      obtain ⟨text, hrest, htext⟩ := of_textOf_bind hrun
      obtain ⟨d, hd, rfl⟩ : ∃ d, scalarOf kind text = .ok d ∧ b' = b.give n d := by
        split at hrest
        · simp only [StateT.run_bind, run_node, bind_ok] at hrest
          split at hrest
          · cases hrest
          · exact give_of_run hrest
        · exact give_of_run hrest
      exact ⟨.single (reaches_scalar hfresh hkind hvalued htext hd), not_isFresh_set b.reached n⟩
  · rename_i hkind
    obtain ⟨text, hrest, -⟩ := of_textOf_bind hrun
    obtain ⟨d, -, rfl⟩ := give_of_run hrest
    exact ⟨.single (reaches_binary hfresh hkind d), not_isFresh_set b.reached n⟩
  · cases hrun
  · rename_i hscalar hbinary hunknown
    cases hrun
    refine ⟨.single (.container hfresh ?_), not_isFresh_set b.reached n⟩
    cases hkind : (b.nodeAt n).kind schema with
    | scalar kind => exact absurd hkind (hscalar kind)
    | binary => exact absurd hkind hbinary
    | unknown => exact absurd hkind hunknown
    | list => exact .list
    | pairs => exact .pairs
    | map => exact .map
    | keySet => exact .keySet

/-- Steps of reaching. -/
abbrev Chain (schema : Schema) : Builder → Builder → Prop :=
  Relation.ReflTransGen (Reaches schema)

theorem getElem?_give {n m : Nat} {d : Datum} : (b.give n d).scalars[m]? =
    if n = m then (if n < b.scalars.size then some (some d) else none) else b.scalars[m]? := by
  simp [give, Array.set!_eq_setIfInBounds, Array.getElem?_setIfInBounds]

namespace Reaches

theorem nodes (h : Reaches schema b b') : b'.nodes = b.nodes := by
  cases h <;> rfl

theorem isFresh (h : Reaches schema b b') {n : Nat} (hn : b'.IsFresh n) : b.IsFresh n := by
  cases h <;> exact (isFresh_set.mp hn).2

theorem waiting (h : Reaches schema b b') {n : Nat} (hn : n ∈ b.waiting) : n ∈ b'.waiting := by
  cases h with
  | value => exact hn
  | container => exact List.mem_cons_of_mem _ hn

/-- A value stays, or is given anew. -/
theorem valued (h : Reaches schema b b') {n : Nat} (hn : ∃ d, b.scalars[n]? = some (some d)) :
    ∃ d, b'.scalars[n]? = some (some d) := by
  cases h with
  | @value m d =>
    rw [getElem?_give]
    by_cases hmn : m = n
    · subst hmn
      obtain ⟨d', hd'⟩ := hn
      have hlt : m < b.scalars.size := (Array.getElem?_eq_some_iff.mp hd').1
      exact ⟨d, by rw [if_pos rfl, if_pos hlt]⟩
    · rwa [if_neg hmn]
  | container => exact hn

end Reaches

namespace Chain

theorem nodes (h : Chain schema b b') : b'.nodes = b.nodes := by
  induction h with
  | refl => rfl
  | tail _ hstep ih => exact hstep.nodes.trans ih

theorem nodeAt (h : Chain schema b b') (n : Nat) : b'.nodeAt n = b.nodeAt n := by
  rw [Builder.nodeAt, h.nodes, Builder.nodeAt]

theorem isFresh (h : Chain schema b b') {n : Nat} (hn : b'.IsFresh n) : b.IsFresh n := by
  induction h with
  | refl => exact hn
  | tail _ hstep ih => exact ih (hstep.isFresh hn)

theorem valued (h : Chain schema b b') {n : Nat} (hn : ∃ d, b.scalars[n]? = some (some d)) :
    ∃ d, b'.scalars[n]? = some (some d) := by
  induction h with
  | refl => exact hn
  | tail _ hstep ih => exact hstep.valued ih

end Chain

/-- One step of reaching after the other. -/
theorem chain_of_forM {α : Type} {f : α → M Unit} {P : α → Builder → Prop} {xs : List α}
    (hstep : ∀ x b b', (f x).run b = .ok ((), b') → Chain schema b b' ∧ P x b')
    (hkeep : ∀ x b b', Chain schema b b' → P x b → P x b') (hrun : (xs.forM f).run b = .ok ((), b')) :
    Chain schema b b' ∧ ∀ x ∈ xs, P x b' := by
  induction xs generalizing b with
  | nil =>
    cases hrun
    exact ⟨.refl, List.forall_mem_nil _⟩
  | cons x xs ih =>
    change (f x >>= fun _ => xs.forM f).run b = _ at hrun
    rw [StateT.run_bind] at hrun
    obtain ⟨⟨⟨⟩, b₁⟩, hx, hrun⟩ := bind_eq_ok_iff.mp hrun
    obtain ⟨hchain, hP⟩ := hstep x b b₁ hx
    obtain ⟨hchain', hxs⟩ := ih hrun
    exact ⟨hchain.trans hchain', List.forall_mem_cons.mpr ⟨hkeep x b₁ b' hchain' hP, hxs⟩⟩

/-- **Reaching an entry**: its key has a value, and neither node is fresh any more. -/
theorem reaches_of_reachEntry {e : Nat × Nat} (hrun : (reachEntry schema e).run b = .ok ((), b')) :
    Chain schema b b' ∧ ¬ b'.IsFresh e.1 ∧ (∃ d, b'.scalars[e.1]? = some (some d)) ∧ ¬ b'.IsFresh e.2 := by
  rw [reachEntry, StateT.run_bind] at hrun
  obtain ⟨⟨⟨⟩, b₁⟩, hkey, hrun⟩ := bind_eq_ok_iff.mp hrun
  obtain ⟨hchain, hfresh⟩ := reaches_of_run hkey
  simp only [isKey, StateT.run_bind, StateT.run_get, pure_bind, StateT.run_pure] at hrun
  split at hrun
  · simp only [StateT.run_bind, bind_eq_ok_iff] at hrun
    obtain ⟨_, hmalformed, _⟩ := hrun
    exact absurd hmalformed not_run_malformed
  · rename_i hscalar
    obtain ⟨hchain', hfresh'⟩ := reaches_of_run hrun
    have hvalued : ∃ d, b₁.scalars[e.1]? = some (some d) := by
      rw [Array.getD_eq_getD_getElem?] at hscalar
      cases hget : b₁.scalars[e.1]? with
      | none => simp [hget] at hscalar
      | some d? =>
        cases d? with
        | none => simp [hget] at hscalar
        | some d => exact ⟨d, rfl⟩
    have hchain'' := hchain'.to_reflTransGen
    exact ⟨hchain.to_reflTransGen.trans hchain'', fun hn => hfresh (Chain.isFresh hchain'' hn),
      Chain.valued hchain'' hvalued, hfresh'⟩

theorem chain_of_reachItems {items : List Nat} (hrun : (items.forM (reach schema)).run b = .ok ((), b')) :
    Chain schema b b' ∧ ∀ i ∈ items, ¬ b'.IsFresh i := by
  refine chain_of_forM (P := fun i b => ¬ b.IsFresh i) (fun i b b' hi => ?_) (fun i b b' hchain hi hfresh => ?_) hrun
  · exact (reaches_of_run hi).imp_left Relation.ReflGen.to_reflTransGen
  · exact hi (hchain.isFresh hfresh)

theorem chain_of_reachEntries {es : List (Nat × Nat)} (hrun : (es.forM (reachEntry schema)).run b = .ok ((), b')) :
    Chain schema b b' ∧
      ∀ e ∈ es, ¬ b'.IsFresh e.1 ∧ (∃ d, b'.scalars[e.1]? = some (some d)) ∧ ¬ b'.IsFresh e.2 := by
  refine chain_of_forM
    (P := fun e b => ¬ b.IsFresh e.1 ∧ (∃ d, b.scalars[e.1]? = some (some d)) ∧ ¬ b.IsFresh e.2)
    (fun e b b' he => reaches_of_reachEntry he) (fun e b b' hchain he => ?_) hrun
  obtain ⟨hkey, hvalued, hvalue⟩ := he
  exact ⟨fun hfresh => hkey (hchain.isFresh hfresh), hchain.valued hvalued, fun hfresh => hvalue (hchain.isFresh hfresh)⟩

/-- Reach the nodes of a pair. -/
def reachPair (schema : Schema) (n : Nat) : M Unit := do
  match (← node n).body with
  | .mapping [(k, v)] => do
    reach schema k
    reach schema v
  | _ => malformed

theorem chain_of_reachPair {n : Nat} (hrun : (reachPair schema n).run b = .ok ((), b')) : Chain schema b b' := by
  simp only [reachPair, StateT.run_bind, run_node, bind_ok] at hrun
  split at hrun
  · rw [StateT.run_bind] at hrun
    obtain ⟨⟨⟨⟩, b₁⟩, hkey, hvalue⟩ := bind_eq_ok_iff.mp hrun
    exact (reaches_of_run hkey).1.to_reflTransGen.trans (reaches_of_run hvalue).1.to_reflTransGen
  · cases hrun

/-- **Looking at a container**: nodes are merged and then reached; the items of a list are reached, and the keys and
values of a map. -/
theorem expands_of_run {n : Nat} (hrun : (expand schema n).run b = .ok ((), b')) :
    ∃ b₁, Merges schema b b₁ ∧ Chain schema b₁ b' ∧
      ((b.nodeAt n).kind schema = .list →
        ∃ items, (b₁.nodeAt n).body = .sequence items ∧ ∀ i ∈ items, ¬ b'.IsFresh i) ∧
      ((b.nodeAt n).kind schema = .map ∨ (b.nodeAt n).kind schema = .keySet → ∃ es, (b₁.nodeAt n).body = .mapping es ∧
        ∀ e ∈ es, ¬ b'.IsFresh e.1 ∧ (∃ d, b'.scalars[e.1]? = some (some d)) ∧ ¬ b'.IsFresh e.2) := by
  simp only [expand, StateT.run_bind, run_kind, bind_ok] at hrun
  split at hrun
  · rename_i hkind
    simp only [StateT.run_bind, run_node, bind_ok] at hrun
    split at hrun
    · rename_i items hbody
      obtain ⟨hchain, hitems⟩ := chain_of_reachItems hrun
      refine ⟨b, .refl b, hchain, fun _ => ⟨items, hbody, hitems⟩, fun hmap => ?_⟩
      simp [hkind] at hmap
    · cases hrun
  · rename_i hkind
    simp only [StateT.run_bind, run_node, bind_ok] at hrun
    split at hrun
    · rename_i items hbody
      obtain ⟨hchain, -⟩ := chain_of_forM (f := reachPair schema) (P := fun _ _ => True)
        (fun item b b' hitem => ⟨chain_of_reachPair hitem, trivial⟩) (fun _ _ _ _ _ => trivial) hrun
      refine ⟨b, .refl b, hchain, fun hlist => ?_, fun hmap => ?_⟩
      · cases hkind.symm.trans hlist
      · simp [hkind] at hmap
    · cases hrun
  · rename_i hlist hpairs
    simp only [StateT.run_bind, run_node, bind_ok] at hrun
    split at hrun
    · rename_i es hbody
      -- whether keys are repeated is looked up even if that does not count
      obtain ⟨isRepeated, hrepeated⟩ : Looks b (hasRepeatedKey schema es) := looks_hasRepeatedKey es
      obtain ⟨fuel, hfuel⟩ := run_mergeFuel b
      rw [StateT.run_bind, hrepeated, bind_ok] at hrun
      split at hrun
      · cases hrun
      · simp only [StateT.run_bind, hfuel, bind_ok] at hrun
        obtain ⟨⟨⟨⟩, b₁⟩, hmerge, hrun⟩ := bind_eq_ok_iff.mp hrun
        simp only [run_entries, bind_ok] at hrun
        have hmerges := merges_of_mergeFrom _ (.refl b) ⟨es, hbody⟩ (.inl rfl) hmerge
        obtain ⟨hchain, hentries⟩ := chain_of_reachEntries hrun
        refine ⟨b₁, hmerges, hchain, fun hkind => absurd hkind hlist, fun _ => ⟨b₁.entriesAt n, ?_, hentries⟩⟩
        obtain ⟨es', hes'⟩ := (hmerges.becomes n).isMapping_iff.mpr ⟨es, hbody⟩
        rw [hes', entriesAt_eq hes']
    · cases hrun

/-! ## What holds all along -/

/-- **A container that was looked at**: what it holds was reached, and the keys of a map have values. -/
structure IsExpanded (schema : Schema) (b : Builder) (n : Nat) : Prop where
  list : (b.nodeAt n).kind schema = .list → ∃ items, (b.nodeAt n).body = .sequence items ∧ ∀ i ∈ items, ¬ b.IsFresh i
  map : (b.nodeAt n).kind schema = .map ∨ (b.nodeAt n).kind schema = .keySet → ∃ es, IsSettled schema b n es ∧
    ∀ e ∈ es, (∃ d, b.scalars[e.1]? = some (some d)) ∧ ¬ b.IsFresh e.2

/-- **What holds all along**, from the nodes of the document on: a node that was reached is no mark, it is a container
or has a value, and it was looked at unless it waits, now or on the level that is looked at. -/
structure Sound (schema : Schema) (nodes : Array Node) (pending : List Nat) (b : Builder) : Prop where
  size : b.nodes.size = nodes.size
  scalarsSize : b.scalars.size = nodes.size
  reachedSize : b.reached.size = nodes.size
  becomes : ∀ n, (nodes.getD n default).Becomes schema (b.nodeAt n)
  unmarked : ∀ n < nodes.size, ¬ b.IsFresh n → b.isMark schema n = false
  valued : ∀ n < nodes.size, ¬ b.IsFresh n →
    IsContainer ((b.nodeAt n).kind schema) ∨ ∃ d, b.scalars[n]? = some (some d)
  simple : ∀ n d, b.scalars[n]? = some (some d) → ¬ IsContainer ((b.nodeAt n).kind schema)
  reads : ∀ n d, b.scalars[n]? = some (some d) → (nodes.getD n default).Reads schema d
  expanded : ∀ n < nodes.size, ¬ b.IsFresh n → IsContainer ((b.nodeAt n).kind schema) →
    n ∈ b.waiting ∨ n ∈ pending ∨ IsExpanded schema b n

variable {nodes : Array Node} {pending : List Nat}

theorem isContainer_unmarked {n : Nat} (h : IsContainer ((b.nodeAt n).kind schema)) : b.isMark schema n = false := by
  rw [isMark_eq]
  cases hkind : (b.nodeAt n).kind schema with
  | scalar => 
    rw [hkind] at h
    cases h
  | _ => rfl

theorem IsExpanded.chain {n : Nat} (h : IsExpanded schema b n) (hchain : Chain schema b b') :
    IsExpanded schema b' n := by
  constructor
  · rw [hchain.nodeAt]
    intro hkind
    obtain ⟨items, hbody, hitems⟩ := h.list hkind
    exact ⟨items, hbody, fun i hi hn => hitems i hi (hchain.isFresh hn)⟩
  · rw [hchain.nodeAt]
    intro hkind
    obtain ⟨es, hsettled, hes⟩ := h.map hkind
    refine ⟨es, ⟨?_, fun e he => ?_⟩, fun e he => ⟨hchain.valued (hes e he).1, fun hn => ?_⟩⟩
    · rw [hchain.nodeAt]
      exact hsettled.body
    · rw [isMark_eq, hchain.nodeAt]
      exact hsettled.unmarked e he
    · exact (hes e he).2 (hchain.isFresh hn)

theorem Merges.isContainer_iff (h : Merges schema b b') (n : Nat) {kind : NodeKind} (hkind : IsContainer kind) :
    (b'.nodeAt n).kind schema = kind ↔ (b.nodeAt n).kind schema = kind := by
  rcases (h.becomes n).kind with hsame | ⟨hdefault, htext⟩
  · rw [hsame]
  · rw [hdefault, htext]
    constructor <;> (rintro rfl; cases hkind)

theorem Merges.isFresh_iff (h : Merges schema b b') (n : Nat) : b'.IsFresh n ↔ b.IsFresh n := by
  rw [IsFresh, h.reached, IsFresh]

theorem IsExpanded.merges {n : Nat} (h : IsExpanded schema b n) (hmerges : Merges schema b b') :
    IsExpanded schema b' n := by
  constructor
  · intro hkind
    obtain ⟨items, hbody, hitems⟩ := h.list ((hmerges.isContainer_iff n .list).mp hkind)
    refine ⟨items, ?_, fun i hi => mt (hmerges.isFresh_iff i).mp (hitems i hi)⟩
    rcases (hmerges.becomes n).body with hsame | ⟨es, es', hold, -⟩
    · rw [hsame, hbody]
    · cases hbody.symm.trans hold
  · intro hkind
    obtain ⟨es, hsettled, hes⟩ := h.map
      (hkind.imp (hmerges.isContainer_iff n .map).mp (hmerges.isContainer_iff n .keySet).mp)
    refine ⟨es, hmerges.isSettled hsettled, fun e he => ⟨?_, mt (hmerges.isFresh_iff e.2).mp (hes e he).2⟩⟩
    rw [hmerges.scalars]
    exact (hes e he).1

/-- A container that was looked at stays so, and one that waits goes on waiting. -/
theorem Sound.expanded_of_reaches (h : Sound schema nodes pending b) (hreaches : Reaches schema b b') {n : Nat}
    (hn : n < nodes.size) (hfresh : ¬ b.IsFresh n) (hkind : IsContainer ((b.nodeAt n).kind schema)) :
    n ∈ b'.waiting ∨ n ∈ pending ∨ IsExpanded schema b' n :=
  (h.expanded n hn hfresh hkind).imp hreaches.waiting (Or.imp_right fun hdone => hdone.chain (.single hreaches))

theorem eq_or_not_isFresh {reached : Array Bool} {m n : Nat} (hn : ¬ (reached.set! m true)[n]? = some false) :
    m = n ∨ ¬ reached[n]? = some false := by
  rw [isFresh_set, not_and] at hn
  exact or_iff_not_imp_left.mpr hn

/-- What giving a node its value changes. -/
theorem Sound.give (h : Sound schema nodes pending b) {m : Nat} {d : Datum} (hfresh : b.IsFresh m)
    (hunmarked : b.isMark schema m = false) (hkind : ¬ IsContainer ((b.nodeAt m).kind schema))
    (hreads : ∀ s isImplicit kind, (b.nodeAt m).body = .scalar s isImplicit →
      (b.nodeAt m).kind schema = .scalar kind → scalarOf kind s = .ok d) :
    Sound schema nodes pending (b.give m d) where
  size := h.size
  scalarsSize := by simp [Builder.give, h.scalarsSize]
  reachedSize := by simp [Builder.give, h.reachedSize]
  becomes := h.becomes
  unmarked n hn hn' := by
    rcases eq_or_not_isFresh hn' with rfl | hold
    · exact hunmarked
    · exact h.unmarked n hn hold
  valued n hn hn' := by
    rcases eq_or_not_isFresh hn' with rfl | hold
    · exact .inr ⟨d, by rw [getElem?_give, if_pos rfl, if_pos (h.scalarsSize ▸ hn)]⟩
    · exact (h.valued n hn hold).imp_right (Reaches.value hfresh hunmarked hkind hreads).valued
  simple n d' hd' := by
    rw [getElem?_give] at hd'
    split at hd'
    · rename_i hmn
      exact hmn ▸ hkind
    · exact h.simple n d' hd'
  reads n d' hd' := by
    rw [getElem?_give] at hd'
    split at hd'
    · rename_i hmn
      subst hmn
      split at hd'
      · cases hd'
        exact (h.becomes m).reads hreads
      · cases hd'
    · exact h.reads n d' hd'
  expanded n hn hn' hkind' := by
    rcases eq_or_not_isFresh hn' with rfl | hold
    · exact absurd hkind' hkind
    · exact h.expanded_of_reaches (.value hfresh hunmarked hkind hreads) hn hold hkind'

/-- What letting a container wait changes. -/
theorem Sound.await (h : Sound schema nodes pending b) {m : Nat} (hfresh : b.IsFresh m)
    (hkind : IsContainer ((b.nodeAt m).kind schema)) : Sound schema nodes pending (b.await m) where
  size := h.size
  scalarsSize := h.scalarsSize
  reachedSize := by simp [Builder.await, h.reachedSize]
  becomes := h.becomes
  unmarked n hn hn' := by
    rcases eq_or_not_isFresh hn' with rfl | hold
    · exact isContainer_unmarked hkind
    · exact h.unmarked n hn hold
  valued n hn hn' := by
    rcases eq_or_not_isFresh hn' with rfl | hold
    · exact .inl hkind
    · exact h.valued n hn hold
  simple := h.simple
  reads := h.reads
  expanded n hn hn' hkind' := by
    rcases eq_or_not_isFresh hn' with rfl | hold
    · exact .inl List.mem_cons_self
    · exact h.expanded_of_reaches (.container hfresh hkind) hn hold hkind'

/-- **One step of reaching keeps what holds all along.** -/
theorem Sound.reaches (h : Sound schema nodes pending b) (hreaches : Reaches schema b b') :
    Sound schema nodes pending b' := by
  cases hreaches with
  | value hfresh hunmarked hkind hreads => exact h.give hfresh hunmarked hkind hreads
  | container hfresh hkind => exact h.await hfresh hkind

theorem Sound.chain (h : Sound schema nodes pending b) (hchain : Chain schema b b') :
    Sound schema nodes pending b' := by
  induction hchain with
  | refl => exact h
  | tail _ hstep ih => exact ih.reaches hstep

/-- What merging changes. -/
theorem Sound.merges (h : Sound schema nodes pending b) (hmerges : Merges schema b b') :
    Sound schema nodes pending b' := by
  have hfresh (n : Nat) : ¬ b'.IsFresh n → ¬ b.IsFresh n := mt (hmerges.isFresh_iff n).mpr
  have hkind (n : Nat) (hn : IsContainer ((b'.nodeAt n).kind schema)) : IsContainer ((b.nodeAt n).kind schema) :=
    (hmerges.isContainer_iff n hn).mp rfl ▸ hn
  refine ⟨hmerges.size.trans h.size, hmerges.scalars ▸ h.scalarsSize, hmerges.reached ▸ h.reachedSize,
    fun n => (h.becomes n).trans (hmerges.becomes n), fun n hn hn' => hmerges.unmarked (h.unmarked n hn (hfresh n hn')),
    fun n hn hn' => ?_, ?_, ?_, fun n hn hn' hn'' => ?_⟩
  · rw [hmerges.scalars]
    refine (h.valued n hn (hfresh n hn')).imp_left fun hold => ?_
    rwa [(hmerges.isContainer_iff n hold).mpr rfl]
  · rw [hmerges.scalars]
    exact fun n d hd hn => h.simple n d hd (hkind n hn)
  · rw [hmerges.scalars]
    exact h.reads
  · rw [hmerges.waiting]
    exact (h.expanded n hn (hfresh n hn') (hkind n hn'')).imp_right (Or.imp_right fun hdone => hdone.merges hmerges)

/-! ## All levels -/

/-- **Looking at a pending container.** -/
theorem Sound.expand {n : Nat} (h : Sound schema nodes (n :: pending) b)
    (hrun : (expand schema n).run b = .ok ((), b')) : Sound schema nodes pending b' := by
  obtain ⟨b₁, hmerges, hchain, hlist, hmap⟩ := expands_of_run hrun
  have h' := (h.merges hmerges).chain hchain
  refine { h' with expanded := fun m hm hm' hkind => ?_ }
  rcases h'.expanded m hm hm' hkind with hwait | hpending | hdone
  · exact .inl hwait
  · rcases List.mem_cons.mp hpending with rfl | hpending
    · refine .inr (.inr ⟨fun hkind => ?_, fun hkind => ?_⟩)
      · rw [hchain.nodeAt] at hkind ⊢
        exact hlist ((hmerges.isContainer_iff m .list).mp hkind)
      · rw [hchain.nodeAt] at hkind
        obtain ⟨es, hbody, hes⟩ := hmap
          (hkind.imp (hmerges.isContainer_iff m .map).mp (hmerges.isContainer_iff m .keySet).mp)
        refine ⟨es, ⟨by rw [hchain.nodeAt, hbody], fun e he => ?_⟩, fun e he => (hes e he).2⟩
        obtain ⟨hfresh, ⟨d, hd⟩, -⟩ := hes e he
        exact h'.unmarked e.1 (h'.scalarsSize ▸ (Array.getElem?_eq_some_iff.mp hd).1) hfresh
    · exact .inr (.inl hpending)
  · exact .inr (.inr hdone)

/-- The containers that wait and the nodes that may still be reached. -/
def ahead (b : Builder) : Nat :=
  b.waiting.length + b.reached.count false

theorem Reaches.ahead (h : Reaches schema b b') : b'.ahead ≤ b.ahead := by
  have hcount {n : Nat} (hn : b.IsFresh n) : (b.reached.set! n true).count false + 1 = b.reached.count false := by
    obtain ⟨hlt, hget⟩ := Array.getElem?_eq_some_iff.mp hn
    rw [Array.set!_eq_setIfInBounds, Array.setIfInBounds_def, dif_pos hlt, Array.count_set hlt]
    have hpos : 0 < b.reached.count false := Array.count_pos_iff.mpr (hget ▸ Array.getElem_mem hlt)
    simp [hget]
    omega
  cases h with
  | value hfresh =>
    have := hcount hfresh
    simp only [Builder.ahead, give]
    omega
  | container hfresh =>
    have := hcount hfresh
    simp only [Builder.ahead, await, List.length_cons]
    omega

/-- No more is ahead than before, and no node is fresh again. -/
structure Advances (b b' : Builder) : Prop where
  ahead : b'.ahead ≤ b.ahead
  isFresh : ∀ n, b'.IsFresh n → b.IsFresh n

theorem Advances.refl (b : Builder) : Advances b b :=
  ⟨Nat.le_refl _, fun _ => id⟩

theorem Advances.trans {b'' : Builder} (h : Advances b b') (h' : Advances b' b'') : Advances b b'' :=
  ⟨h'.ahead.trans h.ahead, fun n hn => h.isFresh n (h'.isFresh n hn)⟩

theorem Chain.advances (h : Chain schema b b') : Advances b b' := by
  induction h with
  | refl => exact .refl b
  | tail _ hstep ih => exact ih.trans ⟨hstep.ahead, fun n => hstep.isFresh⟩

theorem Merges.advances (h : Merges schema b b') : Advances b b' := by
  refine ⟨Nat.le_of_eq ?_, fun n => (h.isFresh_iff n).mp⟩
  rw [ahead, h.waiting, h.reached, ahead]

theorem advances_of_expand {n : Nat} (hrun : (expand schema n).run b = .ok ((), b')) : Advances b b' := by
  obtain ⟨b₁, hmerges, hchain, -⟩ := expands_of_run hrun
  exact hmerges.advances.trans hchain.advances

/-- **Looking at a level.** -/
theorem Sound.level {ns : List Nat} (h : Sound schema nodes ns b)
    (hrun : (ns.forM (Builder.expand schema)).run b = .ok ((), b')) :
    Sound schema nodes [] b' ∧ Advances b b' := by
  induction ns generalizing b with
  | nil =>
    cases hrun
    exact ⟨h, .refl _⟩
  | cons n ns ih =>
    change (Builder.expand schema n >>= fun _ => ns.forM (Builder.expand schema)).run b = _ at hrun
    rw [StateT.run_bind] at hrun
    obtain ⟨⟨⟨⟩, b₁⟩, hn, hns⟩ := bind_eq_ok_iff.mp hrun
    obtain ⟨h', hadvances⟩ := ih (h.expand hn) hns
    exact ⟨h', (advances_of_expand hn).trans hadvances⟩

/-- **All levels** are looked at: in the end nothing waits, because every level reaches a node or is the last. -/
theorem Sound.expandAll {fuel : Nat} (h : Sound schema nodes [] b) (hfuel : b.ahead < fuel)
    (hrun : (Builder.expandAll schema fuel).run b = .ok ((), b')) :
    Sound schema nodes [] b' ∧ b'.waiting = [] ∧ Advances b b' := by
  induction fuel generalizing b with
  | zero => exact absurd hfuel (Nat.not_lt_zero _)
  | succ fuel ih =>
    simp only [Builder.expandAll, StateT.run_bind, StateT.run_get, pure_bind] at hrun
    split at hrun
    · rename_i hempty
      cases hrun
      exact ⟨h, List.reverse_eq_nil_iff.mp (List.isEmpty_iff.mp hempty), .refl _⟩
    · rename_i hfull
      change (b.waiting.reverse.forM (Builder.expand schema) >>= fun _ => Builder.expandAll schema fuel).run
        { b with waiting := [] } = _ at hrun
      rw [StateT.run_bind] at hrun
      obtain ⟨⟨⟨⟩, b₁⟩, hlevel, hrest⟩ := bind_eq_ok_iff.mp hrun
      have hpending : Sound schema nodes b.waiting.reverse { b with waiting := [] } := by
        refine ⟨h.size, h.scalarsSize, h.reachedSize, h.becomes, h.unmarked, h.valued, h.simple,
          h.reads, fun n hn hn' hkind => ?_⟩
        rcases h.expanded n hn hn' hkind with hwait | hnone | hdone
        · exact .inr (.inl (List.mem_reverse.mpr hwait))
        · cases hnone
        · refine .inr (.inr ⟨hdone.list, fun hmap => ?_⟩)
          obtain ⟨es, hsettled, hes⟩ := hdone.map hmap
          exact ⟨es, ⟨hsettled.body, hsettled.unmarked⟩, hes⟩
      obtain ⟨h₁, hadvances⟩ := hpending.level hlevel
      have hpos : 0 < b.waiting.length := by
        rw [List.isEmpty_iff, List.reverse_eq_nil_iff] at hfull
        exact List.length_pos_iff.mpr hfull
      have hless : b₁.ahead < fuel := by
        have hle := hadvances.ahead
        simp only [ahead, List.length_nil] at hle hfuel ⊢
        omega
      obtain ⟨h₂, hempty, hadvances'⟩ := ih h₁ hless hrest
      have hcleared : Advances b { b with waiting := [] } := ⟨by simp [ahead], fun _ => id⟩
      exact ⟨h₂, hempty, hcleared.trans (hadvances.trans hadvances')⟩

/-- What is known when building begins. -/
def start (nodes : Array Node) : Builder :=
  { nodes, scalars := Array.replicate nodes.size none, reached := Array.replicate nodes.size false }

theorem sound_start (nodes : Array Node) : Sound schema nodes [] (start nodes) := by
  have hfresh (n : Nat) (hn : n < nodes.size) : (start nodes).IsFresh n := by
    simp [IsFresh, start, hn]
  refine ⟨rfl, by simp [start], by simp [start], fun n => .refl _, fun n hn hn' => absurd (hfresh n hn) hn',
    fun n hn hn' => absurd (hfresh n hn) hn', fun n d hd => ?_, fun n d hd => ?_,
    fun n hn hn' => absurd (hfresh n hn) hn'⟩
  · simp [start, Array.getElem?_replicate] at hd
  · simp [start, Array.getElem?_replicate] at hd

/-- **What is known in the end** of the nodes of a document. -/
def Builds (schema : Schema) (nodes : Array Node) (root : Nat) (b : Builder) : Prop :=
  (do reach schema root; Builder.expandAll schema (nodes.size + 1)).run (start nodes) = .ok ((), b)

/-- **In the end** the root was reached, and no container waits. -/
theorem Builds.sound {root : Nat} (h : Builds schema nodes root b) :
    Sound schema nodes [] b ∧ b.waiting = [] ∧ ¬ b.IsFresh root := by
  rw [Builds, StateT.run_bind] at h
  obtain ⟨⟨⟨⟩, b₁⟩, hroot, hrest⟩ := bind_eq_ok_iff.mp h
  obtain ⟨hreaches, hfresh⟩ := reaches_of_run hroot
  have hchain : Chain schema (start nodes) b₁ := hreaches.to_reflTransGen
  have hle : b₁.ahead ≤ nodes.size := by
    have hstart : (start nodes).ahead = nodes.size := by simp [ahead, start]
    exact hstart ▸ hchain.advances.ahead
  obtain ⟨hsound, hempty, hadvances⟩ := ((sound_start nodes).chain hchain).expandAll (by omega) hrest
  exact ⟨hsound, hempty, fun hn => hfresh (hadvances.isFresh root hn)⟩

end CommandWrap.Yaml.Builder
