import CommandWrap.Proofs.Outcomes
import CommandWrap.Yaml.Data
import Mathlib

/-!
# Where the faults of a document come from

A text that is no document breaks a rule of YAML, or holds one of the few things that fault otherwise
(`Fault.Arises`): an escape or a version that is no number, a scalar without a value of its type, a mapping
that is tagged as a time, or a mapping that is its own value.  No reader gives any other fault.
-/
set_option mvcgen.warning false

namespace CommandWrap.Yaml

/-- **Where a fault may come from.** -/
inductive Fault.Arises : Fault → Prop
  /-- A rule is broken. -/
  | rule : Arises .malformed
  /-- An escape gives a number beyond the last code point. -/
  | escape {code : Nat} (h : 0x110000 ≤ code) : Arises (.noSuchCode code)
  /-- A part of the version is too long for a number. -/
  | version {digits : String} {fault : Decimal.IntegerFault} (h : Decimal.integer 10 digits = .error fault) :
    Arises (.badValue fault.message)
  /-- A scalar has no value of its type. -/
  | scalar {kind : ScalarKind} {text : String} {fault : Fault} (h : Builder.scalarOf kind text = .error fault) :
    Arises fault
  /-- A mapping is tagged as a time. -/
  | mapping : Arises .mappingAsTime
  /-- A mapping is its own value. -/
  | circle : Arises .endless

/-! ## Readers that do not keep a state -/

/-- The fault of a reader, if there is one, is explained. -/
abbrev Explained {α : Type} (x : Except Fault α) : Prop :=
  FaultsIn Fault.Arises x

@[simp] theorem arises_malformed : Fault.malformed.Arises :=
  .rule

@[simp] theorem explained_prepend (cs : List Char) (r : Scanned) : Explained (prepend cs r) ↔ Explained r :=
  faultsIn_map ..

namespace Cursor

@[simp] theorem explained_endLine (c : Cursor) : Explained c.endLine := by
  simp [endLine]

@[simp] theorem explained_flowBreaks (fuel : List Char) (c : Cursor) : Explained (flowBreaks fuel c) := by
  fun_induction flowBreaks fuel c <;> simp_all

end Cursor

/-! ### Scalars -/

@[simp] theorem explained_scanCode (width : Nat) (c : Cursor) : Explained (scanCode width c) := by
  rw [scanCode]
  split
  · simp
  · simp only [faultsIn_ite, faultsIn_ok, implies_true, faultsIn_error, true_and]
    exact fun h => .escape (Nat.le_of_not_lt h)

@[simp] theorem explained_scanEscape (fuel : List Char) (c : Cursor) : Explained (scanEscape fuel c) := by
  rw [scanEscape]
  split <;> simp

@[simp] theorem explained_scanSolid (double : Bool) (fuel : List Char) (c : Cursor) :
    Explained (scanSolid double fuel c) := by
  fun_induction scanSolid double fuel c <;> simp_all

@[simp] theorem explained_scanInnerSpace (fuel : List Char) (c : Cursor) : Explained (scanInnerSpace fuel c) := by
  simp [scanInnerSpace]

@[simp] theorem explained_scanQuotedRest (quote : Char) (fuel : List Char) (c : Cursor) :
    Explained (scanQuotedRest quote fuel c) := by
  fun_induction scanQuotedRest quote fuel c <;> simp_all

@[simp] theorem explained_scanQuoted (c : Cursor) : Explained (scanQuoted c) := by
  simp [scanQuoted]

@[simp] theorem explained_scanIncrement? (c : Cursor) : Explained (scanIncrement? c) := by
  simp [scanIncrement?]

@[simp] theorem explained_scanBlockHeader (c : Cursor) : Explained (scanBlockHeader c) := by
  rw [scanBlockHeader]
  split
  · simp only [faultsIn_bind, explained_scanIncrement?, true_and]
    rintro increment? -
    split <;> simp
  · simp only [faultsIn_bind, explained_scanIncrement?, true_and]
    rintro increment? -
    split
    · split <;> simp
    · simp

@[simp] theorem explained_scanBlock (folded : Bool) (indent : Int) (c : Cursor) :
    Explained (scanBlock folded indent c) := by
  simp [scanBlock]

/-! ### Tokens -/

namespace Lexer

@[simp] theorem explained_dropStaleKeys (s : Lexer) : Explained s.dropStaleKeys := by
  simp [dropStaleKeys]

@[simp] theorem explained_dropKey (s : Lexer) : Explained s.dropKey := by
  simp [dropKey]

@[simp] theorem explained_markKey (s : Lexer) : Explained s.markKey := by
  simp [markKey]

@[simp] theorem explained_scanName (c : Cursor) : Explained (scanName c) := by
  simp [scanName]

@[simp] theorem explained_scanNumber (c : Cursor) : Explained (scanNumber c) := by
  rw [scanNumber]
  simp only [faultsIn_ite, faultsIn_error, arises_malformed, implies_true, true_and]
  rintro -
  split
  · simp
  · rename_i hfault
    exact (faultsIn_error _).mpr (.version hfault)

@[simp] theorem explained_scanHandle (c : Cursor) : Explained (scanHandle c) := by
  simp [scanHandle]

@[simp] theorem explained_scanUriBytes (fuel : List Char) (c : Cursor) : Explained (scanUriBytes fuel c) := by
  fun_induction scanUriBytes fuel c <;> simp_all

@[simp] theorem explained_scanUriFrom (fuel : List Char) (c : Cursor) : Explained (scanUriFrom fuel c) := by
  induction fuel generalizing c with
  | nil => simp [scanUriFrom]
  | cons _ fuel ih =>
    rw [scanUriFrom]
    simp only [faultsIn_ite, faultsIn_bind, explained_scanUriBytes, explained_prepend, faultsIn_ok, ih, implies_true,
      true_and, and_true]
    rintro - ⟨bytes, c⟩ -
    cases Text.Utf8.decode bytes <;> simp [ih]

@[simp] theorem explained_scanUri (c : Cursor) : Explained (scanUri c) := by
  simp [scanUri]

@[simp] theorem explained_scanDirective (c : Cursor) : Explained (scanDirective c) := by
  simp [scanDirective]

@[simp] theorem explained_scanAnchor (c : Cursor) : Explained (scanAnchor c) := by
  simp [scanAnchor]

@[simp] theorem explained_scanTag (c : Cursor) : Explained (scanTag c) := by
  simp [scanTag]

@[simp] theorem explained_beginLine (s : Lexer) : Explained s.beginLine := by
  simp [beginLine]

theorem explained_possibleKey (s : Lexer) {scan : Cursor → Except Fault (Token × Cursor)}
    (h : ∀ c, Explained (scan c)) : Explained (s.possibleKey scan) := by
  simp [possibleKey, h]

@[simp] theorem explained_fetchBlockEntry (s : Lexer) : Explained s.fetchBlockEntry := by
  simp [fetchBlockEntry]

@[simp] theorem explained_fetchKey (s : Lexer) : Explained s.fetchKey := by
  simp [fetchKey]

@[simp] theorem explained_fetchValue (s : Lexer) : Explained s.fetchValue := by
  rw [fetchValue]
  split <;> simp

@[simp] theorem explained_fetchBlockScalar (s : Lexer) (folded : Bool) : Explained (s.fetchBlockScalar folded) := by
  simp [fetchBlockScalar]

@[simp] theorem explained_quotedToken (c : Cursor) : Explained (quotedToken c) := by
  simp [quotedToken]

@[simp] theorem explained_fetchPlain (s : Lexer) : Explained s.fetchPlain := by
  simp [fetchPlain]

@[simp] theorem explained_openFlow (s : Lexer) (t : Token) : Explained (s.openFlow t) := by
  simp [openFlow]

@[simp] theorem explained_closeFlow (s : Lexer) (t : Token) : Explained (s.closeFlow t) := by
  simp [closeFlow]

@[simp] theorem explained_approach (s : Lexer) : Explained s.approach := by
  simp [approach]

@[simp] theorem explained_fetch (s : Lexer) : Explained s.fetch := by
  simp [fetch, explained_possibleKey]

@[simp] theorem explained_step (s : Lexer) : Explained s.step := by
  simp [step]

theorem arises_run {fuel : Nat} {s : Lexer} {fault : Fault} (h : (run fuel s).2 = some fault) : fault.Arises := by
  induction fuel generalizing s with
  | zero =>
    rw [run] at h
    obtain rfl := Option.some.inj h
    exact .rule
  | succ fuel ih =>
    rw [run] at h
    have hstep := explained_step s
    generalize s.step = r at h hstep
    fun_cases after s (run fuel) r with
    | case1 f => exact (faultsIn_error f).mp hstep |> (Option.some.inj h ▸ ·)
    | case2 => cases h
    | case3 s => exact ih h

end Lexer

theorem arises_tokenize {text : List Char} {fault : Fault} (h : (tokenize text).2 = some fault) : fault.Arises := by
  rw [tokenize] at h
  split at h
  · exact Lexer.arises_run h
  · obtain rfl := Option.some.inj h
    exact .rule

/-! ## Nodes -/

section

open Std.Do

theorem triple_of_explained {α : Type} {x : Except Fault α} (h : Explained x) :
    ⦃⌜True⌝⦄ x ⦃post⟨fun a => ⌜x = .ok a⌝, fun fault => ⌜fault.Arises⌝⟩⦄ := by
  intro _
  cases x with
  | ok a => rfl
  | error fault => exact h fault rfl

theorem explained_of_triple {σ α : Type} {P : σ → Prop} {Q : α → σ → Prop} {m : StateT σ (Except Fault) α}
    (h : ⦃fun s => ⌜P s⌝⦄ m ⦃post⟨fun a s => ⌜Q a s⌝, fun fault => ⌜fault.Arises⌝⟩⦄) {s : σ} (hs : P s) :
    Explained (m.run s) := by
  intro fault hfault
  have hwp := h s hs
  change (wp⟦m s⟧ _).down at hwp
  rw [show m s = .error fault from hfault] at hwp
  exact hwp

theorem post_of_triple {σ α : Type} {P : σ → Prop} {Q : α → σ → Prop} {m : StateT σ (Except Fault) α}
    (h : ⦃fun s => ⌜P s⌝⦄ m ⦃post⟨fun a s => ⌜Q a s⌝, fun fault => ⌜fault.Arises⌝⟩⦄) {s s' : σ} (hs : P s) {a : α}
    (hrun : m.run s = .ok (a, s')) : Q a s' := by
  have hwp := h s hs
  change (wp⟦m s⟧ _).down at hwp
  rw [show m s = .ok (a, s') from hrun] at hwp
  exact hwp

end

namespace NodeReader

open Std.Do

/-- The fault behind the tokens, if there is one, is explained. -/
def EndsExplained (s : NodeReader) : Prop :=
  ∀ fault, s.fault? = some fault → fault.Arises

/-- A step of reading keeps the fault behind the tokens, and its own fault is explained. -/
abbrev Keeps {α : Type} (m : M α) : Prop :=
  ⦃fun s => ⌜s.EndsExplained⌝⦄ m ⦃post⟨fun _ s => ⌜s.EndsExplained⌝, fun fault => ⌜fault.Arises⌝⟩⦄

@[spec] theorem keeps_malformed {α : Type} : Keeps (malformed : M α) := by
  intro s _
  exact Fault.Arises.rule

@[spec] theorem keeps_peek : Keeps peek := by
  rintro ⟨tokens, fault?, nodes, anchors, handles⟩ hs
  match tokens, fault? with
  | [], none => exact Fault.Arises.rule
  | [], some fault => exact hs fault rfl
  | _ :: _, _ => exact hs

@[spec] theorem keeps_skip : Keeps skip := by
  mvcgen [skip]

@[spec] theorem keeps_add (n : Node) : Keeps (add n) := by
  mvcgen [add]

@[spec] theorem keeps_fill (number : Nat) (body : NodeBody) : Keeps (fill number body) := by
  mvcgen [fill]

@[spec] theorem keeps_addEmpty : Keeps addEmpty := by
  mvcgen [addEmpty]

@[spec] theorem keeps_anchorNext (anchor? : Option String) : Keeps (anchorNext anchor?) := by
  mvcgen [anchorNext]

@[spec] theorem keeps_resolveTag (handle? : Option String) (suffix : String) :
    Keeps (resolveTag handle? suffix) := by
  mvcgen [resolveTag]

@[spec] theorem keeps_takeAnchor? : Keeps takeAnchor? := by
  mvcgen [takeAnchor?]

@[spec] theorem keeps_takeTag? : Keeps takeTag? := by
  mvcgen [takeTag?]

@[spec] theorem keeps_mapM_tag (tag? : Option (Option String × String)) :
    Keeps (tag?.mapM fun (h, s) => resolveTag h s) := by
  cases tag? with
  | none => mvcgen [Option.mapM]
  | some tag => mvcgen [Option.mapM]

@[spec] theorem keeps_takeProperties : Keeps takeProperties := by
  mvcgen [takeProperties]

@[spec] theorem keeps_addScalar (p : Properties) (text : String) (isPlain : Bool) :
    Keeps (addScalar p text isPlain) := by
  mvcgen [addScalar]

@[spec] theorem keeps_emptyNode (p : Properties) : Keeps (emptyNode p) := by
  mvcgen [emptyNode]

/-- All that the readers of nodes do with some fuel is explained. -/
structure Sound (fuel : Nat) : Prop where
  node : ∀ place, Keeps (node place fuel)
  optionalNode : ∀ place missing, Keeps (optionalNode place missing fuel)
  blockItems : Keeps (blockItems fuel)
  looseItems : Keeps (looseItems fuel)
  blockEntries : Keeps (blockEntries fuel)
  flowValue : ∀ closing, Keeps (flowValue closing fuel)
  flowItems : ∀ isFirst, Keeps (flowItems isFirst fuel)
  flowEntries : ∀ isFirst, Keeps (flowEntries isFirst fuel)

theorem sound_zero : Sound 0 where
  node _ := by mvcgen [NodeReader.node]
  optionalNode _ _ := by mvcgen [NodeReader.optionalNode]
  blockItems := by mvcgen [NodeReader.blockItems]
  looseItems := by mvcgen [NodeReader.looseItems]
  blockEntries := by mvcgen [NodeReader.blockEntries]
  flowValue _ := by mvcgen [NodeReader.flowValue]
  flowItems _ := by mvcgen [NodeReader.flowItems]
  flowEntries _ := by mvcgen [NodeReader.flowEntries]

theorem sound_succ {fuel : Nat} (ih : Sound fuel) : Sound (fuel + 1) := by
  obtain ⟨hnode, hoptional, hblock, hloose, hentries, hvalue, hflow, hflowEntries⟩ := ih
  constructor
  case node =>
    intro place
    mvcgen [NodeReader.node, hblock, hloose, hentries, hflow, hflowEntries]
  case optionalNode =>
    intro place missing
    mvcgen [NodeReader.optionalNode, hnode]
  case blockItems => mvcgen [NodeReader.blockItems, hoptional, hblock]
  case looseItems => mvcgen [NodeReader.looseItems, hoptional, hloose]
  case blockEntries => mvcgen [NodeReader.blockEntries, hoptional, hentries]
  case flowValue =>
    intro closing
    mvcgen [NodeReader.flowValue, hoptional]
  case flowItems =>
    intro isFirst
    mvcgen [NodeReader.flowItems, hnode, hoptional, hvalue, hflow]
  case flowEntries =>
    intro isFirst
    mvcgen [NodeReader.flowEntries, hnode, hoptional, hvalue, hflowEntries]

theorem sound (fuel : Nat) : Sound fuel := by
  induction fuel with
  | zero => exact sound_zero
  | succ fuel ih => exact sound_succ ih

theorem explained_directives (hasVersion : Bool) (handles : List (String × String)) (tokens : List Token) :
    Explained (directives hasVersion handles tokens) := by
  fun_induction directives hasVersion handles tokens <;> simp_all

@[spec] theorem keeps_skipDocumentEnds : Keeps skipDocumentEnds := by
  mvcgen [skipDocumentEnds]

@[spec] theorem keeps_explicitDocument (fuel : Nat) : Keeps (explicitDocument fuel) := by
  have hoptional := (sound fuel).optionalNode
  have hdirectives (handles : List (String × String)) (tokens : List Token) :=
    triple_of_explained (explained_directives false handles tokens)
  mvcgen [explicitDocument, hoptional, hdirectives]

theorem keeps_document (fuel : Nat) : Keeps (document fuel) := by
  have hnode := (sound fuel).node
  mvcgen [document, hnode]
  intro s hs
  split
  · mvcgen
  · mvcgen [hnode]

end NodeReader

/-! ## Data -/

namespace Builder

open Std.Do

/-- The datum is the value of a scalar of some kind. -/
def IsValue (d : Datum) : Prop :=
  (∃ kind text, scalarOf kind text = .ok d) ∨ ∃ text, Scalar.bytesOf text = .ok d

/-- Every value that was given to a node is the value of a scalar. -/
def HasValues (b : Builder) : Prop :=
  ∀ (number : Nat) (d : Datum), b.scalars[number]? = some (some d) → IsValue d

theorem HasValues.set {b : Builder} (hb : b.HasValues) {d : Datum} (hd : IsValue d) (number : Nat) :
    { b with scalars := b.scalars.set! number (some d) }.HasValues := by
  intro n d' hd'
  rw [Array.set!_eq_setIfInBounds, Array.getElem?_setIfInBounds] at hd'
  split_ifs at hd'
  · cases hd'
    exact hd
  · exact hb n d' hd'

/-- Nothing is given when building begins. -/
theorem hasValues_start (nodes : Array Node) (size : Nat) (reached : Array Bool) :
    { nodes, scalars := Array.replicate size none, reached : Builder }.HasValues := by
  intro n d hd
  rw [Array.getElem?_replicate] at hd
  split_ifs at hd
  cases Option.some.inj hd

/-- A step of building gives nodes values of scalars only, and its fault is explained. -/
abbrev Safe {α : Type} (m : M α) : Prop :=
  ⦃fun b => ⌜b.HasValues⌝⦄ m ⦃post⟨fun _ b => ⌜b.HasValues⌝, fun fault => ⌜fault.Arises⌝⟩⦄

section

variable {α β : Type} {f : α → M β}

@[spec] theorem safe_mapM (h : ∀ a, Safe (f a)) (xs : List α) : Safe (xs.mapM f) := by
  induction xs with
  | nil => mvcgen [List.mapM_nil]
  | cons x xs ih => mvcgen [List.mapM_cons, h, ih]

@[spec] theorem safe_forM {f : α → M Unit} (h : ∀ a, Safe (f a)) (xs : List α) : Safe (xs.forM f) := by
  induction xs with
  | nil => mvcgen [List.forM]
  | cons x xs ih => mvcgen [List.forM, h, ih]

@[spec] theorem safe_findM? {f : α → M Bool} (h : ∀ a, Safe (f a)) (xs : List α) : Safe (xs.findM? f) := by
  induction xs with
  | nil => mvcgen [List.findM?]
  | cons x xs ih => mvcgen [List.findM?, h, ih]

@[spec] theorem safe_filterMapM {f : α → M (Option β)} (h : ∀ a, Safe (f a)) (xs : List α) :
    Safe (xs.filterMapM f) := by
  have hloop (found : List β) : Safe (List.filterMapM.loop f xs found) := by
    induction xs generalizing found with
    | nil => mvcgen [List.filterMapM.loop]
    | cons x xs ih => mvcgen [List.filterMapM.loop, h, ih]
  mvcgen [List.filterMapM, hloop]

end

@[spec] theorem safe_fail {α : Type} {fault : Fault} (h : fault.Arises) : Safe (fail fault : M α) :=
  fun _ _ => h

@[spec] theorem safe_malformed {α : Type} : Safe (malformed : M α) :=
  safe_fail .rule

@[spec] theorem safe_node (number : Nat) : Safe (node number) := by
  mvcgen [node]

@[spec] theorem safe_kind (schema : Schema) (number : Nat) : Safe (kind schema number) := by
  mvcgen [kind]

@[spec] theorem safe_entries (number : Nat) : Safe (entries number) := by
  mvcgen [entries]

@[spec] theorem safe_change (number : Nat) (f : Node → Node) : Safe (change number f) := by
  mvcgen [change]

@[spec] theorem safe_textOf (schema : Schema) (fuel number : Nat) : Safe (textOf schema fuel number) := by
  induction fuel generalizing number with
  | zero => exact safe_fail .circle
  | succ fuel ih =>
    mvcgen [textOf, ih]

@[spec] theorem safe_mergeFrom (schema : Schema) (fuel number start : Nat) (merged : List (Nat × Nat)) :
    Safe (mergeFrom schema fuel number start merged) := by
  induction fuel generalizing number start merged with
  | zero => mvcgen [mergeFrom]
  | succ fuel ih =>
    mvcgen [mergeFrom, ih]

theorem explained_bytesOf (text : String) : Explained (Scalar.bytesOf text) := by
  rw [Scalar.bytesOf]
  split
  · simp
  · split <;> simp

theorem explained_scalarOf (kind : ScalarKind) (text : String) : Explained (scalarOf kind text) :=
  fun _ => .scalar

@[spec] theorem safe_reach (schema : Schema) (number : Nat) : Safe (reach schema number) := by
  have hscalar (kind : ScalarKind) (text : String) := triple_of_explained (explained_scalarOf kind text)
  have hbytes (text : String) := triple_of_explained (explained_bytesOf text)
  mvcgen [reach, hscalar, hbytes]
  all_goals first
    | exact Fault.Arises.mapping
    | exact HasValues.set ‹_› (.inl ⟨_, _, ‹_›⟩) number
    | exact HasValues.set ‹_› (.inr ⟨_, ‹_›⟩) number

@[spec] theorem safe_isKey (number : Nat) : Safe (isKey number) := by
  mvcgen [isKey]

@[spec] theorem safe_hasRepeatedKey (schema : Schema) (es : List (Nat × Nat)) :
    Safe (hasRepeatedKey schema es) := by
  mvcgen [hasRepeatedKey]

@[spec] theorem safe_mergeFuel : Safe mergeFuel := by
  mvcgen [mergeFuel]

@[spec] theorem safe_expand (schema : Schema) (number : Nat) : Safe (expand schema number) := by
  mvcgen [expand]

@[spec] theorem safe_expandAll (schema : Schema) (fuel : Nat) : Safe (expandAll schema fuel) := by
  induction fuel with
  | zero => mvcgen [expandAll]
  | succ fuel ih => mvcgen [expandAll, ih]

end Builder

/-! ## Documents -/

theorem explained_ofText (text : List Char) : Explained (NodeGraph.ofText text) := by
  have hread (fuel : Nat) := explained_of_triple (NodeReader.keeps_document fuel)
    (s := { tokens := (tokenize text).1, fault? := (tokenize text).2 }) fun _ => arises_tokenize
  simp [NodeGraph.ofText, hread]

/-- Building the data of a graph is safe. -/
theorem Builder.safe_build (schema : Schema) (root fuel : Nat) :
    Safe (do reach schema root; expandAll schema fuel) := by
  mvcgen

theorem explained_data (schema : Schema) (g : NodeGraph) : Explained (g.data schema) := by
  rw [NodeGraph.data]
  split
  · simp
  · rename_i root _
    simp only [faultsIn_bind, faultsIn_pure, implies_true, and_true]
    exact explained_of_triple (Builder.safe_build schema root _) (Builder.hasValues_start _ _ _)

/-- **Every fault of a document is explained.** -/
theorem explained_ofYaml (schema : Schema) (text : List Char) : Explained (Datum.ofYaml schema text) := by
  simp [Datum.ofYaml, explained_ofText, explained_data]

end CommandWrap.Yaml
