import CommandWrap.Proofs.ElementTexts
import CommandWrap.Proofs.Names
import CommandWrap.Proofs.RecordValues

/-!
# From a tree to the arguments of an invocation

A record is made with values for some attributes, is then changed by setting and replacing attributes,
and is at last given to the builder of its command (`History`).  What the builder returns depends on the
final values alone (`History.final`): the program is the root, and its arguments are the path below the
root, the block of every flag in order, and the positional arguments as they are.  The invariant that
carries a history is that the named record holds the values of the changes so far (`Named`).

This is so when the attributes of the record are ordinary (`Attribute.isOrdinary`), and **only** then:
a type answers itself for a name such as `__name__`, so that the flag of such a field is lost, and other
names keep records from being made or read.  Attributes that are not declared do not matter, apart from
the two that stand for the attributes or the fields of a record as a whole (`Attribute.steering`).
-/
namespace CommandWrap

/-! ## Histories -/

/-- A change of a record. -/
inductive Change
  /-- An attribute is given a value. -/
  | set (attr : String) (v : Value)
  /-- The record is replaced by one with other values for some attributes. -/
  | replace (given : List (String × Value))

namespace Change

/-- The step that makes the change to the record of a name. -/
def step (var : String) : Change → Step
  | .set attr v => .assign var attr v
  | .replace given => .replace var var given

/-- The values after the change. -/
def apply (values : String → Value) : Change → String → Value
  | .set attr v, a => if a = attr then v else values a
  | .replace given, a => (given.lookup a).getD (values a)

/-- The change gives values to the attributes `attrs`; beside these it sets attributes from `others`
only. -/
def Respects (attrs others : List String) : Change → Prop
  | .set attr _ => attr ∈ attrs ∨ attr ∈ others
  | .replace given => ∀ e ∈ given, e.1 ∈ attrs

end Change

/-- **The history of a record**: it is made and named, changed, and given to a builder. -/
structure History where
  /-- The name of the record. -/
  var : String
  /-- The values that the record is made with. -/
  given : List (String × Value)
  /-- The changes of the record in order. -/
  changes : List Change
  /-- The positional arguments of the invocation. -/
  args : List String

namespace History

/-- The values that the record has in the end. -/
def final (h : History) : String → Value :=
  h.changes.foldl Change.apply fun attr => (h.given.lookup attr).getD .none

/-- The steps of the history of a record of the type `type` that is given to `builder`. -/
def steps (h : History) (type builder : String) : List Step :=
  .make h.var type h.given [] :: (h.changes.map (Change.step h.var) ++
    [.build builder (some (some h.var)) (some (.words h.args)) none])

end History

/-- The value can be rendered in the shape: an absent one always, and else elements for a list and
entries for a map. -/
def Shape.Fits : Shape → Value → Prop
  | .single, _ => True
  | .list, v => v = .none ∨ (Render.elements? v).isSome
  | .map, v => v = .none ∨ ∃ entries, v = .map entries

/-- The history gives values to the attributes of the planned record that fit their shapes in the end,
and beside these sets attributes from `others` only. -/
structure History.Fits (h : History) (p : CommandPlan) (others : List String) : Prop where
  given : ∀ e ∈ h.given, e.1 ∈ p.fields.map Field.attr
  changes : ∀ c ∈ h.changes, c.Respects (p.fields.map Field.attr) others
  values : ∀ f ∈ p.fields, f.shape.Fits (h.final f.attr)

/-- Attributes that stand for the attributes or the fields of a record as a whole. -/
def Attribute.steering : List String := ["__dict__", fieldTable]

/-! ## The last answer of a session -/

namespace Session

variable (ws : List Wrapper)

/-- The store after steps; a step that fails changes nothing. -/
def after (s : Store) : List Step → Store
  | [] => s
  | first :: rest =>
    match step ws s first with
    | .ok (_, s) => after s rest
    | .error _ => after s rest

theorem run_append (s : Store) (first last : List Step) :
    run ws s (first ++ last) = run ws s first ++ run ws (after ws s first) last := by
  induction first generalizing s with
  | nil => rfl
  | cons first rest ih =>
    rw [List.cons_append, run, run, after]
    cases step ws s first with
    | ok result => exact congrArg _ (ih result.2)
    | error e => exact congrArg _ (ih s)

theorem after_append (s : Store) (first last : List Step) :
    after ws s (first ++ last) = after ws (after ws s first) last := by
  induction first generalizing s with
  | nil => rfl
  | cons step rest ih =>
    rw [List.cons_append, after, after]
    split
    · exact ih _
    · exact ih _

/-- The last answer is that of the last step in the store that the others leave. -/
theorem getLast?_run (s : Store) (first : List Step) (last : Step) :
    (run ws s (first ++ [last])).getLast? = some ((step ws (after ws s first) last).map Prod.fst) := by
  rw [run_append, run]
  split
  · rename_i answer _ hstep
    simp [run, hstep, Except.map]
  · rename_i hstep
    simp [run, hstep, Except.map]

end Session

/-- **The invariant of a history**: the name stands for a record of the type that holds the values. -/
def Named (s : Store) (var : String) (t : RecordType) (values : String → Value) : Prop :=
  ∃ r, s.find var = .ok r ∧ r.type = t ∧ r.Holds s values

theorem Named.congr {s : Store} {var : String} {t : RecordType} {values values' : String → Value}
    (h : Named s var t values) (hsame : ∀ f ∈ t.fields, values f.attr = values' f.attr) :
    Named s var t values' := by
  obtain ⟨r, hfind, htype, hholds⟩ := h
  refine ⟨r, hfind, htype, ?_, hholds.stored, hholds.table⟩
  intro f hf
  rw [hholds.value f hf, hsame f (htype ▸ hf)]

namespace Session

variable {ws : List Wrapper} {s : Store} {t : RecordType} {var : String} {values : String → Value}

theorem after_make_eq {name : String} (htype : wrapper ws name = .ok (.record t))
    {given : List (String × Value)} {s' : Store} {r : Record}
    (hmake : make s t given 0 = .ok (s', r)) :
    after ws s [.make var name given []] = s'.bind var r := by
  have hstep : step ws s (.make var name given []) = .ok (.text (r.describe s'), s'.bind var r) := by
    simp only [step, htype, bind, Except.bind, List.length_nil, hmake]
    rfl
  rw [after, hstep]
  rfl

theorem after_assign_eq {r r' : Record} (hfind : s.find var = .ok r) {attr : String} {v : Value}
    {s' : Store} (hassign : assign s r attr v = .ok (s', r')) :
    after ws s [.assign var attr v] = s'.bind var r' := by
  have hstep : step ws s (.assign var attr v) = .ok (.text (r'.describe s'), s'.bind var r') := by
    simp only [step, hfind, bind, Except.bind, hassign]
    rfl
  rw [after, hstep]
  rfl

theorem after_replace_eq {r q : Record} (hfind : s.find var = .ok r) {given : List (String × Value)}
    {s' : Store} (hreplace : replace s r given = .ok (s', q)) :
    after ws s [.replace var var given] = s'.bind var q := by
  have hstep : step ws s (.replace var var given) = .ok (.text (q.describe s'), s'.bind var q) := by
    simp only [step, hfind, bind, Except.bind, hreplace]
    rfl
  rw [after, hstep]
  rfl

/-- A new record holds the values that it is made with. -/
theorem after_make {name : String} (htype : wrapper ws name = .ok (.record t)) (hplain : t.Plain)
    {given : List (String × Value)} (hgiven : ∀ e ∈ given, t.declares e.1 = true) :
    Named (after ws s [.make var name given []]) var t fun attr =>
      (given.lookup attr).getD .none := by
  obtain ⟨s', r, hmake, hr, hholds⟩ := make_holds (s := s) hplain hgiven
  rw [after_make_eq htype hmake]
  exact ⟨r, Store.find_bind s' var r, hr, hholds.bind var⟩

/-- **One change of a record** changes the values that it holds as the change says. -/
theorem after_change (ws : List Wrapper) (hplain : t.Plain) (hnamed : Named s var t values) {others : List String}
    (hothers : ∀ a ∈ others, a ∉ Attribute.steering) {c : Change}
    (hc : c.Respects (t.fields.map RecordField.attr) others) :
    Named (after ws s [c.step var]) var t (c.apply values) := by
  obtain ⟨r, hfind, rfl, hholds⟩ := hnamed
  have hdeclares {attr : String} (h : attr ∈ r.type.fields.map RecordField.attr) :
      r.type.declares attr = true := by
    rw [RecordType.declares_iff]
    simpa using h
  cases c with
  | replace given =>
    obtain ⟨s', q, hreplace, hq, hholds'⟩ :=
      replace_holds hholds hplain fun e he => hdeclares (hc e he)
    rw [Change.step, after_replace_eq hfind hreplace]
    exact ⟨q, Store.find_bind s' var q, hq, hholds'.bind var⟩
  | set attr v =>
    have htable : attr ≠ Attribute.fieldTable := by
      rintro rfl
      rcases hc with hc | hc
      · have := hplain.readers Attribute.fieldTable (by simp [Attribute.readers])
        rw [hdeclares hc] at this
        cases this
      · exact hothers _ hc (by simp [Attribute.steering])
    by_cases hfree : attr ∈ Attribute.guarded → r.type.declares attr = true
    · rw [Change.step, after_assign_eq hfind (assign_eq hplain.open_ v hfree)]
      exact ⟨_, Store.find_bind _ var _, rfl, (setAttribute_holds hholds v htable).bind var⟩
    · -- the step fails, and no declared attribute is concerned
      rw [Classical.not_imp, Bool.not_eq_true] at hfree
      obtain ⟨hguarded, hundeclared⟩ := hfree
      have hother : attr ∈ others := by
        rcases hc with hc | hc
        · rw [hdeclares hc] at hundeclared
          cases hundeclared
        · exact hc
      have hdict : attr ≠ "__dict__" := by
        rintro rfl
        exact hothers _ hother (by simp [Attribute.steering])
      obtain ⟨e, he⟩ := assign_guarded (s := s) v hguarded hundeclared hdict
      have hstep : step ws s (.assign var attr v) = .error e := by
        simp only [step, hfind, bind, Except.bind, he]
      rw [Change.step, after, hstep]
      refine Named.congr ⟨r, hfind, rfl, hholds⟩ fun f hf => ?_
      have hne : f.attr ≠ attr := by
        rintro rfl
        rw [RecordType.declares_of_mem hf] at hundeclared
        cases hundeclared
      rw [Change.apply, if_neg hne]

/-- **All changes of a record**, one after the other. -/
theorem after_changes (ws : List Wrapper) (hplain : t.Plain) {others : List String}
    (hothers : ∀ a ∈ others, a ∉ Attribute.steering) {changes : List Change}
    (hchanges : ∀ c ∈ changes, c.Respects (t.fields.map RecordField.attr) others)
    (hnamed : Named s var t values) :
    Named (after ws s (changes.map (Change.step var))) var t (changes.foldl Change.apply values) := by
  -- the invariant is that the name stands for a record of the values so far
  induction changes generalizing s values with
  | nil => exact hnamed
  | cons c rest ih =>
    have hfirst := after_change ws hplain hnamed hothers (hchanges c (List.mem_cons_self ..))
    have hrest := ih (fun c hc => hchanges c (List.mem_cons_of_mem _ hc)) hfirst
    rw [← after_append] at hrest
    exact hrest

/-! ## Building from a record -/

section Building

variable {b : Builder} (args : List String)

theorem build_named {r : Record} (hb : wrapper ws b.name = .ok (.builder b))
    (htakes : b.takesRecord = true) (hfind : s.find var = .ok r) :
    (step ws s (.build b.name (some (some var)) (some (.words args)) none)).map Prod.fst =
      (r.render s).map fun options => .invocation (assemble b.program b.route options args) := by
  cases hrender : r.render s with
  | error e =>
    simp only [step, hb, build, optionArgs, hfind, htakes, hrender, bind, Except.bind]
    rfl
  | ok options =>
    simp only [step, hb, build, optionArgs, hfind, htakes, hrender, bind, Except.bind]
    rfl

theorem build_unnamed {e : SessionError} (hb : wrapper ws b.name = .ok (.builder b))
    (hfind : s.find var = .error e) :
    (step ws s (.build b.name (some (some var)) (some (.words args)) none)).map Prod.fst =
      .error e := by
  simp only [step, hb, build, hfind, bind, Except.bind]
  rfl

theorem build_alone (hb : wrapper ws b.name = .ok (.builder b)) :
    (step ws s (.build b.name none (some (.words args)) none)).map Prod.fst =
      .ok (.invocation (assemble b.program b.route [] args)) := by
  simp only [step, hb, build, optionArgs, bind, Except.bind]
  rfl

omit b args in
theorem getLast?_steps (h : History) (type builder : String) :
    (run ws s (h.steps type builder)).getLast? =
      some ((step ws (after ws s (.make h.var type h.given [] :: h.changes.map (Change.step h.var)))
        (.build builder (some (some h.var)) (some (.words h.args)) none)).map Prod.fst) := by
  rw [History.steps, ← List.cons_append, getLast?_run]

/-- The last answer of a history is read off the record that it ends with. -/
theorem getLast?_of_find {h : History} {type : String} (hb : wrapper ws b.name = .ok (.builder b))
    (htakes : b.takesRecord = true) {s' : Store} {r : Record}
    (hafter : after ws s (.make h.var type h.given [] :: h.changes.map (Change.step h.var)) = s')
    (hfind : s'.find h.var = .ok r) :
    (run ws s (h.steps type b.name)).getLast? = some ((r.render s').map fun options =>
      .invocation (assemble b.program b.route options h.args)) := by
  rw [getLast?_steps, hafter, build_named h.args hb htakes hfind]

theorem getLast?_of_render_error {h : History} {type : String}
    (hb : wrapper ws b.name = .ok (.builder b)) (htakes : b.takesRecord = true) {s' : Store}
    {r : Record}
    (hafter : after ws s (.make h.var type h.given [] :: h.changes.map (Change.step h.var)) = s')
    (hfind : s'.find h.var = .ok r) {e : SessionError} (he : r.render s' = .error e) :
    (run ws s (h.steps type b.name)).getLast? = some (.error e) := by
  rw [getLast?_of_find hb htakes hafter hfind, he]
  rfl

/-- **The last answer of a history** depends on the final values alone. -/
theorem getLast?_history {name : String} (ht : wrapper ws name = .ok (.record t))
    (hb : wrapper ws b.name = .ok (.builder b)) (htakes : b.takesRecord = true) (hplain : t.Plain)
    {others : List String} (hothers : ∀ a ∈ others, a ∉ Attribute.steering) {h : History}
    (hgiven : ∀ e ∈ h.given, t.declares e.1 = true)
    (hchanges : ∀ c ∈ h.changes, c.Respects (t.fields.map RecordField.attr) others) :
    (run ws s (h.steps name b.name)).getLast? =
      some (((renderFields (t.fields.map fun f => (f.flag?, h.final f.attr))).mapError .render).map
        fun options => .invocation (assemble b.program b.route options h.args)) := by
  have hmade : Named (after ws s [.make h.var name h.given []]) h.var t _ :=
    after_make ht hplain hgiven
  have hnamed := after_changes ws hplain hothers hchanges hmade
  rw [← after_append, List.singleton_append] at hnamed
  obtain ⟨r, hfind, rfl, hholds⟩ := hnamed
  have hgetter : r.type.declares Attribute.getter = false :=
    hplain.readers _ (by simp [Attribute.readers])
  rw [getLast?_of_find hb htakes rfl hfind, hholds.render_eq hgetter]
  rfl

end Building

end Session

/-! ## Blocks of arguments -/

namespace Shape

/-- **The texts that a value gives to its flag**: one for a single value, one for each element of a list, and one
for each entry of a map.  An absent value gives none. -/
def texts : Shape → Value → List String
  | _, .none => []
  | .single, v => [v.canonical]
  | .list, v => ((Render.elements? v).getD []).map Value.elementText
  | .map, .map entries => entries.map fun e => e.1.display ++ "=" ++ e.2.entryText
  | .map, _ => []

/-- **The block of a flag**: the arguments for its texts. -/
def block (name : String) : Shape → List String → List String
  | .single, xs => xs.map fun x => Render.long name ++ "=" ++ x
  | _, xs => xs.flatMap fun x => [Render.long name, x]

theorem length_texts_single (v : Value) : (single.texts v).length ≤ 1 := by
  cases v <;> simp [texts]

/-- A value that fits the shape is rendered as the block of its texts. -/
theorem flag_eq_block (name : String) {shape : Shape} {v : Value} (h : shape.Fits v) :
    Render.flag name shape.word v = .ok (shape.block name (shape.texts v)) := by
  by_cases hnone : v = .none
  · subst hnone
    cases shape <;> rfl
  rw [Render.flag_word name shape hnone]
  cases shape with
  | single => cases v <;> first | exact absurd rfl hnone | rfl
  | list =>
    obtain ⟨items, hitems⟩ := Option.isSome_iff_exists.mp (h.resolve_left hnone)
    have htexts : list.texts v = items.map Value.elementText := by
      cases v with
      | none => exact absurd rfl hnone
      | _ => simp [texts, hitems]
    simp only [Render.shaped, Render.list, hitems, htexts, block, List.flatMap_map]
  | map =>
    obtain ⟨entries, rfl⟩ := h.resolve_left hnone
    simp only [Render.shaped, Render.map, texts, block, List.flatMap_map]

theorem texts_none (shape : Shape) : shape.texts .none = [] := by
  cases shape <;> rfl

theorem block_texts_none (name : String) (shape : Shape) : shape.block name (shape.texts .none) = [] := by
  cases shape <;> rfl

end Shape

/-- A value that fits a shape is rendered. -/
theorem Render.flag_of_fits (name : String) {shape : Shape} {v : Value} (h : shape.Fits v) :
    ∃ block, flag name shape.word v = .ok block :=
  ⟨_, Shape.flag_eq_block name h⟩

/-- A value that fits the shape and gives arguments. -/
def Shape.sample : Shape → Value
  | .single => .bool true
  | .list => .list [.none]
  | .map => .map [(.none, .none)]

theorem Shape.fits_none (s : Shape) : s.Fits .none := by
  cases s with
  | single => trivial
  | list => exact .inl rfl
  | map => exact .inl rfl

theorem Shape.fits_sample (s : Shape) : s.Fits s.sample := by
  cases s with
  | single => trivial
  | list => exact .inr rfl
  | map => exact .inr ⟨_, rfl⟩

theorem Shape.texts_sample_ne_nil (s : Shape) : s.texts s.sample ≠ [] := by
  cases s <;> simp [texts, sample, Render.elements?]

theorem Shape.flag_sample (s : Shape) (name : String) : Render.flag name s.word s.sample ≠ .ok [] := by
  cases s with
  | single => intro h; cases h
  | list => intro h; cases h
  | map => intro h; cases h

/-- Fields that keep their flags are rendered block by block. -/
theorem renderFields_blocks {fields : List Field} {values : String → Value}
    {blocks : List (List String)} (hkept : ∀ f ∈ fields, f.attr ∉ Attribute.answered)
    (hblocks : List.Forall₂ (fun (f : Field) block =>
      Render.flag f.flag.name f.shape.word (values f.attr) = .ok block) fields blocks) :
    renderFields ((fields.map Field.declaration).map fun d => (d.flag?, values d.attr)) =
      .ok blocks.flatten := by
  induction hblocks with
  | nil => rfl
  | @cons f block rest others hblock _ ih =>
    have hflag : f.declaration.flag? = some ⟨f.flag.name, f.shape.word⟩ := by
      simp [Field.declaration, hkept f (List.mem_cons_self ..)]
    have hrest := ih fun f hf => hkept f (List.mem_cons_of_mem _ hf)
    have hvalue : values f.declaration.attr = values f.attr := rfl
    simp only [List.map_cons, hflag, renderFields, hvalue, hblock, hrest, bind, Except.bind]
    rfl

/-- Fields without a flag or a value give no arguments. -/
theorem renderFields_nothing {fields : List (Option FlagUse × Value)}
    (h : ∀ e ∈ fields, e.1 = none ∨ e.2 = .none) : renderFields fields = .ok [] := by
  induction fields with
  | nil => rfl
  | cons e rest ih =>
    have hrest := ih fun e he => h e (List.mem_cons_of_mem _ he)
    obtain ⟨use?, v⟩ := e
    cases use? with
    | none => exact hrest
    | some use =>
      obtain rfl : v = .none := (h _ (List.mem_cons_self ..)).resolve_left (by simp)
      simp only [renderFields, Render.flag, hrest, bind, Except.bind]
      rfl

/-! ## Planned records -/

namespace CommandPlan

variable {p : CommandPlan} {name : String}

theorem attr_recordType (p : CommandPlan) (name : String) :
    (p.recordType name).fields.map RecordField.attr = p.fields.map Field.attr := by
  rw [recordType, List.map_map]
  rfl

theorem declares_recordType {attr : String} :
    (p.recordType name).declares attr = true ↔ attr ∈ p.fields.map Field.attr := by
  rw [RecordType.declares_iff, ← attr_recordType p name, List.mem_map]

/-- A record of ordinary attributes can be made and read. -/
theorem plain_of_ordinary (h : ∀ f ∈ p.fields, Attribute.isOrdinary f.attr) :
    (p.recordType name).Plain := by
  have hfree {attr : String}
      (hmem : attr ∈ Attribute.answered ++ Attribute.makers ++ Attribute.readers) :
      (p.recordType name).declares attr = false := by
    rw [Bool.eq_false_iff, Ne, declares_recordType, List.mem_map]
    rintro ⟨f, hf, rfl⟩
    have := h f hf
    rw [Attribute.isOrdinary, Bool.not_eq_true', Bool.eq_false_iff, Ne, List.contains_iff_mem] at this
    exact this hmem
  refine ⟨fun attr hattr => hfree ?_, fun attr hattr => hfree ?_, rfl⟩
  · exact List.mem_append_left _ (List.mem_append_right _ hattr)
  · exact List.mem_append_right _ hattr

theorem not_answered_of_ordinary {f : Field} (h : Attribute.isOrdinary f.attr = true) :
    f.attr ∉ Attribute.answered := by
  intro hmem
  rw [Attribute.isOrdinary, Bool.not_eq_true', Bool.eq_false_iff, Ne, List.contains_iff_mem] at h
  exact h (List.mem_append_left _ (List.mem_append_left _ hmem))

/-- No field of a record that can be declared stands for all its attributes. -/
theorem dict_not_mem (h : p.declarationFault? = none) : "__dict__" ∉ p.fields.map Field.attr :=
  Attribute.not_mem_of_fault h (by decide)

end CommandPlan

/-! ## What a builder is to return -/

/-- **What the builder of a plan is to return** at the end of a history, if the program is `program`: the
block of every flag of the command is that of the final value of the flag's attribute. -/
def CommandPlan.Returns (p : CommandPlan) (program : String) (h : History) (i : Invocation) : Prop :=
  ∃ blocks, List.Forall₂ (fun (flag : Flag) block => ∃ attr, Name.field? flag.name = some attr ∧
      Render.flag flag.name (FieldType.ofTag flag.type).shape.word (h.final attr) = .ok block)
    p.info.flags blocks ∧
  i = { program, args := p.path.tail ++ blocks.flatten ++ h.args }

theorem Field.ofFlag?_type {flag : Flag} {field : Field} (h : Field.ofFlag? flag = some field) :
    field.type = FieldType.ofTag flag.type := by
  obtain ⟨attr, -, rfl⟩ := Option.map_eq_some_iff.mp h
  rfl

namespace CommandPlan

variable {p : CommandPlan} {program : String} {h : History}

theorem returns_of_blocks (hof : FieldsOf p.info.flags p.fields) {blocks : List (List String)}
    (hblocks : List.Forall₂ (fun (f : Field) block =>
      Render.flag f.flag.name f.shape.word (h.final f.attr) = .ok block) p.fields blocks) :
    p.Returns program h { program, args := p.path.tail ++ blocks.flatten ++ h.args } := by
  refine ⟨blocks, forall₂_trans hof hblocks ?_, rfl⟩
  intro flag field block _ hfield hblock
  obtain ⟨hflag, hattr⟩ := Field.ofFlag?_eq_some hfield
  refine ⟨field.attr, hattr, ?_⟩
  rw [Field.shape, Field.ofFlag?_type hfield, hflag] at hblock
  exact hblock

/-- A flag whose attribute has a sample value in the end gives arguments. -/
theorem Returns.args_ne {i : Invocation} (hret : p.Returns program h i)
    (hof : FieldsOf p.info.flags p.fields) {f : Field} (hf : f ∈ p.fields)
    (hfinal : h.final f.attr = f.shape.sample) : i.args ≠ p.path.tail ++ [] ++ h.args := by
  obtain ⟨blocks, hblocks, rfl⟩ := hret
  obtain ⟨flag, hflagmem, hfield⟩ := exists_left_of_mem hof hf
  obtain ⟨hflag, hattr⟩ := Field.ofFlag?_eq_some hfield
  obtain ⟨block, hmem, attr, hattr', hblock⟩ := exists_right_of_mem hblocks hflagmem
  obtain rfl : f.attr = attr := Option.some.inj (hattr.symm.trans hattr')
  rw [hfinal, Field.shape, Field.ofFlag?_type hfield] at hblock
  intro hargs
  have hflatten : blocks.flatten = [] := by simpa using hargs
  obtain rfl : block = [] := List.flatten_eq_nil_iff.mp hflatten block hmem
  exact Shape.flag_sample _ _ hblock

end CommandPlan

/-! ## Records that are not ordinary -/

/-- The history of a record that is made from `given`, changed and given to its builder. -/
def History.plain (given : List (String × Value)) (changes : List Change) : History :=
  { var := "", given, changes, args := [] }

namespace CommandGraph

variable {g : CommandGraph} {exclude : List String} {plans : List CommandPlan} {ws : List Wrapper}
  {p : CommandPlan} {name : String} {others : List String}

theorem wrapper_of_plan (hplan : g.plan exclude = .ok plans) (hws : g.wrappers exclude = .ok ws)
    (hp : p ∈ plans) {w : Wrapper} (hw : w ∈ p.wrappers) : Session.wrapper ws w.name = .ok w := by
  obtain ⟨-, rfl⟩ := (wrappers_eq_ok hplan).mp hws
  refine wrapper_eq_ok ?_ (List.mem_flatMap.mpr ⟨p, hp, hw⟩)
  rw [wrappers_map_name]
  exact names_nodup (plan_base_nodup hplan)

theorem record_of_plan (hplan : g.plan exclude = .ok plans) (hws : g.wrappers exclude = .ok ws)
    (hp : p ∈ plans) (hname : p.optionName? = some name) :
    Session.wrapper ws name = .ok (.record (p.recordType name)) :=
  wrapper_of_plan hplan hws hp (w := .record (p.recordType name))
    (CommandPlan.mem_wrappers.mpr (.inl ⟨name, hname, rfl⟩))

theorem builder_of_plan (hplan : g.plan exclude = .ok plans) (hws : g.wrappers exclude = .ok ws)
    (hp : p ∈ plans) : Session.wrapper ws p.builderName = .ok (.builder p.builder) :=
  wrapper_of_plan hplan hws hp (w := .builder p.builder) (CommandPlan.mem_wrappers.mpr (.inr rfl))

end CommandGraph

namespace CommandPlan

variable {p : CommandPlan} {name : String} {others : List String} {ws : List Wrapper}

/-- A history that gives a sample value to one attribute fits. -/
theorem fits_sample (hnodup : (p.fields.map Field.attr).Nodup) {f : Field} (hf : f ∈ p.fields) :
    (History.plain [(f.attr, f.shape.sample)] []).Fits p others := by
  refine ⟨?_, by simp [History.plain], ?_⟩
  · intro e he
    obtain rfl : e = (f.attr, f.shape.sample) := by simpa [History.plain] using he
    exact List.mem_map_of_mem hf
  · intro f' hf'
    by_cases hattr : f'.attr = f.attr
    · obtain rfl : f' = f := List.inj_on_of_nodup_map hnodup hf' hf hattr
      simpa [History.plain, History.final] using f'.shape.fits_sample
    · have hne : (f'.attr == f.attr) = false := by simpa using hattr
      simpa [History.plain, History.final, List.lookup_cons, hne] using f'.shape.fits_none

theorem final_sample (f : Field) :
    (History.plain [(f.attr, f.shape.sample)] []).final f.attr = f.shape.sample := by
  simp [History.plain, History.final]

section Failures

variable (ht : Session.wrapper ws name = .ok (.record (p.recordType name)))
  (hb : Session.wrapper ws p.builderName = .ok (.builder p.builder))
  (hname : p.optionName? = some name)

theorem takesRecord_builder (hname : p.optionName? = some name) : p.builder.takesRecord = true := by
  rw [builder, hname]
  rfl

include ht hb

/-- With a field in the place of what makes records, nothing is built. -/
theorem getLast?_of_maker {attr : String} (hmaker : attr ∈ Attribute.makers)
    (hmem : attr ∈ p.fields.map Field.attr) :
    ∃ e, (Session.run ws {} ((History.plain [] []).steps name p.builderName)).getLast? =
      some (.error e) := by
  have hdeclares : (p.recordType name).declares attr = true := declares_recordType.mpr hmem
  obtain ⟨e, he⟩ := Session.make_error (s := {}) hmaker hdeclares [] 0
  have hstep : Session.step ws {} (.make "" name [] []) = .error e := by
    simp only [Session.step, ht, bind, Except.bind, List.length_nil, he]
  have hafter : Session.after ws {} [.make "" name [] []] = {} := by
    rw [Session.after, hstep]
    rfl
  refine ⟨.unknownName "", ?_⟩
  rw [Session.getLast?_steps]
  show some ((Session.step ws (Session.after ws {} [.make "" name [] []]) _).map Prod.fst) = _
  rw [hafter]
  exact congrArg some (Session.build_unnamed (b := p.builder) [] hb rfl)

include hname

/-- With a field in the place of what reads records, nothing is built. -/
theorem getLast?_of_reader
    (hmakers : ∀ attr ∈ Attribute.makers, (p.recordType name).declares attr = false)
    {attr : String} (hreader : attr ∈ Attribute.readers) (hmem : attr ∈ p.fields.map Field.attr) :
    ∃ e, (Session.run ws {} ((History.plain [] []).steps name p.builderName)).getLast? =
      some (.error e) := by
  obtain ⟨s', r, hmake, hr, hvalues, -⟩ :=
    Session.make_ok (s := {}) hmakers (List.forall_mem_nil fun e : String × Value => _)
  -- the value that is found in that place is none, which can neither be called nor searched
  have hrender : ∃ e, r.render (s'.bind "" r) = .error e := by
    have hdeclares : (p.recordType name).declares attr = true := declares_recordType.mpr hmem
    by_cases hgetter : r.type.declares Attribute.getter = true
    · exact ⟨_, by rw [Record.render, Record.fields, if_pos hgetter]; rfl⟩
    have hattr : attr = Attribute.fieldTable := by
      rcases List.mem_cons.mp hreader with rfl | hmem
      · exact absurd (hr ▸ hdeclares) hgetter
      · exact List.mem_singleton.mp hmem
    obtain ⟨f, hf, hfattr⟩ := RecordType.declares_iff.mp (hattr ▸ hdeclares)
    have hnone : (r.cell? Attribute.fieldTable).map (s'.bind "" r).value = some .none := by
      have := Session.lookup_initialValues [] hf
      rw [hfattr] at this
      exact (hvalues _).trans this
    exact ⟨_, by rw [Record.render, Record.fields, if_neg hgetter, hnone]; rfl⟩
  obtain ⟨e, he⟩ := hrender
  exact ⟨e, Session.getLast?_of_render_error (h := History.plain [] []) (b := p.builder) hb
    (takesRecord_builder hname) (Session.after_make_eq ht hmake) (Store.find_bind s' "" r) he⟩

/-- When the type answers for an attribute itself, the flag of the field is lost. -/
theorem getLast?_of_answered (hplain : (p.recordType name).Plain)
    (hnodup : (p.fields.map Field.attr).Nodup) {f : Field} (hf : f ∈ p.fields)
    (hanswered : f.attr ∈ Attribute.answered) :
    (Session.run ws {} ((History.plain [(f.attr, f.shape.sample)] []).steps name
      p.builderName)).getLast? =
      some (.ok (.invocation { program := p.program, args := p.path.tail ++ [] ++ [] })) := by
  have hfits : (History.plain [(f.attr, f.shape.sample)] []).Fits p [] := fits_sample hnodup hf
  have hnone : ∀ a ∈ ([] : List String), a ∉ Attribute.steering := by simp
  have hlast := Session.getLast?_history (s := {}) (t := p.recordType name) (b := p.builder) ht hb
    (takesRecord_builder hname) hplain hnone
    (fun e he => declares_recordType.mpr (hfits.given e he))
    (fun c hc => attr_recordType p name ▸ hfits.changes c hc)
  refine hlast.trans ?_
  rw [renderFields_nothing]
  · rfl
  intro e he
  obtain ⟨d, hd, rfl⟩ := List.mem_map.mp he
  obtain ⟨f', hf', rfl⟩ := List.mem_map.mp hd
  by_cases hattr : f'.attr = f.attr
  · left
    simp [Field.declaration, hattr, hanswered]
  · right
    have hne : (f'.attr == f.attr) = false := by simpa using hattr
    simp [History.plain, History.final, Field.declaration, List.lookup_cons, hne]

/-- A record that gets a table of fields of its own is not read any more. -/
theorem getLast?_of_table (hplain : (p.recordType name).Plain) :
    ∃ e, (Session.run ws {} ((History.plain [] [.set Attribute.fieldTable .none]).steps name
      p.builderName)).getLast? = some (.error e) := by
  obtain ⟨r, hfind, hr, -⟩ : Named (Session.after ws {} [.make "" name [] []]) "" _ _ :=
    Session.after_make ht hplain (by simp)
  generalize hs : Session.after ws {} [.make "" name [] []] = s at hfind
  have hfree : Attribute.fieldTable ∈ Attribute.guarded →
      r.type.declares Attribute.fieldTable = true := by
    simp [Attribute.guarded, Attribute.fieldTable]
  have hassign := Session.assign_eq (s := s) (hr ▸ hplain.open_ : r.type.frozen = false) .none hfree
  have hafter := Session.after_append ws {} [.make "" name [] []]
    [.assign "" Attribute.fieldTable .none]
  rw [hs, Session.after_assign_eq hfind hassign] at hafter
  have hgetter : r.type.declares Attribute.getter = false := by
    rw [hr]
    exact hplain.readers _ (by simp [Attribute.readers])
  have hnone : ((r.point Attribute.fieldTable (s.allocate .none).2).cell? Attribute.fieldTable).map
      ((s.allocate .none).1.bind "" (r.point Attribute.fieldTable s.cells.size)).value = some .none := by
    rw [Record.cell?_point, Option.map_some, Store.value_bind, Store.value_allocate_new]
  refine ⟨.missingAttribute Value.none.kind "values", Session.getLast?_of_render_error
    (h := History.plain [] [.set Attribute.fieldTable .none]) (b := p.builder) hb
    (takesRecord_builder hname) hafter (Store.find_bind _ "" _) ?_⟩
  show (r.point Attribute.fieldTable (s.allocate .none).2).render ((s.allocate .none).1.bind "" _) = _
  rw [Record.render, Record.fields, Record.type_point, hgetter]
  simp only [hnone]
  rfl

/-- A record whose attributes are replaced as a whole has none of its values any more. -/
theorem getLast?_of_dict (hplain : (p.recordType name).Plain)
    (hdict : "__dict__" ∉ p.fields.map Field.attr) (given : List (String × Value))
    (hgiven : ∀ e ∈ given, e.1 ∈ p.fields.map Field.attr) :
    (Session.run ws {} ((History.plain given [.set "__dict__" (.map [])]).steps name
      p.builderName)).getLast? =
      some (.ok (.invocation { program := p.program, args := p.path.tail ++ [] ++ [] })) := by
  obtain ⟨r, hfind, hr, -⟩ : Named (Session.after ws {} [.make "" name given []]) "" _ _ :=
    Session.after_make ht hplain fun e he => declares_recordType.mpr (hgiven e he)
  generalize hs : Session.after ws {} [.make "" name given []] = s at hfind
  have hundeclared : r.type.declares "__dict__" = false := by
    rw [Bool.eq_false_iff, hr]
    exact fun h => hdict (declares_recordType.mp h)
  have hassign : Session.assign s r "__dict__" (.map []) = .ok (s, { r with slots := [] }) := by
    have hopen : r.type.frozen = false := hr ▸ hplain.open_
    simp [Session.assign, hopen, hundeclared, Attribute.guarded, Session.setGuarded, Store.allocateAll]
  have hafter := Session.after_append ws {} [.make "" name given []] [.assign "" "__dict__" (.map [])]
  rw [hs, Session.after_assign_eq hfind hassign] at hafter
  have hlast := Session.getLast?_of_find (h := History.plain given [.set "__dict__" (.map [])])
    (b := p.builder) hb (takesRecord_builder hname) hafter (Store.find_bind _ "" _)
  have hgetter : r.type.declares Attribute.getter = false := by
    rw [hr]
    exact hplain.readers _ (by simp [Attribute.readers])
  have hrender (s' : Store) : ({ r with slots := [] } : Record).render s' = .ok [] := by
    simp only [Record.render, Record.fields, hgetter]
    show (renderFields _).mapError _ = _
    rw [renderFields_nothing]
    · rfl
    · intro e he
      obtain ⟨d, -, rfl⟩ := List.mem_map.mp he
      exact .inr rfl
  rw [hrender] at hlast
  exact hlast

end Failures

end CommandPlan

/-! ## Builders of a graph -/

namespace CommandPlan

variable {p : CommandPlan} {name program : String} {others : List String} {ws : List Wrapper}

/-- The builder returns what it is to return at the end of every history that fits. -/
def Obeys (p : CommandPlan) (program : String) (ws : List Wrapper) (name : String)
    (others : List String) : Prop :=
  ∀ (s : Store) (h : History), h.Fits p others →
    ∃ i, (Session.run ws s (h.steps name p.builderName)).getLast? = some (.ok (.invocation i)) ∧
      p.Returns program h i

theorem fits_bare (changes : List Change)
    (hchanges : ∀ c ∈ changes, c.Respects (p.fields.map Field.attr) others)
    (hfinal : ∀ f ∈ p.fields, (History.plain [] changes).final f.attr = .none) :
    (History.plain [] changes).Fits p others := by
  refine ⟨by simp [History.plain], hchanges, fun f hf => ?_⟩
  rw [hfinal f hf]
  exact f.shape.fits_none

section Obeys

variable (ht : Session.wrapper ws name = .ok (.record (p.recordType name)))
  (hb : Session.wrapper ws p.builderName = .ok (.builder p.builder))
  (hname : p.optionName? = some name)

include ht hb hname

/-- The builder of a record of ordinary attributes obeys. -/
theorem obeys_of_ordinary (hof : FieldsOf p.info.flags p.fields)
    (hordinary : ∀ f ∈ p.fields, Attribute.isOrdinary f.attr)
    (hothers : ∀ a ∈ others, a ∉ Attribute.steering) : p.Obeys p.program ws name others := by
  intro s h hfits
  have hblocks : ∀ f ∈ p.fields, ∃ block,
      Render.flag f.flag.name f.shape.word (h.final f.attr) = .ok block :=
    fun f hf => Render.flag_of_fits _ (hfits.values f hf)
  obtain ⟨blocks, hblocks⟩ := exists_forall₂ hblocks
  have hlast := Session.getLast?_history (s := s) (t := p.recordType name) (b := p.builder) ht hb
    (takesRecord_builder hname) (plain_of_ordinary hordinary) hothers
    (fun e he => declares_recordType.mpr (hfits.given e he))
    (fun c hc => attr_recordType p name ▸ hfits.changes c hc)
  have hrender : renderFields ((p.recordType name).fields.map fun d => (d.flag?, h.final d.attr)) =
      .ok blocks.flatten :=
    renderFields_blocks (fun f hf => not_answered_of_ordinary (hordinary f hf)) hblocks
  rw [hrender] at hlast
  exact ⟨_, hlast, returns_of_blocks hof hblocks⟩

/-- A builder that obeys has a record of ordinary attributes. -/
theorem ordinary_of_obeys (hof : FieldsOf p.info.flags p.fields)
    (hnodup : (p.fields.map Field.attr).Nodup) (hobeys : p.Obeys program ws name others) :
    ∀ f ∈ p.fields, Attribute.isOrdinary f.attr := by
  -- the bare record has to be made and read, so nothing stands in the place of what does that
  obtain ⟨_, hbare, -⟩ := hobeys {} _ (fits_bare [] (by simp) fun f _ => rfl)
  have hmakers : ∀ attr ∈ Attribute.makers, attr ∉ p.fields.map Field.attr := by
    intro attr hmaker hmem
    obtain ⟨e, he⟩ := getLast?_of_maker ht hb hmaker hmem
    cases he.symm.trans hbare
  have hreaders : ∀ attr ∈ Attribute.readers, attr ∉ p.fields.map Field.attr := by
    intro attr hreader hmem
    have hmakers' : ∀ attr ∈ Attribute.makers, (p.recordType name).declares attr = false := by
      intro attr hmaker
      rw [Bool.eq_false_iff]
      exact fun h => hmakers attr hmaker (declares_recordType.mp h)
    obtain ⟨e, he⟩ := getLast?_of_reader ht hb hname hmakers' hreader hmem
    cases he.symm.trans hbare
  have hplain : (p.recordType name).Plain := by
    refine ⟨fun attr hmaker => ?_, fun attr hreader => ?_, rfl⟩
    · rw [Bool.eq_false_iff]
      exact fun h => hmakers attr hmaker (declares_recordType.mp h)
    · rw [Bool.eq_false_iff]
      exact fun h => hreaders attr hreader (declares_recordType.mp h)
  intro f hf
  have hmem : f.attr ∈ p.fields.map Field.attr := List.mem_map_of_mem hf
  rw [Attribute.isOrdinary, Bool.not_eq_true', Bool.eq_false_iff, Ne, List.contains_iff_mem]
  intro hspecial
  rcases List.mem_append.mp hspecial with hspecial | hreader
  · rcases List.mem_append.mp hspecial with hanswered | hmaker
    · -- the block of the sample value is missing
      obtain ⟨i, hi, hret⟩ := hobeys {} _ (fits_sample hnodup hf)
      rw [getLast?_of_answered ht hb hname hplain hnodup hf hanswered] at hi
      cases hi
      exact hret.args_ne hof hf (final_sample f) rfl
    · exact hmakers _ hmaker hmem
  · exact hreaders _ hreader hmem

/-- A builder that obeys is given no record whose attributes are set as a whole. -/
theorem dict_of_obeys (hof : FieldsOf p.info.flags p.fields)
    (hnodup : (p.fields.map Field.attr).Nodup) (hdict : "__dict__" ∉ p.fields.map Field.attr)
    (hplain : (p.recordType name).Plain) (hobeys : p.Obeys program ws name others) :
    "__dict__" ∉ others := by
  intro ha
  obtain ⟨f, hf⟩ : ∃ f, f ∈ p.fields := by
    cases hfields : p.fields with
    | nil => simp [optionName?, hfields] at hname
    | cons f _ => exact ⟨f, List.mem_cons_self ..⟩
  have hsample : (History.plain [(f.attr, f.shape.sample)] []).Fits p others := fits_sample hnodup hf
  have hne {f' : Field} (hf' : f' ∈ p.fields) : f'.attr ≠ "__dict__" :=
    fun h => hdict (h ▸ List.mem_map_of_mem hf')
  -- setting an attribute that is not declared leaves the values as they should be
  have hfinal {f' : Field} (hf' : f' ∈ p.fields) :
      (History.plain [(f.attr, f.shape.sample)] [.set "__dict__" (.map [])]).final f'.attr =
        (History.plain [(f.attr, f.shape.sample)] []).final f'.attr :=
    if_neg (hne hf')
  have hfits : (History.plain [(f.attr, f.shape.sample)] [.set "__dict__" (.map [])]).Fits p others := by
    refine ⟨hsample.given, ?_, fun f' hf' => ?_⟩
    · intro c hc
      obtain rfl : c = .set "__dict__" (.map []) := by simpa [History.plain] using hc
      exact .inr ha
    · rw [hfinal hf']
      exact hsample.values f' hf'
  obtain ⟨i, hi, hret⟩ := hobeys {} _ hfits
  have hlost := getLast?_of_dict ht hb hname hplain hdict [(f.attr, f.shape.sample)] hsample.given
  obtain rfl : i = { program := p.program, args := p.path.tail ++ [] ++ [] } := by
    cases hi.symm.trans hlost
    rfl
  exact hret.args_ne hof hf ((hfinal hf).trans (final_sample f)) rfl

/-- A builder that obeys is given no record whose fields are set as a whole. -/
theorem table_of_obeys (hplain : (p.recordType name).Plain) (hobeys : p.Obeys program ws name others) :
    Attribute.fieldTable ∉ others := by
  intro ha
  have htable : Attribute.fieldTable ∉ p.fields.map Field.attr := by
    intro h
    have := hplain.readers Attribute.fieldTable (by simp [Attribute.readers])
    rw [declares_recordType.mpr h] at this
    cases this
  have hfits : (History.plain [] [.set Attribute.fieldTable .none]).Fits p others := by
    refine fits_bare _ ?_ fun f hf => if_neg ?_
    · intro c hc
      obtain rfl : c = .set Attribute.fieldTable .none := by simpa using hc
      exact .inr ha
    · intro h
      exact htable (h ▸ List.mem_map_of_mem hf)
  obtain ⟨i, hi, -⟩ := hobeys {} _ hfits
  obtain ⟨e, he⟩ := getLast?_of_table ht hb hname hplain
  cases he.symm.trans hi

theorem not_steering_of_obeys (hof : FieldsOf p.info.flags p.fields)
    (hnodup : (p.fields.map Field.attr).Nodup) (hdict : "__dict__" ∉ p.fields.map Field.attr)
    (hordinary : ∀ f ∈ p.fields, Attribute.isOrdinary f.attr)
    (hobeys : p.Obeys program ws name others) : ∀ a ∈ others, a ∉ Attribute.steering := by
  have hplain : (p.recordType name).Plain := plain_of_ordinary hordinary
  intro a ha hsteering
  rcases List.mem_cons.mp hsteering with rfl | hmem
  · exact dict_of_obeys ht hb hname hof hnodup hdict hplain hobeys ha
  · obtain rfl : a = Attribute.fieldTable := List.mem_singleton.mp hmem
    exact table_of_obeys ht hb hname hplain hobeys ha

end Obeys

end CommandPlan

namespace CommandGraph

variable {g : CommandGraph} {exclude : List String} {plans : List CommandPlan} {ws : List Wrapper}

/-- **From a tree to the arguments of an invocation.**  Without a record, the builder of a planned
command returns the root, called with the path below it and the positional arguments.  With a record,
whose attributes are pairwise distinct, it returns between them the block of every flag for the final
value of the flag's attribute, whatever the history of the record, if and only if all attributes of the
record are ordinary and no attribute is set that stands for all attributes or fields. -/
theorem builder_obeys_iff (hplan : g.plan exclude = .ok plans) (hws : g.wrappers exclude = .ok ws)
    {p : CommandPlan} (hp : p ∈ plans) :
    (∀ (s : Store) (args : List String),
      (Session.step ws s (.build p.builderName none (some (.words args)) none)).map Prod.fst =
        .ok (.invocation { program := g.name, args := p.path.tail ++ args })) ∧
    ∀ name, p.optionName? = some name →
      (p.fields.map Field.attr).Nodup ∧
      ∀ others, p.Obeys g.name ws name others ↔
        (∀ f ∈ p.fields, Attribute.isOrdinary f.attr) ∧ ∀ a ∈ others, a ∉ Attribute.steering := by
  obtain ⟨v, -, hof, -, hpath⟩ := plan_visit hplan hp
  have hprogram : p.program = g.name := by rw [CommandPlan.program, hpath]; rfl
  have hfields : FieldsOf p.info.flags p.fields := hof.info ▸ hof.fields
  have hb := builder_of_plan hplan hws hp
  refine ⟨?_, fun name hname => ⟨plan_attr_nodup hplan hp, fun others => ⟨?_, ?_⟩⟩⟩
  · intro s args
    rw [← hprogram]
    exact (Session.build_alone (b := p.builder) args hb).trans (by rw [assemble, List.append_nil]; rfl)
  · intro hobeys
    have hnodup := plan_attr_nodup hplan hp
    have ht := record_of_plan hplan hws hp hname
    have hordinary := CommandPlan.ordinary_of_obeys ht hb hname hfields hnodup hobeys
    have hfault := ((wrappers_eq_ok hplan).mp hws).1 p hp
    exact ⟨hordinary, CommandPlan.not_steering_of_obeys ht hb hname hfields hnodup
      (CommandPlan.dict_not_mem hfault) hordinary hobeys⟩
  · rintro ⟨hordinary, hothers⟩
    rw [← hprogram]
    exact CommandPlan.obeys_of_ordinary (record_of_plan hplan hws hp hname) hb hname hfields
      hordinary hothers

/-- The flag `--label` is rendered as it should be, whatever else is set; the flag `--__name__` is
not. -/
theorem builder_obeys_label :
    (planOfFlag "label").Obeys "tool" (planOfFlag "label").wrappers "ToolOption" ["note"] ∧
      ¬ (planOfFlag "__name__").Obeys "tool" (planOfFlag "__name__").wrappers "ToolOption" [] := by
  have hplan : (ofFlag "label").plan [] = .ok [planOfFlag "label"] := by decide +kernel
  have hws : (ofFlag "label").wrappers [] = .ok (planOfFlag "label").wrappers := by decide +kernel
  have hplan' : (ofFlag "__name__").plan [] = .ok [planOfFlag "__name__"] := by decide +kernel
  have hws' : (ofFlag "__name__").wrappers [] = .ok (planOfFlag "__name__").wrappers := by decide +kernel
  have hlabel := (builder_obeys_iff hplan hws (List.mem_singleton.mpr rfl)).2 "ToolOption" rfl
  have hname := (builder_obeys_iff hplan' hws' (List.mem_singleton.mpr rfl)).2 "ToolOption" rfl
  refine ⟨(hlabel.2 ["note"]).mpr ⟨by decide, by decide⟩, fun hobeys => ?_⟩
  exact absurd ((hname.2 []).mp hobeys).1 (by decide)

end CommandGraph

end CommandWrap
