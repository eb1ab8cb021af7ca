import CommandWrap.Proofs.ModuleRecovery

/-!
# Closed modules

A line of a module gives values to some names and evaluates others (`Source.Line.naming`).  A module is closed
(`Source.ClosedFrom`) if every name that is evaluated is a word of the language, a parameter of the builder around it,
or bound by a line before.  Generated modules are closed, and they import what they use and nothing else
(`CommandGraph.module_closed_iff`).

Inside of a class an attribute hides what is imported under its name.  No attribute is spelled like a helper; but the
language knows names in normal form, and an attribute may be known as a helper.  A field calls the helper that is
imported exactly if no attribute above it in its class is known under the name of the helper.
-/
namespace CommandWrap

/-! ## What lines do with names -/

namespace Source

/-- The words of the language that modules evaluate: constants and types. -/
def builtins : List String :=
  ["None", "True", "str", "bool", "int", "float", "complex", "list", "dict"]

/-- The names among tokens. -/
def namesIn (tokens : List Token) : List String :=
  tokens.filterMap fun
    | .name n => some (String.ofList n)
    | _ => none

/-- The names directly behind signs of some kind. -/
def namesBehind (kind : Char → Bool) : List Token → List String
  | .mark c :: .name n :: rest =>
    if kind c then String.ofList n :: namesBehind kind rest else namesBehind kind rest
  | _ :: rest => namesBehind kind rest
  | [] => []

/-- Does a parameter stand behind the sign? -/
def opensParameter (c : Char) : Bool :=
  c == '(' || c == ','

/-- What a line does with names. -/
structure Naming where
  /-- The names that the line gives a value to, where it stands. -/
  binds : List String := []
  /-- The names that have values in the lines below. -/
  parameters : List String := []
  /-- The names whose values the line asks for. -/
  evaluates : List String := []

/-- **What a line does with names.**  Imports, classes and definitions bind names, and so does a value that is given to
one; everything else that is named is evaluated, but for parameters and the keywords of the decorator. -/
def Line.naming (l : Line) : Naming :=
  match l.tokens with
  | .mark '@' :: .name n :: .mark '(' :: .name _ :: .mark '=' :: rest =>
    { evaluates := String.ofList n :: namesIn rest }
  | .name first :: rest =>
    if first = "from".toList then { binds := ((cutAt (word "import") rest).map fun cut => namesIn cut.2).getD [] }
    else if first = "class".toList then { binds := namesIn rest }
    else if first = "def".toList then
      { binds := (namesIn rest).take 1
        parameters := namesBehind opensParameter rest
        evaluates := namesBehind (!opensParameter ·) rest }
    else if first = "return".toList then { evaluates := namesIn rest }
    else { binds := [String.ofList first], evaluates := namesIn rest }
  | _ => {}

/-- The first name that is called. -/
def calledIn : List Token → Option String
  | .name n :: .mark '(' :: _ => some (String.ofList n)
  | _ :: rest => calledIn rest
  | [] => none

/-- The first name that the line calls. -/
def Line.called? (l : Line) : Option String :=
  calledIn l.tokens

/-- **A block**: a line of the module and the lines of its body, which are indented. -/
structure Block where
  /-- The line that is not indented. -/
  head : Line
  /-- The lines below it. -/
  body : List Line
  head_indent : head.indent = 0
  body_indent : ∀ l ∈ body, 0 < l.indent

/-- The lines of a block. -/
def Block.lines (b : Block) : List Line :=
  b.head :: b.body

/-- The block is the body of a class. -/
def Block.isRecord (b : Block) : Bool :=
  b.head.tokens.head? == some (word "class")

/-- Every name that the block evaluates has a value, if the names `bound` have one. -/
def Block.ClosedIn (bound : List String) (b : Block) : Prop :=
  (∀ n ∈ b.head.naming.evaluates, n ∈ builtins ∨ n ∈ bound) ∧
    ∀ l ∈ b.body, ∀ n ∈ l.naming.evaluates, n ∈ builtins ∨ n ∈ b.head.naming.parameters ∨ n ∈ bound

/-- **Blocks that are closed** one after the other: each finds the names of those before it. -/
def ClosedFrom (bound : List String) : List Block → Prop
  | [] => True
  | b :: rest => b.ClosedIn bound ∧ ClosedFrom (bound ++ b.head.naming.binds) rest

/-- The names that the line imports, with the module that they come from. -/
def Line.import? (l : Line) : Option (String × List String) :=
  match statement? l with
  | some (.imported source names) => some (source, names)
  | _ => none

/-- The line binds the name, as the language knows names. -/
def Line.knows (name : String) (l : Line) : Bool :=
  (l.naming.binds.map Attribute.known).contains (Attribute.known name)

/-- **Where the body of a class finds a name**: in the last line above that binds it, or else in the last block before
that does. -/
def found (before : List Block) (above : List Line) (name : String) : Option Line :=
  (above.reverse.find? (·.knows name)).or ((before.map Block.head).reverse.find? (·.knows name))

/-! ## Blocks one after the other -/

section closed

variable {bound more : List String}

theorem Block.ClosedIn.mono {b : Block} (h : b.ClosedIn bound) (hmore : bound ⊆ more) : b.ClosedIn more := by
  refine ⟨fun n hn => (h.1 n hn).imp_right (@hmore n), fun l hl n hn => ?_⟩
  exact (h.2 l hl n hn).imp_right fun h => h.imp_right (@hmore n)

theorem ClosedFrom.mono {blocks : List Block} (h : ClosedFrom bound blocks) (hmore : bound ⊆ more) :
    ClosedFrom more blocks := by
  induction blocks generalizing bound more with
  | nil => trivial
  | cons b rest ih => exact ⟨h.1.mono hmore, ih h.2 (List.append_subset.mpr
    ⟨List.Subset.trans hmore (List.subset_append_left ..), List.subset_append_right ..⟩)⟩

theorem ClosedFrom.append {blocks more : List Block} (h : ClosedFrom bound blocks)
    (hmore : ClosedFrom (bound ++ blocks.flatMap fun b => b.head.naming.binds) more) :
    ClosedFrom bound (blocks ++ more) := by
  induction blocks generalizing bound with
  | nil => simpa using hmore
  | cons b rest ih =>
    refine ⟨h.1, ih h.2 ?_⟩
    rwa [List.flatMap_cons, ← List.append_assoc] at hmore

/-- Rows of blocks are closed if each of them is closed behind whatever stands before it. -/
theorem ClosedFrom.flatMap {α : Type} {f : α → List Block} {xs : List α}
    (h : ∀ x ∈ xs, ClosedFrom bound (f x)) : ClosedFrom bound (xs.flatMap f) := by
  induction xs generalizing bound with
  | nil => trivial
  | cons x xs ih =>
    rw [List.forall_mem_cons] at h
    rw [List.flatMap_cons]
    exact h.1.append (ih fun y hy => (h.2 y hy).mono (List.subset_append_left ..))

end closed

/-! ## The names of single lines -/

open ModuleText

theorem namesIn_separated (names : List String) :
    namesIn ((Piece.separated (names.map .word)).filterMap Piece.token?) = names := by
  induction names with
  | nil => rfl
  | cons name rest ih =>
    cases rest with
    | nil =>
      change [String.ofList name.toList] = _
      rw [String.ofList_toList]
    | cons second rest =>
      change String.ofList name.toList ::
        namesIn ((Piece.separated ((second :: rest).map .word)).filterMap Piece.token?) = _
      rw [ih, String.ofList_toList]

theorem naming_import {pieces : List Piece} {names : List String}
    (hfree : word "import" ∉ pieces.filterMap Piece.token?) :
    (lineOf 0 (importPieces pieces names)).naming = { binds := names } := by
  rw [Line.naming, lineOf, tokens_importPieces]
  change Naming.mk (((cutAt (word "import") (_ ++ word "import" :: _)).map fun cut => namesIn cut.2).getD []) [] [] = _
  rw [cutAt_append hfree, Option.map_some, Option.getD_some, namesIn_separated]

theorem naming_record (name : String) : (lineOf 0 (recordPieces name)).naming = { binds := [name] } := by
  change ({ binds := [String.ofList name.toList] } : Naming) = _
  rw [String.ofList_toList]

theorem naming_docstring (s : String) : (lineOf 4 [.docstring s]).naming = {} := by
  rfl

theorem naming_field {f : Field} (hattr : f.attr ∉ Name.keywords) :
    (lineOf 4 (fieldPieces f)).naming =
      { binds := [f.attr], evaluates := namesIn (annotationTokens f.type) ++ [f.helper] } := by
  have hne {w : String} (hw : w ∈ Name.keywords) : f.attr.toList ≠ w.toList := fun h =>
    hattr (String.toList_inj.mp h ▸ hw)
  have hnames : namesIn (.mark ':' :: annotationTokens f.type ++ .mark '=' ::
      [.name f.helper.toList, .mark '(', .text (unitsOf f.flag.name), .mark ')']) =
      namesIn (annotationTokens f.type) ++ [f.helper] := by
    rw [List.cons_append, namesIn, List.filterMap_cons, List.filterMap_append]
    simp [namesIn]
  rw [Line.naming, lineOf, tokens_fieldPieces]
  dsimp only [List.cons_append]
  rw [if_neg (hne (by decide)), if_neg (hne (by decide)), if_neg (hne (by decide)), if_neg (hne (by decide)),
    String.ofList_toList]
  rw [List.cons_append] at hnames
  rw [hnames]

theorem naming_head (name : String) (record? : Option String) :
    (lineOf 0 (headPieces false name record?)).naming =
      { binds := [name]
        parameters := if record?.isSome then ["opt", "args"] else ["args"]
        evaluates := (record?.map fun type => [type, "None", "None"]).getD [] ++ ["Sequence", "str", "Command"] } := by
  rw [Line.naming, lineOf, tokens_headPieces]
  cases record? with
  | none =>
    change Naming.mk [String.ofList name.toList] ["args"] ["Sequence", "str", "Command"] = _
    rw [String.ofList_toList]
    rfl
  | some type =>
    change Naming.mk [String.ofList name.toList] ["opt", "args"]
      [String.ofList type.toList, "None", "None", "Sequence", "str", "Command"] = _
    rw [String.ofList_toList, String.ofList_toList]
    rfl

theorem namesIn_routePieces (route : List String) : namesIn ((routePieces route).filterMap Piece.token?) = [] := by
  rw [namesIn, List.filterMap_filterMap, List.filterMap_eq_nil_iff]
  intro p hp
  rcases List.mem_append.mp hp with hp | hp
  · rcases Piece.mem_separated hp with hp | rfl | rfl
    · obtain ⟨w, -, rfl⟩ := List.mem_map.mp hp
      rfl
    · rfl
    · rfl
  · split at hp
    · obtain rfl := List.mem_singleton.mp hp
      rfl
    · cases hp

theorem naming_call (program : String) (route : List String) (record? : Option String) :
    (lineOf 4 (callPieces program route record?)).naming =
      { evaluates := ["build_command", if record?.isSome then "opt" else "None", "args"] } := by
  have hnames (opt : String) : namesIn (word "build_command" :: .mark '(' :: .text (unitsOf program) :: .mark ',' ::
      .mark '(' :: ((routePieces route).filterMap Piece.token? ++ .mark ')' ::
        [.mark ',', word opt, .mark ',', word "args", .mark ')'])) = ["build_command", opt, "args"] := by
    change "build_command" :: namesIn (_ ++ _) = _
    rw [namesIn, List.filterMap_append, ← namesIn, namesIn_routePieces]
    change ["build_command", String.ofList opt.toList, "args"] = _
    rw [String.ofList_toList]
  rw [Line.naming, lineOf, tokens_callPieces]
  exact congrArg (Naming.mk [] []) (hnames _)

theorem naming_exports (names : List String) :
    (lineOf 0 (exportPieces names)).naming = { binds := ["__all__"] } := by
  have hnames : namesIn (.mark '=' :: .mark '[' ::
      ((names.flatMap fun name => [.text (unitsOf name), .mark ',']) ++ .mark ']' :: [])) = [] := by
    rw [namesIn, List.filterMap_eq_nil_iff]
    intro t ht
    simp only [List.mem_cons, List.mem_append, List.mem_flatMap, List.not_mem_nil, or_false] at ht
    rcases ht with rfl | rfl | ⟨name, -, rfl | rfl⟩ | rfl <;> rfl
  rw [Line.naming, lineOf, tokens_exportPieces]
  exact congrArg (Naming.mk ["__all__"] []) hnames

theorem called_field (f : Field) : (lineOf 4 (fieldPieces f)).called? = some f.helper := by
  have hcalled : calledIn (.name f.attr.toList :: .mark ':' :: annotationTokens f.type ++ .mark '=' ::
      [.name f.helper.toList, .mark '(', .text (unitsOf f.flag.name), .mark ')']) =
      some (String.ofList f.helper.toList) := by
    cases f.type <;> simp [annotationTokens, word, calledIn]
  rw [Line.called?, lineOf, tokens_fieldPieces, hcalled, String.ofList_toList]

end Source

/-! ## The blocks of a module -/

namespace ModuleText

open Source

/-- The block that pieces spell. -/
def blockOf (head : List Piece) (body : List (List Piece)) : Block where
  head := lineOf 0 head
  body := body.map (lineOf 4)
  head_indent := rfl
  body_indent l hl := by
    obtain ⟨ps, -, rfl⟩ := List.mem_map.mp hl
    exact Nat.zero_lt_succ 3

/-- The import of what modules take from the module of helpers. -/
def runtimeBlock (plans : List CommandPlan) : Block :=
  blockOf (importPieces [.word "docker_wrapper", .sign '.', .word "runtime"]
    ("Command" :: "build_command" :: usedHelpers plans)) []

/-- The blocks of the imports. -/
def importBlocks (plans : List CommandPlan) : List Block :=
  [blockOf (importPieces [.word "__future__"] ["annotations"]) [],
    blockOf (importPieces [.word "collections", .sign '.', .word "abc"] ["Sequence"]) []] ++
    (if (usedHelpers plans).isEmpty then [] else [blockOf (importPieces [.word "dataclasses"] ["dataclass"]) []]) ++
    [runtimeBlock plans]

/-- The class of a command. -/
def recordBlock (name : String) (p : CommandPlan) : Block :=
  blockOf (recordPieces name) ([.docstring (p.recordType name).doc] :: p.fields.map fieldPieces)

/-- The builder of a command. -/
def builderBlock (p : CommandPlan) : Block :=
  blockOf (headPieces false p.builderName p.optionName?)
    [[.docstring p.builder.doc], callPieces p.program p.route p.optionName?]

/-- The blocks of a command. -/
def commandBlocks (p : CommandPlan) : List Block :=
  (match p.optionName? with
    | some name => [blockOf decoratorPieces [], recordBlock name p]
    | none => []) ++ [builderBlock p]

/-- **The blocks of a module** behind its docstring. -/
def blocks (plans : List CommandPlan) : List Block :=
  importBlocks plans ++ (plans.flatMap commandBlocks ++
    [blockOf (exportPieces (plans.flatMap CommandPlan.names)) []])

/-- The blocks hold the lines of the module. -/
theorem lines_blocks (plans : List CommandPlan) :
    (blocks plans).flatMap Block.lines = importSource plans ++ bodySource plans := by
  have himports : (importBlocks plans).flatMap Block.lines = importSource plans := by
    rw [importBlocks, importSource]
    split <;> rfl
  have hcommand (p : CommandPlan) : (commandBlocks p).flatMap Block.lines = commandSource p := by
    rw [commandBlocks, commandSource]
    cases p.optionName? with
    | none => rfl
    | some name =>
      simp [Block.lines, blockOf, recordBlock, builderBlock, recordSource, builderSource]
  rw [blocks, bodySource, List.flatMap_append, List.flatMap_append, himports, List.flatMap_assoc]
  simp only [hcommand]
  rfl

variable {plans : List CommandPlan}

theorem mem_usedHelpers {h : String} : h ∈ usedHelpers plans ↔ ∃ p ∈ plans, ∃ f ∈ p.fields, f.helper = h := by
  rw [usedHelpers, List.mem_filter, List.any_eq_true]
  simp only [List.any_eq_true, beq_iff_eq]
  refine ⟨fun h => h.2, fun hused => ⟨?_, hused⟩⟩
  obtain ⟨p, -, f, -, rfl⟩ := hused
  exact f.type.helper_mem_helpers

/-- The names that imports bind. -/
theorem binds_importBlocks (plans : List CommandPlan) :
    (importBlocks plans).flatMap (fun b => b.head.naming.binds) =
      ["annotations", "Sequence"] ++ (if (usedHelpers plans).isEmpty then [] else ["dataclass"]) ++
        ("Command" :: "build_command" :: usedHelpers plans) := by
  have hruntime : (runtimeBlock plans).head.naming = { binds := "Command" :: "build_command" :: usedHelpers plans } :=
    naming_import (by decide)
  rw [importBlocks, List.flatMap_append, List.flatMap_append, List.flatMap_singleton, hruntime]
  split <;> rfl

/-! ## Every name has a value -/

/-- What the commands find at the level of the module. -/
structure Provides (bound : List String) (p : CommandPlan) : Prop where
  always : ["Sequence", "Command", "build_command"] ⊆ bound
  decorator : p.fields ≠ [] → "dataclass" ∈ bound
  helpers : ∀ f ∈ p.fields, f.helper ∈ bound

theorem builtin_of_type (t : FieldType) : ∀ n ∈ namesIn (annotationTokens t), n ∈ builtins := by
  cases t with
  | scalar t => cases t <;> decide
  | list => decide
  | map => decide

theorem fields_ne_nil {p : CommandPlan} {name : String} (h : p.optionName? = some name) : p.fields ≠ [] := by
  intro hnil
  rw [CommandPlan.optionName?, hnil] at h
  cases h

/-- The builder finds the type of its records, if there is one. -/
theorem closedIn_builderBlock {p : CommandPlan} {bound : List String}
    (halways : ["Sequence", "Command", "build_command"] ⊆ bound) (hrecord : ∀ name ∈ p.optionName?, name ∈ bound) :
    (builderBlock p).ClosedIn bound := by
  have hhead : (builderBlock p).head.naming = _ := naming_head p.builderName p.optionName?
  rw [Block.ClosedIn, hhead]
  constructor
  · intro n hn
    rcases List.mem_append.mp hn with hn | hn
    · cases hname : p.optionName? with
      | none =>
        rw [hname] at hn
        cases hn
      | some name =>
        rw [hname] at hn
        simp only [Option.map_some, Option.getD_some, List.mem_cons, List.not_mem_nil, or_false, or_self] at hn
        rcases hn with rfl | rfl
        · exact .inr (hrecord _ hname)
        · exact .inl (by decide)
    · simp only [List.mem_cons, List.not_mem_nil, or_false] at hn
      rcases hn with rfl | rfl | rfl
      · exact .inr (halways (by decide))
      · exact .inl (by decide)
      · exact .inr (halways (by decide))
  · intro l hl n hn
    have hbody : (builderBlock p).body = [lineOf 4 [.docstring p.builder.doc],
      lineOf 4 (callPieces p.program p.route p.optionName?)] := rfl
    simp only [hbody, List.mem_cons, List.not_mem_nil, or_false] at hl
    rcases hl with rfl | rfl
    · rw [naming_docstring] at hn
      cases hn
    · rw [naming_call] at hn
      simp only [List.mem_cons, List.not_mem_nil, or_false] at hn
      rcases hn with rfl | rfl | rfl
      · exact .inr (.inr (halways (by decide)))
      · -- without records nothing stands in the place of one
        cases p.optionName? with
        | none => exact .inl (by decide)
        | some name => exact .inr (.inl (by simp))
      · refine .inr (.inl ?_)
        cases p.optionName? <;> simp

theorem closedIn_recordBlock {p : CommandPlan} (hp : p.Sound) {bound : List String}
    (hhelpers : ∀ f ∈ p.fields, f.helper ∈ bound) (name : String) : (recordBlock name p).ClosedIn bound := by
  have hhead : (recordBlock name p).head.naming = _ := naming_record name
  rw [Block.ClosedIn, hhead]
  refine ⟨nofun, fun l hl n hn => ?_⟩
  have hbody : (recordBlock name p).body =
      lineOf 4 [.docstring (p.recordType name).doc] :: (p.fields.map fieldPieces).map (lineOf 4) := rfl
  rw [hbody, List.mem_cons, List.map_map, List.mem_map] at hl
  rcases hl with rfl | ⟨f, hf, rfl⟩
  · rw [naming_docstring] at hn
    cases hn
  · rw [Function.comp_apply, naming_field (Name.field?_spec (hp.fields f hf)).2.2.1] at hn
    rcases List.mem_append.mp hn with hn | hn
    · exact .inl (builtin_of_type f.type n hn)
    · obtain rfl := List.mem_singleton.mp hn
      exact .inr (.inr (hhelpers f hf))

/-- **The blocks of a command are closed** behind what they need. -/
theorem closedFrom_commandBlocks {p : CommandPlan} (hp : p.Sound) {bound : List String} (h : Provides bound p) :
    ClosedFrom bound (commandBlocks p) := by
  cases hname : p.optionName? with
  | none =>
    rw [commandBlocks, hname]
    exact ⟨closedIn_builderBlock h.always (by simp [hname]), trivial⟩
  | some name =>
    have hdecorator : (blockOf decoratorPieces []).ClosedIn bound := by
      refine ⟨fun n hn => ?_, nofun⟩
      have hn : n ∈ ["dataclass", "True"] := hn
      simp only [List.mem_cons, List.not_mem_nil, or_false] at hn
      rcases hn with rfl | rfl
      · exact .inr (h.decorator (fields_ne_nil hname))
      · exact .inl (by decide)
    have hrecord : ∀ type ∈ p.optionName?, type ∈ bound ++ [] ++ (recordBlock name p).head.naming.binds := by
      intro type htype
      obtain rfl := Option.some.inj (hname.symm.trans htype)
      have hhead : (recordBlock name p).head.naming = _ := naming_record name
      rw [hhead]
      exact List.mem_append_right _ (List.mem_singleton_self name)
    have halways : ["Sequence", "Command", "build_command"] ⊆
        bound ++ [] ++ (recordBlock name p).head.naming.binds := by
      rw [List.append_nil]
      exact List.Subset.trans h.always (List.subset_append_left ..)
    rw [commandBlocks, hname]
    refine ⟨hdecorator, closedIn_recordBlock hp (fun f hf => ?_) name, closedIn_builderBlock halways hrecord, trivial⟩
    exact List.mem_append_left _ (h.helpers f hf)

theorem closedFrom_blocks (hsound : ∀ p ∈ plans, p.Sound) : ClosedFrom [] (blocks plans) := by
  have himports : ClosedFrom [] (importBlocks plans) := by
    have hblock (bound : List String) (pieces : List Piece) (names : List String)
        (hfree : word "import" ∉ pieces.filterMap Piece.token?) :
        (blockOf (importPieces pieces names) []).ClosedIn bound := by
      have hhead : (blockOf (importPieces pieces names) []).head.naming = _ := naming_import hfree
      rw [Block.ClosedIn, hhead]
      exact ⟨nofun, nofun⟩
    rw [importBlocks]
    split
    · exact ⟨hblock _ _ _ (by decide), hblock _ _ _ (by decide), hblock _ _ _ (by decide), trivial⟩
    · exact ⟨hblock _ _ _ (by decide), hblock _ _ _ (by decide), hblock _ _ _ (by decide), hblock _ _ _ (by decide),
        trivial⟩
  refine himports.append ?_
  rw [binds_importBlocks, List.nil_append]
  refine ClosedFrom.append (ClosedFrom.flatMap fun p hp => closedFrom_commandBlocks (hsound p hp) ?_) ?_
  · have hused {f : Field} (hf : f ∈ p.fields) : f.helper ∈ usedHelpers plans := mem_usedHelpers.mpr ⟨p, hp, f, hf, rfl⟩
    refine ⟨by simp, fun hne => ?_, fun f hf => ?_⟩
    · obtain ⟨f, hf⟩ := List.exists_mem_of_ne_nil _ hne
      have hsome : (usedHelpers plans).isEmpty = false := List.isEmpty_eq_false_iff_exists_mem.mpr ⟨_, hused hf⟩
      simp [hsome]
    · exact List.mem_append_right _ (List.mem_cons_of_mem _ (List.mem_cons_of_mem _ (hused hf)))
  · have hhead : (blockOf (exportPieces (plans.flatMap CommandPlan.names)) []).head.naming = _ := naming_exports _
    refine ⟨?_, trivial⟩
    rw [Block.ClosedIn, hhead]
    exact ⟨nofun, nofun⟩

/-! ## What is imported -/

/-- The blocks of a module, kind by kind. -/
inductive IsBlock (plans : List CommandPlan) : Block → Prop
  | imported {pieces : List Piece} {names : List String} (hfree : word "import" ∉ pieces.filterMap Piece.token?)
    (hnames : names ⊆ ["annotations", "Sequence", "dataclass"]) :
    IsBlock plans (blockOf (importPieces pieces names) [])
  | runtime : IsBlock plans (runtimeBlock plans)
  | decorator : IsBlock plans (blockOf decoratorPieces [])
  | record {p : CommandPlan} {name : String} (hp : p ∈ plans) (hname : p.optionName? = some name) :
    IsBlock plans (recordBlock name p)
  | builder {p : CommandPlan} (hp : p ∈ plans) : IsBlock plans (builderBlock p)
  | exports (names : List String) : IsBlock plans (blockOf (exportPieces names) [])

theorem mem_importBlocks {b : Block} (hb : b ∈ importBlocks plans) : b = runtimeBlock plans ∨
    ∃ pieces names, b = blockOf (importPieces pieces names) [] ∧ word "import" ∉ pieces.filterMap Piece.token? ∧
      names ⊆ ["annotations", "Sequence", "dataclass"] := by
  rw [importBlocks, List.mem_append, List.mem_append] at hb
  rcases hb with (hb | hb) | hb
  · simp only [List.mem_cons, List.not_mem_nil, or_false] at hb
    rcases hb with rfl | rfl
    · exact .inr ⟨_, _, rfl, by decide, by decide⟩
    · exact .inr ⟨_, _, rfl, by decide, by decide⟩
  · split at hb
    · cases hb
    · obtain rfl := List.mem_singleton.mp hb
      exact .inr ⟨_, _, rfl, by decide, by decide⟩
  · exact .inl (List.mem_singleton.mp hb)

theorem isBlock_of_mem {b : Block} (hb : b ∈ blocks plans) : IsBlock plans b := by
  rcases List.mem_append.mp hb with hb | hb
  · rcases mem_importBlocks hb with rfl | ⟨pieces, names, rfl, hfree, hnames⟩
    · exact .runtime
    · exact .imported hfree hnames
  rcases List.mem_append.mp hb with hb | hb
  · obtain ⟨p, hp, hb⟩ := List.mem_flatMap.mp hb
    rcases List.mem_append.mp hb with hb | hb
    · cases hname : p.optionName? with
      | none =>
        rw [hname] at hb
        cases hb
      | some name =>
        rw [hname] at hb
        simp only [List.mem_cons, List.not_mem_nil, or_false] at hb
        rcases hb with rfl | rfl
        · exact .decorator
        · exact .record hp hname
    · obtain rfl := List.mem_singleton.mp hb
      exact .builder hp
  · obtain rfl := List.mem_singleton.mp hb
    exact .exports _

theorem recordBlock_mem {p : CommandPlan} {name : String} (hp : p ∈ plans) (hname : p.optionName? = some name) :
    recordBlock name p ∈ blocks plans := by
  refine List.mem_append_right _ (List.mem_append_left _ (List.mem_flatMap.mpr ⟨p, hp, List.mem_append_left _ ?_⟩))
  rw [hname]
  exact List.mem_cons_of_mem _ (List.mem_singleton_self _)

/-- **The classes of a module** are the blocks of the records of its commands. -/
theorem isRecord_iff {b : Block} (hb : b ∈ blocks plans) :
    b.isRecord = true ↔ ∃ p ∈ plans, ∃ name, p.optionName? = some name ∧ b = recordBlock name p := by
  constructor
  · intro hrecord
    cases isBlock_of_mem hb with
    | record hp hname => exact ⟨_, hp, _, hname, rfl⟩
    | _ => cases hrecord
  · rintro ⟨p, -, name, -, rfl⟩
    rfl

/-- The lines in the body of a class: its description, and a line for every field. -/
theorem mem_body_recordBlock {p : CommandPlan} {name : String} {l : Line} :
    l ∈ (recordBlock name p).body ↔
      l = lineOf 4 [.docstring (p.recordType name).doc] ∨ ∃ f ∈ p.fields, l = lineOf 4 (fieldPieces f) := by
  have hbody : (recordBlock name p).body =
      lineOf 4 [.docstring (p.recordType name).doc] :: (p.fields.map fieldPieces).map (lineOf 4) := rfl
  rw [hbody, List.mem_cons, List.map_map, List.mem_map]
  simp only [Function.comp_apply, eq_comm]

theorem exists_optionName {p : CommandPlan} {f : Field} (hf : f ∈ p.fields) : ∃ name, p.optionName? = some name :=
  ⟨_, optionName?_of_mem hf⟩

/-- **The helpers that are imported** are those that the body of some class calls. -/
theorem mem_usedHelpers_iff_called {h : String} : h ∈ usedHelpers plans ↔
    ∃ b ∈ blocks plans, b.isRecord = true ∧ ∃ l ∈ b.body, l.called? = some h := by
  rw [mem_usedHelpers]
  constructor
  · rintro ⟨p, hp, f, hf, rfl⟩
    obtain ⟨name, hname⟩ := exists_optionName hf
    exact ⟨_, recordBlock_mem hp hname, rfl, _, mem_body_recordBlock.mpr (.inr ⟨f, hf, rfl⟩), called_field f⟩
  · rintro ⟨b, hb, hrecord, l, hl, hcalled⟩
    obtain ⟨p, hp, name, -, rfl⟩ := (isRecord_iff hb).mp hrecord
    rcases mem_body_recordBlock.mp hl with rfl | ⟨f, hf, rfl⟩
    · cases hcalled
    · exact ⟨p, hp, f, hf, Option.some.inj ((called_field f).symm.trans hcalled)⟩

theorem nodup_usedHelpers (plans : List CommandPlan) : (usedHelpers plans).Nodup :=
  List.Nodup.filter _ (by decide)

/-- Classes are there exactly if helpers are used. -/
theorem any_isRecord (plans : List CommandPlan) :
    (blocks plans).any Block.isRecord = !(usedHelpers plans).isEmpty := by
  rw [Bool.eq_iff_iff, List.any_eq_true, Bool.not_eq_true', List.isEmpty_eq_false_iff_exists_mem]
  constructor
  · rintro ⟨b, hb, hrecord⟩
    obtain ⟨p, hp, name, hname, rfl⟩ := (isRecord_iff hb).mp hrecord
    obtain ⟨f, hf⟩ := List.exists_mem_of_ne_nil _ (fields_ne_nil hname)
    exact ⟨_, mem_usedHelpers.mpr ⟨p, hp, f, hf, rfl⟩⟩
  · rintro ⟨h, hh⟩
    obtain ⟨b, hb, hrecord, -⟩ := mem_usedHelpers_iff_called.mp hh
    exact ⟨b, hb, hrecord⟩

/-- An import brings its names from its source. -/
theorem head_importPieces {pieces : List Piece} {source : String} {names : List String}
    (hsource : dotted? (pieces.filterMap Piece.token?) = some source)
    (hfree : word "import" ∉ pieces.filterMap Piece.token?) (hne : names ≠ []) :
    (blockOf (importPieces pieces names) []).head.import? = some (source, names) := by
  change Line.import? (lineOf 0 (importPieces pieces names)) = _
  rw [Line.import?, statement?_import hsource hfree hne]

theorem import?_runtimeBlock (plans : List CommandPlan) :
    (runtimeBlock plans).head.import? = some (defaultRuntime, "Command" :: "build_command" :: usedHelpers plans) :=
  head_importPieces rfl (by decide) (List.cons_ne_nil _ _)

theorem filterMap_importBlocks (plans : List CommandPlan) :
    (importBlocks plans).filterMap (·.head.import?) = imports plans := by
  have hlast : [runtimeBlock plans].filterMap (·.head.import?) =
      [(defaultRuntime, "Command" :: "build_command" :: usedHelpers plans)] := by
    rw [List.filterMap_cons, import?_runtimeBlock, List.filterMap_nil]
  rw [importBlocks, imports, List.filterMap_append, List.filterMap_append, hlast]
  cases (usedHelpers plans).isEmpty <;> rfl

/-- A command imports nothing. -/
theorem import?_commandBlocks {p : CommandPlan} (hp : p.Sound) {b : Block} (hb : b ∈ commandBlocks p) :
    b.head.import? = none := by
  rcases List.mem_append.mp hb with hb | hb
  · cases hname : p.optionName? with
    | none =>
      rw [hname] at hb
      cases hb
    | some name =>
      have hmem : name ∈ p.names := by
        rw [CommandPlan.names, hname]
        exact List.mem_cons_self ..
      rw [hname] at hb
      simp only [List.mem_cons, List.not_mem_nil, or_false] at hb
      rcases hb with rfl | rfl
      · rfl
      · change Line.import? (lineOf 0 (recordPieces name)) = none
        rw [Line.import?, statement?_record (isName_of_mem_names hp hmem)]
  · obtain rfl := List.mem_singleton.mp hb
    have hmem : p.builderName ∈ p.names := CommandPlan.mem_names.mpr (.inr rfl)
    change Line.import? (lineOf 0 (headPieces false p.builderName p.optionName?)) = none
    rw [Line.import?, statement?_head (isName_of_mem_names hp hmem)]

theorem import?_exports (names : List String) : (blockOf (exportPieces names) []).head.import? = none := by
  change Line.import? (lineOf 0 (exportPieces names)) = none
  rw [Line.import?, statement?_exports]

/-- **What a module imports.** -/
theorem imports_blocks (hsound : ∀ p ∈ plans, p.Sound) :
    (blocks plans).filterMap (·.head.import?) = imports plans := by
  have hbehind : ∀ b ∈ plans.flatMap commandBlocks ++ [blockOf (exportPieces (plans.flatMap CommandPlan.names)) []],
      b.head.import? = none := by
    intro b hb
    rcases List.mem_append.mp hb with hb | hb
    · obtain ⟨p, hp, hb⟩ := List.mem_flatMap.mp hb
      exact import?_commandBlocks (hsound p hp) hb
    · obtain rfl := List.mem_singleton.mp hb
      exact import?_exports _
  rw [blocks, List.filterMap_append, filterMap_importBlocks, List.filterMap_eq_nil_iff.mpr hbehind, List.append_nil]

/-! ## What fields call -/

/-- A name that ends in a suffix is known as no helper. -/
theorem known_ne_helper (base : String) {suffix h : String} (hascii : ∀ c ∈ suffix.toList, c.toNat < 128)
    (hfree : ¬ suffix.toList <:+ h.toList) : Attribute.known (base ++ suffix) ≠ h := by
  rintro rfl
  refine hfree ?_
  rw [Attribute.known_append _ hascii, String.toList_append]
  exact List.suffix_append ..

theorem known_helper : ∀ h ∈ Name.helpers, Attribute.known h = h := by
  decide +kernel

theorem knows_iff {l : Line} {h : String} (hh : h ∈ Name.helpers) :
    l.knows h = true ↔ ∃ a ∈ l.naming.binds, Attribute.known a = h := by
  rw [Line.knows, List.contains_iff_mem, known_helper h hh, List.mem_map]

/-- **Nothing but the import binds a helper** at the level of the module. -/
theorem eq_runtimeBlock_of_knows {b : Block} (hb : b ∈ blocks plans) {h : String} (hh : h ∈ Name.helpers)
    (hknows : b.head.knows h = true) : b = runtimeBlock plans := by
  obtain ⟨a, ha, hknown⟩ := (knows_iff hh).mp hknows
  have hsuffixes : ∀ h ∈ Name.helpers, ¬ Name.optionSuffix.toList <:+ h.toList ∧
      ¬ Name.builderSuffix.toList <:+ h.toList := by
    decide +kernel
  cases isBlock_of_mem hb with
  | @imported pieces names hfree hnames =>
    have hhead : (blockOf (importPieces pieces names) []).head.naming = _ := naming_import hfree
    rw [hhead] at ha
    have hfixed : ∀ n ∈ ["annotations", "Sequence", "dataclass"], Attribute.known n ∉ Name.helpers := by
      decide +kernel
    exact absurd hh (hknown ▸ hfixed a (hnames ha))
  | runtime => rfl
  | decorator => cases ha
  | @record p name _ hname =>
    have hhead : (recordBlock name p).head.naming = _ := naming_record name
    rw [hhead] at ha
    obtain rfl := List.mem_singleton.mp ha
    rw [CommandPlan.optionName?] at hname
    split at hname
    · cases hname
    · obtain rfl := Option.some.inj hname
      exact absurd hknown (known_ne_helper p.base (by decide) (hsuffixes h hh).1)
  | @builder p _ =>
    have hhead : (builderBlock p).head.naming = _ := naming_head p.builderName p.optionName?
    rw [hhead] at ha
    obtain rfl := List.mem_singleton.mp ha
    exact absurd hknown (known_ne_helper p.base (by decide) (hsuffixes h hh).2)
  | exports names =>
    have hhead : (blockOf (exportPieces names) []).head.naming = _ := naming_exports names
    rw [hhead] at ha
    obtain rfl := List.mem_singleton.mp ha
    have hall : Attribute.known "__all__" ∉ Name.helpers := by decide +kernel
    exact absurd hh (hknown ▸ hall)

/-- The imports stand before every class. -/
theorem runtimeBlock_mem_before {before after : List Block} {b : Block} (hsplit : blocks plans = before ++ b :: after)
    (hrecord : b.isRecord = true) : runtimeBlock plans ∈ before := by
  have hruntime : runtimeBlock plans ∈ importBlocks plans := List.mem_append_right _ (List.mem_singleton_self _)
  rcases List.append_eq_append_iff.mp hsplit with ⟨between, rfl, -⟩ | ⟨between, himports, hrest⟩
  · exact List.mem_append_left _ hruntime
  · cases between with
    | nil => rwa [himports, List.append_nil] at hruntime
    | cons c between =>
      -- the class would be one of the imports
      obtain ⟨rfl, -⟩ := List.cons.inj hrest
      have hmem : b ∈ importBlocks plans := by
        rw [himports]
        exact List.mem_append_right _ (List.mem_cons_self ..)
      rcases mem_importBlocks hmem with rfl | ⟨pieces, names, rfl, -⟩
      · cases hrecord
      · cases hrecord

theorem import?_body_recordBlock {p : CommandPlan} (hp : p.Sound) {name : String} {l : Line}
    (hl : l ∈ (recordBlock name p).body) : l.import? = none := by
  rcases mem_body_recordBlock.mp hl with rfl | ⟨f, hf, rfl⟩
  · rfl
  · rw [Line.import?, statement?_field (Name.field?_spec (hp.fields f hf)).2.2.1]
    split_ifs <;> rfl

/-- The import of the runtime binds every helper that is used. -/
theorem knows_runtimeBlock {h : String} (hused : h ∈ usedHelpers plans) :
    (runtimeBlock plans).head.knows h = true := by
  have hhelper : h ∈ Name.helpers := List.mem_of_mem_filter hused
  have hhead : (runtimeBlock plans).head.naming = { binds := "Command" :: "build_command" :: usedHelpers plans } :=
    naming_import (by decide)
  rw [knows_iff hhelper, hhead]
  exact ⟨h, List.mem_cons_of_mem _ (List.mem_cons_of_mem _ hused), known_helper h hhelper⟩

/-- The last that binds a used helper before a class is the import of the runtime. -/
theorem find?_before {before after : List Block} {b : Block} (hsplit : blocks plans = before ++ b :: after)
    (hrecord : b.isRecord = true) {h : String} (hused : h ∈ usedHelpers plans) :
    (before.map Block.head).reverse.find? (·.knows h) = some (runtimeBlock plans).head := by
  have hruntime : (runtimeBlock plans).head ∈ (before.map Block.head).reverse :=
    List.mem_reverse.mpr (List.mem_map_of_mem (runtimeBlock_mem_before hsplit hrecord))
  cases hlast : (before.map Block.head).reverse.find? (·.knows h) with
  | none => exact absurd (knows_runtimeBlock hused) (List.find?_eq_none.mp hlast _ hruntime)
  | some line =>
    obtain ⟨c, hc, rfl⟩ := List.mem_map.mp (List.mem_reverse.mp (List.mem_of_find?_eq_some hlast))
    have hmem : c ∈ blocks plans := hsplit ▸ List.mem_append_left _ hc
    rw [eq_runtimeBlock_of_knows hmem (List.mem_of_mem_filter hused) (List.find?_some hlast)]

/-- **What a field calls**: the helper that is imported, exactly if no line above in its class binds a name that is
known as the helper. -/
theorem found_iff (hsound : ∀ p ∈ plans, p.Sound) {before after : List Block} {b : Block}
    (hsplit : blocks plans = before ++ b :: after) (hrecord : b.isRecord = true) {above below : List Line} {l : Line}
    (hbody : b.body = above ++ l :: below) {h : String} (hcalled : l.called? = some h) :
    (∃ line names, found before above h = some line ∧ line.import? = some (defaultRuntime, names)) ↔
      ∀ m ∈ above, ∀ a ∈ m.naming.binds, Attribute.known a ≠ h := by
  have hb : b ∈ blocks plans := hsplit ▸ List.mem_append_right _ (List.mem_cons_self ..)
  have hl : l ∈ b.body := hbody ▸ List.mem_append_right _ (List.mem_cons_self ..)
  have hused : h ∈ usedHelpers plans := mem_usedHelpers_iff_called.mpr ⟨b, hb, hrecord, l, hl, hcalled⟩
  have hhelper : h ∈ Name.helpers := List.mem_of_mem_filter hused
  rw [found]
  cases hfind : above.reverse.find? (·.knows h) with
  | some m =>
    -- a line of the class is found first, and no such line is an import
    have hm : m ∈ above := List.mem_reverse.mp (List.mem_of_find?_eq_some hfind)
    obtain ⟨a, ha, hknown⟩ := (knows_iff hhelper).mp (List.find?_some hfind)
    obtain ⟨p, hp, name, -, rfl⟩ := (isRecord_iff hb).mp hrecord
    have hnone := import?_body_recordBlock (hsound p hp) (hbody ▸ List.mem_append_left _ hm)
    constructor
    · rintro ⟨line, names, hline, himport⟩
      obtain rfl := Option.some.inj hline
      cases hnone.symm.trans himport
    · intro hfree
      exact absurd hknown (hfree m hm a ha)
  | none =>
    have hfree : ∀ m ∈ above, ∀ a ∈ m.naming.binds, Attribute.known a ≠ h := by
      intro m hm a ha hknown
      exact List.find?_eq_none.mp hfind m (List.mem_reverse.mpr hm) ((knows_iff hhelper).mpr ⟨a, ha, hknown⟩)
    exact iff_of_true ⟨_, _, find?_before hsplit hrecord hused, import?_runtimeBlock plans⟩ hfree

/-- What follows the docstring is read as the blocks; a null character, which only comments hold, is taken for another
character. -/
theorem lines_behind (hsound : ∀ p ∈ plans, p.Sound) :
    lines? ((ended ("" :: importLines defaultRuntime plans ++ bodyLines plans)).map withoutNull) =
      some ((blocks plans).flatMap Block.lines) := by
  have hreads := (Reads.empty.append (reads_importLines plans)).withoutNulls.append (reads_body hsound)
  rw [← List.map_append] at hreads
  rw [map_ended, lines_blocks]
  exact hreads.lines_eq

end ModuleText

namespace CommandGraph

open Source

/-- The first command that is planned is the root. -/
theorem program_of_plan {g : CommandGraph} {exclude : List String} {plans : List CommandPlan}
    (hplan : g.plan exclude = .ok plans) {p : CommandPlan} (hp : p ∈ plans) : p.program = g.name := by
  obtain ⟨v, -, -, -, hpath⟩ := plan_visit hplan hp
  rw [CommandPlan.program, hpath]
  rfl

/-- **Generated modules are closed.**  A module begins with its docstring, and what follows is read as the blocks of
its plans, in which every name that is evaluated has a value.  The imports are those that are used: the decorator if
there is a class, and each helper once that some field calls.  No attribute of a class is spelled like a helper.  A field
calls the helper that is imported exactly if no attribute above it in its class is known, in normal form, under the name
of the helper. -/
theorem module_closed_iff (g : CommandGraph) (exclude : List String) (doc : Option String) (plans : List CommandPlan)
    (text : String) (hplan : g.plan exclude = .ok plans) (htext : g.generate { doc, exclude } = .ok text) :
    let blocks := ModuleText.blocks plans
    (∃ behind, text.toList = (Text.tripleQuoted (ModuleText.docText doc g.name)).toList ++ '\n' :: behind ∧
      lines? (behind.map withoutNull) = some (blocks.flatMap Block.lines)) ∧
    ClosedFrom [] blocks ∧
    (∃ helpers, helpers.Nodup ∧
      (∀ h, h ∈ helpers ↔ ∃ b ∈ blocks, b.isRecord = true ∧ ∃ l ∈ b.body, l.called? = some h) ∧
      blocks.filterMap (·.head.import?) = [("__future__", ["annotations"]), ("collections.abc", ["Sequence"])] ++
        (if blocks.any Block.isRecord then [("dataclasses", ["dataclass"])] else []) ++
        [(ModuleText.defaultRuntime, "Command" :: "build_command" :: helpers)]) ∧
    ∀ before b after, blocks = before ++ b :: after → b.isRecord = true →
      (∀ l ∈ b.body, ∀ a ∈ l.naming.binds, a ∉ Name.helpers) ∧
      ∀ above l below h, b.body = above ++ l :: below → l.called? = some h →
        ((∃ line names, found before above h = some line ∧
          line.import? = some (ModuleText.defaultRuntime, names)) ↔
          ∀ m ∈ above, ∀ a ∈ m.naming.binds, Attribute.known a ≠ h) := by
  intro blocks
  have hsound : ∀ p ∈ plans, p.Sound := fun p hp => sound_of_plan hplan hp
  refine ⟨?_, ModuleText.closedFrom_blocks hsound,
    ⟨_, ModuleText.nodup_usedHelpers plans, fun h => ModuleText.mem_usedHelpers_iff_called, ?_⟩,
    fun before b after hsplit hrecord => ⟨?_, fun above l below h hbody hcalled =>
      ModuleText.found_iff hsound hsplit hrecord hbody hcalled⟩⟩
  · rw [generate, hplan] at htext
    cases plans with
    | nil => cases htext
    | cons first rest =>
      cases htext
      refine ⟨_, ?_, ModuleText.lines_behind hsound⟩
      rw [ModuleText.toList_moduleLines, program_of_plan hplan (List.mem_cons_self ..)]
      simp [ModuleText.ended]
  · rw [ModuleText.imports_blocks hsound, ModuleText.any_isRecord, ModuleText.imports]
    cases (ModuleText.usedHelpers plans).isEmpty <;> rfl
  · intro l hl a ha
    have hb : b ∈ blocks := hsplit ▸ List.mem_append_right _ (List.mem_cons_self ..)
    obtain ⟨p, hp, name, -, rfl⟩ := (ModuleText.isRecord_iff hb).mp hrecord
    rcases ModuleText.mem_body_recordBlock.mp hl with rfl | ⟨f, hf, rfl⟩
    · cases ha
    · have hspec := Name.field?_spec ((hsound p hp).fields f hf)
      rw [naming_field hspec.2.2.1] at ha
      obtain rfl := List.mem_singleton.mp ha
      exact hspec.2.2.2

/-- The field of `--env` calls the helper that is imported. -/
theorem module_closed_env : (ofFlag "env").plan [] = .ok [planOfFlag "env"] ∧
    ∃ text, (ofFlag "env").generate {} = .ok text ∧ ClosedFrom [] (ModuleText.blocks [planOfFlag "env"]) ∧
      ∃ before after above l line names,
        ModuleText.blocks [planOfFlag "env"] =
          before ++ ModuleText.recordBlock "ToolOption" (planOfFlag "env") :: after ∧
        (ModuleText.recordBlock "ToolOption" (planOfFlag "env")).body = above ++ [l] ∧ l.called? = some "list_flag" ∧
        found before above "list_flag" = some line ∧ line.import? = some (ModuleText.defaultRuntime, names) := by
  have hplan : (ofFlag "env").plan [] = .ok [planOfFlag "env"] := by decide +kernel
  have htext : (ofFlag "env").generate {} = .ok (ModuleText.joinLines
      (ModuleText.moduleLines ModuleText.defaultRuntime none (planOfFlag "env") [])) := by
    rw [generate, hplan]
    rfl
  obtain ⟨-, hclosed, -, hclasses⟩ := module_closed_iff (ofFlag "env") [] none _ _ hplan htext
  let above : List Line := [ModuleText.lineOf 4 [.docstring ((planOfFlag "env").recordType "ToolOption").doc]]
  let last : Line := ModuleText.lineOf 4 (ModuleText.fieldPieces (planOfFlag "env").fields.head!)
  have hblocks : ModuleText.blocks [planOfFlag "env"] = (ModuleText.importBlocks [planOfFlag "env"] ++
      [ModuleText.blockOf ModuleText.decoratorPieces []]) ++ ModuleText.recordBlock "ToolOption" (planOfFlag "env") ::
        [ModuleText.builderBlock (planOfFlag "env"),
          ModuleText.blockOf (ModuleText.exportPieces ["ToolOption", "ToolCmd"]) []] := rfl
  have hbody : (ModuleText.recordBlock "ToolOption" (planOfFlag "env")).body = above ++ [last] := rfl
  have hcalled : last.called? = some "list_flag" := rfl
  have hcalls := (hclasses _ _ _ hblocks rfl).2 above last [] "list_flag" hbody hcalled
  obtain ⟨line, names, hline, himport⟩ := hcalls.mpr fun m hm a ha => by
    obtain rfl := List.mem_singleton.mp hm
    cases ha
  exact ⟨hplan, _, htext, hclosed, _, _, above, last, line, names, hblocks, hbody, hcalled, hline, himport⟩

end CommandGraph

end CommandWrap
