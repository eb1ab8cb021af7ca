import CommandWrap.Proofs.ModuleLines

/-!
# A generated module as it is read

The logical lines of a generated module are statements, and the statements make up the module that
`ModuleText.source` describes (`module?_eq_source`): a type of records and a builder for every command, with
the strings as code units and the attributes in their spelling.  Where an attribute is no target of an
assignment or a comment holds a null character, nothing is read (`module?_eq_none`).
-/
namespace CommandWrap

open Source

/-! ## What the statements say -/

/-- The declaration of a planned field as it is read. -/
def Field.source (f : Field) : SourceField :=
  { attr := f.attr, type := f.type, shape := f.shape, flag := unitsOf f.flag.name }

namespace CommandPlan

variable (p : CommandPlan)

/-- The builder of a command as it is read. -/
def builderDefinition : Definition :=
  .builder p.builderName p.optionName? (codesOf p.builder.doc) (unitsOf p.program) (p.route.map unitsOf)

/-- The definitions of a command as they are read. -/
def definitions : List Definition :=
  match p.optionName? with
  | some name =>
    [.record name (codesOf (p.recordType name).doc) (p.fields.map Field.source), p.builderDefinition]
  | none => [p.builderDefinition]

/-- The statements of a builder. -/
def builderStatements : List Statement :=
  [.builder p.builderName p.optionName?, .innerDoc (codesOf p.builder.doc),
    .call (unitsOf p.program) (p.route.map unitsOf) p.optionName?.isSome]

/-- The statements of a command. -/
def statements : List Statement :=
  match p.optionName? with
  | some name =>
    [.decorator, .record name, .innerDoc (codesOf (p.recordType name).doc)] ++
      p.fields.map (.field ∘ Field.source) ++ p.builderStatements
  | none => p.builderStatements

/-- Every attribute of the command can be given a value. -/
def Assignable : Prop :=
  ∀ f ∈ p.fields, isTarget f.attr.toList = true

end CommandPlan

namespace ModuleText

/-- The imports of a module as they are read. -/
def imports (plans : List CommandPlan) : List (String × List String) :=
  let helpers := usedHelpers plans
  [("__future__", ["annotations"]), ("collections.abc", ["Sequence"])] ++
    (if helpers.isEmpty then [] else [("dataclasses", ["dataclass"])]) ++
    [(defaultRuntime, "Command" :: "build_command" :: helpers)]

/-- **A generated module as it is read.** -/
def source (first : CommandPlan) (rest : List CommandPlan) : ModuleSource :=
  let plans := first :: rest
  { doc := codesOf (defaultDoc first.program)
    imports := imports plans
    definitions := plans.flatMap CommandPlan.definitions
    exports := (plans.flatMap CommandPlan.names).map unitsOf }

/-- The statements of a module. -/
def statements (first : CommandPlan) (rest : List CommandPlan) : List Statement :=
  let plans := first :: rest
  .doc (codesOf (defaultDoc first.program)) ::
    (imports plans).map (fun i => .imported i.1 i.2) ++ plans.flatMap CommandPlan.statements ++
    [.exports ((plans.flatMap CommandPlan.names).map unitsOf)]

/-! ## Lines are statements -/

theorem cutAt_append {stop : Token} {before : List Token} (h : stop ∉ before) (after : List Token) :
    cutAt stop (before ++ stop :: after) = some (before, after) := by
  induction before with
  | nil => rw [List.nil_append, cutAt, if_pos rfl]
  | cons t before ih =>
    rw [List.mem_cons, not_or] at h
    rw [List.cons_append, cutAt, if_neg (Ne.symm h.1), ih h.2]
    rfl

theorem statement?_decorator : statement? (lineOf 0 decoratorPieces) = some .decorator := by
  rfl

theorem statement?_record {name : String} (h : isName name.toList = true) :
    statement? (lineOf 0 (recordPieces name)) = some (.record name) := by
  have hrecord : record? [.name name.toList, .mark ':'] = some (.record name) := by
    rw [record?, if_pos h, String.ofList_toList]
  exact hrecord

theorem tokens_annotationPieces (t : FieldType) :
    (annotationPieces t).filterMap Piece.token? = annotationTokens t := by
  cases t <;> rfl

theorem annotated?_annotationTokens (t : FieldType) : annotated? (annotationTokens t) = some t := by
  cases t with
  | scalar t => cases t <;> rfl
  | list => rfl
  | map => rfl

theorem helperShape?_helper (f : Field) : helperShape? f.helper.toList = some f.shape := by
  have hshape : ∀ s : Shape, helperShape? (helperOf s).toList = some s := by
    intro s
    cases s <;> decide
  rw [Field.shape, ← hshape, Field.helper, FieldType.helper]
  cases f.type <;> rfl

theorem tokens_fieldPieces (f : Field) :
    (fieldPieces f).filterMap Piece.token? =
      (.name f.attr.toList :: .mark ':' :: annotationTokens f.type) ++ .mark '=' ::
        [.name f.helper.toList, .mark '(', .text (unitsOf f.flag.name), .mark ')'] := by
  rw [← tokens_annotationPieces]
  change _ :: _ :: List.filterMap Piece.token? (annotationPieces f.type ++ _) = _
  rw [List.filterMap_append]
  rfl

/-- The sign in front of the helper is the first of its kind. -/
theorem cutAt_fieldPieces (f : Field) :
    cutAt (.mark '=') ((fieldPieces f).filterMap Piece.token?) =
      some (.name f.attr.toList :: .mark ':' :: annotationTokens f.type,
        [.name f.helper.toList, .mark '(', .text (unitsOf f.flag.name), .mark ')']) := by
  have hfree : Token.mark '=' ∉ (.name f.attr.toList :: .mark ':' :: annotationTokens f.type) := by
    cases f.type <;> simp [annotationTokens, word]
  rw [tokens_fieldPieces, cutAt_append hfree]

/-- **A field** is read if its attribute can be given a value. -/
theorem statement?_field {f : Field} (hattr : f.attr ∉ Name.keywords) :
    statement? (lineOf 4 (fieldPieces f)) =
      if isTarget f.attr.toList = true then some (.field f.source) else none := by
  have hfield : field? ((fieldPieces f).filterMap Piece.token?) =
      if isTarget f.attr.toList = true then some (.field f.source) else none := by
    rw [field?, cutAt_fieldPieces]
    simp only [Option.bind_eq_bind, Option.bind_some, annotated?_annotationTokens, helperShape?_helper,
      String.ofList_toList]
    rfl
  have hreturn : Token.name f.attr.toList ≠ word "return" := by
    intro h
    have : f.attr = "return" := String.toList_inj.mp (Token.name.inj h)
    exact hattr (this ▸ by decide)
  rw [lineOf, ← hfield, tokens_fieldPieces]
  exact if_neg hreturn

/-- Names between commas are read as they are written. -/
theorem names?_separated {names : List String} (hne : names ≠ []) :
    names? ((Piece.separated (names.map .word)).filterMap Piece.token?) = some names := by
  induction names with
  | nil => exact absurd rfl hne
  | cons name rest ih =>
    cases rest with
    | nil =>
      change some [String.ofList name.toList] = _
      rw [String.ofList_toList]
    | cons second rest =>
      have hrest := ih (List.cons_ne_nil _ _)
      change (names? ((Piece.separated ((second :: rest).map .word)).filterMap Piece.token?)).map
        (String.ofList name.toList :: ·) = _
      rw [hrest, String.ofList_toList]
      rfl

theorem tokens_importPieces (pieces : List Piece) (names : List String) :
    (importPieces pieces names).filterMap Piece.token? =
      word "from" :: (pieces.filterMap Piece.token? ++ word "import" ::
        (Piece.separated (names.map .word)).filterMap Piece.token?) := by
  change word "from" :: List.filterMap Piece.token? (pieces ++ _) = _
  rw [List.filterMap_append]
  rfl

/-- **An import** is read as its source and its names. -/
theorem statement?_import {pieces : List Piece} {source : String} {names : List String}
    (hsource : dotted? (pieces.filterMap Piece.token?) = some source)
    (hfree : word "import" ∉ pieces.filterMap Piece.token?) (hne : names ≠ []) :
    statement? (lineOf 0 (importPieces pieces names)) = some (.imported source names) := by
  have himport : imported? (pieces.filterMap Piece.token? ++ word "import" ::
      (Piece.separated (names.map .word)).filterMap Piece.token?) = some (.imported source names) := by
    rw [imported?, cutAt_append hfree]
    simp only [Option.bind_eq_bind, Option.bind_some, hsource, names?_separated hne]
    rfl
  rw [lineOf, tokens_importPieces]
  exact himport

/-- The tokens of the head of a builder. -/
theorem tokens_headPieces (name : String) (record? : Option String) :
    (headPieces false name record?).filterMap Piece.token? =
      word "def" :: .name name.toList :: .mark '(' ::
        (match record? with
          | some type => [word "opt", .mark ':', .name type.toList, .mark '|', word "None", .mark '=',
              word "None", .mark ','] ++ argsParameter
          | none => argsParameter) := by
  cases record? <;> rfl

/-- **The head of a builder** is read with the type of its records. -/
theorem statement?_head {name : String} (h : isName name.toList = true) (record? : Option String) :
    statement? (lineOf 0 (headPieces false name record?)) = some (.builder name record?) := by
  have hparameters (tokens : List Token) (hread : parameters? tokens = some record?) :
      builder? (.name name.toList :: .mark '(' :: tokens) = some (.builder name record?) := by
    rw [builder?, if_pos h, hread, String.ofList_toList]
    rfl
  rw [lineOf, tokens_headPieces]
  cases record? with
  | none => exact hparameters _ (if_pos rfl)
  | some type =>
    refine hparameters _ ?_
    have hne : [word "opt", .mark ':', .name type.toList, .mark '|', word "None", .mark '=', word "None",
        .mark ','] ++ argsParameter ≠ argsParameter := by
      simp [argsParameter, word]
    simp only [parameters?, List.cons_append, and_self, if_true, String.ofList_toList]
    exact if_neg hne

theorem texts?_separated (words : List String) :
    texts? ((Piece.separated (words.map .literal)).filterMap Piece.token?) =
      some (words.map unitsOf) := by
  induction words with
  | nil => rfl
  | cons w rest ih =>
    cases rest with
    | nil => rfl
    | cons v rest =>
      change (texts? ((Piece.separated ((v :: rest).map .literal)).filterMap Piece.token?)).map
        (unitsOf w :: ·) = _
      rw [ih]
      rfl

/-- The words of a route are read as their code units. -/
theorem tuple?_routePieces (route : List String) :
    tuple? ((routePieces route).filterMap Piece.token?) = some (route.map unitsOf) := by
  match route with
  | [] => rfl
  | [w] => rfl
  | w :: v :: rest =>
    have hwords := texts?_separated (w :: v :: rest)
    rw [routePieces, if_neg (by simp), List.append_nil]
    exact hwords

theorem not_mem_routePieces (route : List String) :
    Token.mark ')' ∉ (routePieces route).filterMap Piece.token? := by
  intro h
  obtain ⟨p, hp, htoken⟩ := List.mem_filterMap.mp h
  rcases List.mem_append.mp hp with hp | hp
  · rcases Piece.mem_separated hp with hp | rfl | rfl
    · obtain ⟨w, -, rfl⟩ := List.mem_map.mp hp
      cases htoken
    · cases htoken
    · cases htoken
  · split at hp
    · obtain rfl := List.mem_singleton.mp hp
      cases htoken
    · cases hp

theorem statement?_return (tokens : List Token) :
    statement? ⟨4, word "return" :: tokens⟩ = call? tokens := by
  cases tokens <;> rfl

theorem tokens_callPieces (program : String) (route : List String) (record? : Option String) :
    (callPieces program route record?).filterMap Piece.token? =
      word "return" :: word "build_command" :: .mark '(' :: .text (unitsOf program) :: .mark ',' ::
        .mark '(' :: ((routePieces route).filterMap Piece.token? ++ .mark ')' ::
          [.mark ',', word (if record?.isSome then "opt" else "None"), .mark ',', word "args",
            .mark ')']) := by
  change word "return" :: word "build_command" :: .mark '(' :: .text (unitsOf program) :: .mark ',' ::
    .mark '(' :: List.filterMap Piece.token? (routePieces route ++ _) = _
  rw [List.filterMap_append]
  rfl

/-- **The call of a builder** is read with the code units of its program and its route. -/
theorem statement?_call (program : String) (route : List String) (record? : Option String) :
    statement? (lineOf 4 (callPieces program route record?)) =
      some (.call (unitsOf program) (route.map unitsOf) record?.isSome) := by
  have hcall : call? (word "build_command" :: .mark '(' :: .text (unitsOf program) :: .mark ',' ::
      .mark '(' :: ((routePieces route).filterMap Piece.token? ++ .mark ')' ::
        [.mark ',', word (if record?.isSome then "opt" else "None"), .mark ',', word "args",
          .mark ')'])) = some (.call (unitsOf program) (route.map unitsOf) record?.isSome) := by
    rw [call?, cutAt_append (not_mem_routePieces route)]
    simp only [Option.bind_eq_bind, Option.bind_some, tuple?_routePieces]
    cases record? with
    | none => rfl
    | some type =>
      simp only [Option.isSome_some, if_true]
      rfl
  rw [lineOf, tokens_callPieces, statement?_return]
  exact hcall

theorem tokens_itemPieces (names : List String) :
    (names.flatMap itemPieces).filterMap Piece.token? =
      names.flatMap fun name => [.text (unitsOf name), .mark ','] := by
  rw [List.filterMap_flatMap]
  rfl

theorem tokens_exportPieces (names : List String) :
    (exportPieces names).filterMap Piece.token? =
      word "__all__" :: .mark '=' :: .mark '[' ::
        ((names.flatMap fun name => [.text (unitsOf name), .mark ',']) ++ .mark ']' :: []) := by
  rw [← tokens_itemPieces]
  change word "__all__" :: .mark '=' :: .mark '[' ::
    List.filterMap Piece.token? (names.flatMap itemPieces ++ _) = _
  rw [List.filterMap_append]
  rfl

/-- **The list of exported names** is read as their code units. -/
theorem statement?_exports (names : List String) :
    statement? (lineOf 0 (exportPieces names)) = some (.exports (names.map unitsOf)) := by
  have hfree : Token.mark ']' ∉ names.flatMap fun name => [.text (unitsOf name), .mark ','] := by
    simp
  have htexts (names : List String) :
      texts? (names.flatMap fun name => [.text (unitsOf name), .mark ',']) =
        some (names.map unitsOf) := by
    induction names with
    | nil => rfl
    | cons name rest ih =>
      change (texts? (rest.flatMap fun name => [.text (unitsOf name), .mark ','])).map
        (unitsOf name :: ·) = _
      rw [ih]
      rfl
  have hexports : exports? (.mark '=' :: .mark '[' ::
      ((names.flatMap fun name => [.text (unitsOf name), .mark ',']) ++ .mark ']' :: [])) =
        some (.exports (names.map unitsOf)) := by
    rw [exports?, cutAt_append hfree]
    simp only [Option.bind_eq_bind, Option.bind_some, htexts]
    rfl
  rw [lineOf, tokens_exportPieces]
  exact hexports

end ModuleText

/-! ## Statements of a module -/

namespace Source

theorem statements?_append {lines lines' : List Line} {statements statements' : List Statement}
    (h : statements? lines = some statements) (h' : statements? lines' = some statements') :
    statements? (lines ++ lines') = some (statements ++ statements') := by
  rw [statements?] at h h' ⊢
  rw [List.mapM_append, h, h']
  rfl

theorem statements?_flatMap {α : Type} {f : α → List Line} {g : α → List Statement} {xs : List α}
    (h : ∀ x ∈ xs, statements? (f x) = some (g x)) :
    statements? (xs.flatMap f) = some (xs.flatMap g) := by
  induction xs with
  | nil => rfl
  | cons x xs ih =>
    rw [List.forall_mem_cons] at h
    rw [List.flatMap_cons, List.flatMap_cons]
    exact statements?_append h.1 (ih h.2)

theorem statements?_map {α : Type} {f : α → Line} {g : α → Statement} {xs : List α}
    (h : ∀ x ∈ xs, statement? (f x) = some (g x)) : statements? (xs.map f) = some (xs.map g) := by
  rw [List.map_eq_flatMap, List.map_eq_flatMap]
  refine statements?_flatMap fun x hx => ?_
  rw [statements?, List.mapM_cons, h x hx]
  rfl

theorem statements?_cons {line : Line} {lines : List Line} {statement : Statement}
    {statements : List Statement} (h : statement? line = some statement)
    (h' : statements? lines = some statements) :
    statements? (line :: lines) = some (statement :: statements) := by
  rw [statements?] at h' ⊢
  rw [List.mapM_cons, h, h']
  rfl

/-- One line that is no statement spoils the others. -/
theorem statements?_eq_none {line : Line} {lines : List Line} (hmem : line ∈ lines)
    (h : statement? line = none) : statements? lines = none := by
  obtain ⟨before, after, rfl⟩ := List.append_of_mem hmem
  rw [statements?, List.mapM_append, List.mapM_cons, h]
  cases before.mapM statement? <;> rfl

end Source

namespace ModuleText

theorem isName_append {p : CommandPlan} (hp : p.Sound) {suffix : String}
    (hcontinue : suffix.toList.all Unicode.isIdentifierContinue = true)
    (hfree : ∀ w ∈ Name.keywords, ¬ suffix.toList <:+ w.toList) :
    isName (p.base ++ suffix).toList = true := by
  have hkeyword : (p.base ++ suffix) ∉ Name.keywords := Name.append_suffix_not_mem hfree p.base
  rw [isName, Bool.and_eq_true, Bool.not_eq_true', Bool.eq_false_iff, Ne, List.contains_iff_mem,
    String.ofList_toList]
  refine ⟨?_, hkeyword⟩
  rw [String.toList_append]
  exact Name.isIdentifier_append hp.isIdentifier hcontinue

/-- **The names of wrappers** can be defined. -/
theorem isName_of_mem_names {p : CommandPlan} (hp : p.Sound) {name : String} (h : name ∈ p.names) :
    isName name.toList = true := by
  rcases CommandPlan.mem_names.mp h with ⟨-, rfl⟩ | rfl
  · exact isName_append hp (by decide +kernel) (by decide +kernel)
  · exact isName_append hp (by decide +kernel) (by decide +kernel)

theorem statements?_builder {p : CommandPlan} (hp : p.Sound) :
    statements? (builderSource p) = some p.builderStatements :=
  statements?_cons (statement?_head (isName_of_mem_names hp (CommandPlan.mem_names.mpr (.inr rfl))) _)
    (statements?_cons rfl (statements?_cons (statement?_call ..) rfl))

theorem statements?_command {p : CommandPlan} (hp : p.Sound) (hassign : p.Assignable) :
    statements? (commandSource p) = some p.statements := by
  have hbuilder := statements?_builder hp
  rw [commandSource, CommandPlan.statements]
  cases hname : p.optionName? with
  | none => exact hbuilder
  | some name =>
    have hmem : name ∈ p.names := by
      rw [CommandPlan.names, hname]
      exact List.mem_cons_self ..
    have hfields : statements? (p.fields.map fun f => lineOf 4 (fieldPieces f)) =
        some (p.fields.map (.field ∘ Field.source)) := by
      refine statements?_map fun f hf => ?_
      obtain ⟨-, -, hkeyword, -⟩ := Name.field?_spec (hp.fields f hf)
      rw [statement?_field hkeyword, if_pos (hassign f hf)]
      rfl
    have hhead : statements? [lineOf 0 decoratorPieces, lineOf 0 (recordPieces name),
        lineOf 4 [.docstring (p.recordType name).doc]] =
        some [.decorator, .record name, .innerDoc (codesOf (p.recordType name).doc)] :=
      statements?_cons statement?_decorator
        (statements?_cons (statement?_record (isName_of_mem_names hp hmem)) (statements?_cons rfl rfl))
    exact statements?_append (statements?_append hhead hfields) hbuilder

theorem statements?_imports (plans : List CommandPlan) :
    statements? (importSource plans) = some ((imports plans).map fun i => .imported i.1 i.2) := by
  have hfixed : statements? [lineOf 0 (importPieces [.word "__future__"] ["annotations"]),
      lineOf 0 (importPieces [.word "collections", .sign '.', .word "abc"] ["Sequence"])] =
      some [.imported "__future__" ["annotations"], .imported "collections.abc" ["Sequence"]] :=
    statements?_cons (statement?_import rfl (by decide) (by decide))
      (statements?_cons (statement?_import rfl (by decide) (by decide)) rfl)
  have hruntime : statements? [lineOf 0 (importPieces [.word "docker_wrapper", .sign '.', .word "runtime"]
      ("Command" :: "build_command" :: usedHelpers plans))] =
      some [.imported defaultRuntime ("Command" :: "build_command" :: usedHelpers plans)] :=
    statements?_cons (statement?_import rfl (by decide) (List.cons_ne_nil _ _)) rfl
  rw [importSource, imports]
  cases hempty : (usedHelpers plans).isEmpty with
  | true => exact statements?_append hfixed hruntime
  | false =>
    have hdataclass : statements? [lineOf 0 (importPieces [.word "dataclasses"] ["dataclass"])] =
        some [.imported "dataclasses" ["dataclass"]] :=
      statements?_cons (statement?_import rfl (by decide) (by decide)) rfl
    exact statements?_append hfixed (statements?_append hdataclass hruntime)

/-- **The statements of a generated module.** -/
theorem statements?_module {first : CommandPlan} {rest : List CommandPlan}
    (hplans : ∀ p ∈ first :: rest, p.Sound ∧ p.Assignable) :
    statements? (moduleSource first rest) = some (statements first rest) := by
  have hcommands := statements?_flatMap fun p hp =>
    statements?_command (hplans p hp).1 (hplans p hp).2
  exact statements?_append
    (statements?_append (statements?_cons rfl (statements?_imports _)) hcommands)
    (statements?_cons (statement?_exports _) rfl)

end ModuleText

/-! ## The module that statements make up -/

namespace Source.Draft

variable {d : Draft}

/-- Between two definitions, with nothing exported so far. -/
structure Open (d : Draft) : Prop where
  current : d.current = .nothing
  exports : d.exports? = none

theorem foldlM_step {statement : Statement} {d' : Draft} (h : d.add statement = some d')
    (rest : List Statement) : (statement :: rest).foldlM add d = rest.foldlM add d' := by
  rw [List.foldlM_cons, h]
  rfl

theorem foldlM_run {first : List Statement} {d' : Draft} (h : first.foldlM add d = some d')
    (rest : List Statement) : (first ++ rest).foldlM add d = rest.foldlM add d' := by
  rw [List.foldlM_append, h]
  rfl

theorem foldlM_fields (hexports : d.exports? = none) {name : String} {doc : List Nat}
    {fields : List SourceField} (hcurrent : d.current = .fields name doc fields)
    (more : List SourceField) :
    (more.map Statement.field).foldlM add d =
      some { d with current := .fields name doc (more.reverse ++ fields) } := by
  induction more generalizing d fields with
  | nil =>
    rw [List.reverse_nil, List.nil_append, ← hcurrent]
    rfl
  | cons f more ih =>
    have hadd : d.add (.field f) = some { d with current := .fields name doc (f :: fields) } := by
      simp [add, hexports, hcurrent]
    have hrest := ih (d := { d with current := .fields name doc (f :: fields) }) hexports rfl
    rw [List.map_cons, foldlM_step hadd, hrest, List.reverse_cons, List.append_assoc]
    rfl

/-- The head and the fields of a type of records, which is open behind them. -/
theorem foldlM_record (hopen : d.Open) (name : String) (doc : List Nat) (fields : List SourceField) :
    ([.decorator, .record name, .innerDoc doc] ++ fields.map Statement.field : List Statement).foldlM add d =
      some { d with current := .fields name doc fields.reverse } := by
  have hexports := hopen.exports
  have hdecorator : d.add .decorator = some { d with current := .decorated } := by
    simp [add, hexports, close, hopen.current]
  have hrecord : add { d with current := .decorated } (.record name) =
      some { d with current := .record name } := by
    simp [add, hexports]
  have hdoc : add { d with current := .record name } (.innerDoc doc) =
      some { d with current := .fields name doc [] } := by
    simp [add, hexports]
  have hfields := foldlM_fields (d := { d with current := .fields name doc [] }) hexports rfl fields
  rw [List.append_nil] at hfields
  rw [List.cons_append, List.cons_append, List.cons_append, List.nil_append, foldlM_step hdecorator,
    foldlM_step hrecord, foldlM_step hdoc, hfields]

/-- A builder, behind whatever may be finished by it. -/
theorem foldlM_builder (hexports : d.exports? = none) {closed : Draft} (hclose : d.close = some closed)
    (hclosed : closed.Open) (p : CommandPlan) :
    p.builderStatements.foldlM add d =
      some { closed with definitions := p.builderDefinition :: closed.definitions } := by
  have hhead : d.add (.builder p.builderName p.optionName?) =
      some { closed with current := .builder p.builderName p.optionName? } := by
    simp [add, hexports, hclose]
  have hdoc : add { closed with current := .builder p.builderName p.optionName? }
      (.innerDoc (codesOf p.builder.doc)) =
      some { closed with current := .body p.builderName p.optionName? (codesOf p.builder.doc) } := by
    simp [add, hclosed.exports]
  have hcall : add { closed with current := .body p.builderName p.optionName? (codesOf p.builder.doc) }
      (.call (unitsOf p.program) (p.route.map unitsOf) p.optionName?.isSome) =
      some { closed with
        definitions := p.builderDefinition :: closed.definitions, current := .nothing } := by
    simp [add, hclosed.exports, CommandPlan.builderDefinition]
  rw [CommandPlan.builderStatements, foldlM_step hhead, foldlM_step hdoc, foldlM_step hcall,
    ← hclosed.current]
  rfl

/-- **The statements of a command** add its definitions. -/
theorem foldlM_command (hopen : d.Open) (p : CommandPlan) :
    p.statements.foldlM add d =
      some { d with definitions := p.definitions.reverse ++ d.definitions } := by
  rw [CommandPlan.statements, CommandPlan.definitions]
  cases hname : p.optionName? with
  | none =>
    have hclose : d.close = some d := by
      rw [close, hopen.current]
    exact foldlM_builder hopen.exports hclose hopen p
  | some name =>
    have hrecord := foldlM_record hopen name (codesOf (p.recordType name).doc) (p.fields.map Field.source)
    -- the record ends where the builder begins
    have hclose : close { d with
        current := .fields name (codesOf (p.recordType name).doc) (p.fields.map Field.source).reverse } =
        some { d with
          definitions := .record name (codesOf (p.recordType name).doc) (p.fields.map Field.source) ::
            d.definitions } := by
      simp only [close, List.reverse_reverse, hopen.current]
    have hexports : exports? { d with
        current := .fields name (codesOf (p.recordType name).doc) (p.fields.map Field.source).reverse } =
        none :=
      hopen.exports
    have hbuilder := foldlM_builder hexports hclose ⟨hopen.current, hopen.exports⟩ p
    rw [List.map_map] at hrecord
    dsimp only
    rw [foldlM_run hrecord, hbuilder]
    rfl

theorem foldlM_commands (hopen : d.Open) (plans : List CommandPlan) :
    (plans.flatMap CommandPlan.statements).foldlM add d =
      some { d with definitions := (plans.flatMap CommandPlan.definitions).reverse ++ d.definitions } := by
  induction plans generalizing d with
  | nil => rfl
  | cons p plans ih =>
    have hnext : Open { d with definitions := p.definitions.reverse ++ d.definitions } :=
      ⟨hopen.current, hopen.exports⟩
    rw [List.flatMap_cons, foldlM_run (foldlM_command hopen p), ih hnext, List.flatMap_cons,
      List.reverse_append, List.append_assoc]

theorem foldlM_imports (hopen : d.Open) (imports : List (String × List String)) :
    (imports.map fun i => Statement.imported i.1 i.2).foldlM add d =
      some { d with imports := imports.reverse ++ d.imports } := by
  induction imports generalizing d with
  | nil => rfl
  | cons i imports ih =>
    have hadd : d.add (.imported i.1 i.2) = some { d with imports := i :: d.imports } := by
      simp [add, hopen.exports, hopen.current]
    have hnext : Open { d with imports := i :: d.imports } := ⟨hopen.current, hopen.exports⟩
    rw [List.map_cons, foldlM_step hadd, ih hnext, List.reverse_cons, List.append_assoc]
    rfl

end Source.Draft

namespace ModuleText

theorem assemble?_statements (first : CommandPlan) (rest : List CommandPlan) :
    assemble? (statements first rest) = some (source first rest) := by
  have hdoc : Draft.add {} (.doc (codesOf (defaultDoc first.program))) =
      some { doc? := some (codesOf (defaultDoc first.program)) } := rfl
  have himports := Draft.foldlM_imports
    (d := { doc? := some (codesOf (defaultDoc first.program)) }) ⟨rfl, rfl⟩ (imports (first :: rest))
  have hcommands := Draft.foldlM_commands
    (d := { doc? := some (codesOf (defaultDoc first.program))
            imports := (imports (first :: rest)).reverse ++ [] }) ⟨rfl, rfl⟩ (first :: rest)
  have hexports : Draft.add
      { doc? := some (codesOf (defaultDoc first.program))
        imports := (imports (first :: rest)).reverse ++ []
        definitions := ((first :: rest).flatMap CommandPlan.definitions).reverse ++ [] }
      (.exports (((first :: rest).flatMap CommandPlan.names).map unitsOf)) =
      some
        { doc? := some (codesOf (defaultDoc first.program))
          imports := (imports (first :: rest)).reverse ++ []
          definitions := ((first :: rest).flatMap CommandPlan.definitions).reverse ++ []
          exports? := some (((first :: rest).flatMap CommandPlan.names).map unitsOf) } := rfl
  have hfold : (statements first rest).foldlM Draft.add {} =
      some
        { doc? := some (codesOf (defaultDoc first.program))
          imports := (imports (first :: rest)).reverse ++ []
          definitions := ((first :: rest).flatMap CommandPlan.definitions).reverse ++ []
          exports? := some (((first :: rest).flatMap CommandPlan.names).map unitsOf) } := by
    rw [statements, List.append_assoc, List.cons_append, Draft.foldlM_step hdoc,
      Draft.foldlM_run himports, Draft.foldlM_run hcommands, Draft.foldlM_step hexports]
    rfl
  rw [assemble?, hfold]
  simp [Draft.finish?, source]

/-! ## What can be read -/

end ModuleText

/-- The generated text of a command can be read. -/
def CommandPlan.Readable (p : CommandPlan) : Prop :=
  p.Clean ∧ p.Assignable

namespace ModuleText

/-- **A generated module is read as it is meant**, if its commands can be read. -/
theorem module?_eq_source {first : CommandPlan} {rest : List CommandPlan}
    (hsound : ∀ p ∈ first :: rest, p.Sound) (hread : ∀ p ∈ first :: rest, p.Readable) :
    module? (joinLines (moduleLines defaultRuntime none first rest)) = some (source first rest) := by
  have hlines := lines?_joinLines fun p hp => ⟨hsound p hp, (hread p hp).1⟩
  have hstatements := statements?_module fun p hp => ⟨hsound p hp, (hread p hp).2⟩
  rw [module?, hlines, Option.bind_eq_bind, Option.bind_some, hstatements, Option.bind_eq_bind,
    Option.bind_some, assemble?_statements]

theorem mem_lines {c : Char} {cs : List Char} (hc : c ∈ cs) (hboundary : Text.isLineBoundary c = false) :
    ∃ l ∈ Text.lines cs, c ∈ l := by
  -- by the characters: a boundary ends a line, and any other character extends the first line of the rest
  fun_induction Text.lines cs with
  | case1 => cases hc
  | case2 rest ih =>
    rcases List.mem_cons.mp hc with rfl | hc
    · cases hboundary
    rcases List.mem_cons.mp hc with rfl | hc
    · cases hboundary
    obtain ⟨l, hl, hmem⟩ := ih hc
    exact ⟨l, List.mem_cons_of_mem _ hl, hmem⟩
  | case3 d rest _ hd ih =>
    rcases List.mem_cons.mp hc with rfl | hc
    · rw [hd] at hboundary
      cases hboundary
    obtain ⟨l, hl, hmem⟩ := ih hc
    exact ⟨l, List.mem_cons_of_mem _ hl, hmem⟩
  | case4 d rest _ _ ih =>
    cases hls : Text.lines rest with
    | nil =>
      rcases List.mem_cons.mp hc with rfl | hc
      · exact ⟨[c], List.mem_cons_self .., List.mem_cons_self ..⟩
      · obtain ⟨l, hl, -⟩ := ih hc
        rw [hls] at hl
        cases hl
    | cons first others =>
      rcases List.mem_cons.mp hc with rfl | hc
      · exact ⟨c :: first, List.mem_cons_self .., List.mem_cons_self ..⟩
      · obtain ⟨l, hl, hmem⟩ := ih hc
        rw [hls] at hl
        rcases List.mem_cons.mp hl with rfl | hl
        · exact ⟨d :: l, List.mem_cons_self .., List.mem_cons_of_mem _ hmem⟩
        · exact ⟨l, List.mem_cons_of_mem _ hl, hmem⟩

theorem mem_dropWhile_of_neg {α : Type} {p : α → Bool} {x : α} {xs : List α} (hx : x ∈ xs)
    (hp : p x = false) : x ∈ xs.dropWhile p := by
  induction xs with
  | nil => cases hx
  | cons y ys ih =>
    rw [List.dropWhile_cons]
    split
    · rename_i hy
      rcases List.mem_cons.mp hx with rfl | hx
      · rw [hp] at hy
        cases hy
      · exact ih hx
    · exact hx

/-- A null character in a text is in one of its comment lines. -/
theorem exists_null_comment (indent : String) {text : String} (h : ∃ c ∈ text.toList, c.toNat = 0) :
    ∃ t ∈ comment indent text, ∃ c ∈ t.toList, c.toNat = 0 := by
  obtain ⟨c, hc, hnull⟩ := h
  have hboundary : Text.isLineBoundary c = false := by simp [Text.isLineBoundary, hnull]
  have hblank : Text.isBlank c = false := by simp [Text.isBlank, hnull]
  obtain ⟨line, hline, hmem⟩ := mem_lines hc hboundary
  refine ⟨_, List.mem_map_of_mem hline, c, ?_, hnull⟩
  rw [String.toList_ofList, Text.stripRight, List.mem_reverse]
  refine mem_dropWhile_of_neg ?_ hblank
  simp [hmem]

theorem optionName?_of_mem {p : CommandPlan} {f : Field} (hf : f ∈ p.fields) :
    p.optionName? = some (p.base ++ Name.optionSuffix) := by
  rw [CommandPlan.optionName?, if_neg]
  rw [List.isEmpty_iff]
  exact List.ne_nil_of_mem hf

/-- **Null characters in comments** are in the lines of the command. -/
theorem exists_null_command {p : CommandPlan} (h : ¬ p.Clean) :
    ∃ t ∈ commandLines p, ∃ c ∈ t.toList, c.toNat = 0 := by
  obtain ⟨s, hs, hnull⟩ : ∃ s ∈ p.info.usage :: p.info.short :: p.fields.map (·.flag.help),
      ∃ c ∈ s.toList, c.toNat = 0 := by
    by_contra hnone
    exact h fun s hs c hc hnull => hnone ⟨s, hs, c, hc, hnull⟩
  have hheader {t : String} (ht : t ∈ header p) : t ∈ commandLines p := by
    rw [commandLines]
    exact List.mem_append_left _ (List.mem_append_left _ (List.mem_append_right _ ht))
  rcases List.mem_cons.mp hs with rfl | hs
  · obtain ⟨t, ht, hmem⟩ := exists_null_comment "" hnull
    exact ⟨t, hheader (by simp [header, ht]), hmem⟩
  rcases List.mem_cons.mp hs with rfl | hs
  · obtain ⟨t, ht, hmem⟩ := exists_null_comment "" hnull
    exact ⟨t, hheader (by simp [header, ht]), hmem⟩
  · obtain ⟨f, hf, rfl⟩ := List.mem_map.mp hs
    obtain ⟨t, ht, hmem⟩ := exists_null_comment "    " hnull
    have hfield : t ∈ p.fields.flatMap fieldLines :=
      List.mem_flatMap.mpr ⟨f, hf, by simp [fieldLines, ht]⟩
    have hname := optionName?_of_mem hf
    refine ⟨t, ?_, hmem⟩
    rw [commandLines, hname]
    refine List.mem_append_left _ (List.mem_append_right _ (List.mem_append_left _ ?_))
    exact List.mem_append_right _ hfield

/-- A text with a null character is no module. -/
theorem module?_of_null {texts : List String} (h : ∃ t ∈ texts, ∃ c ∈ t.toList, c.toNat = 0) :
    module? (joinLines texts) = none := by
  obtain ⟨t, ht, c, hc, hnull⟩ := h
  have htext : c ∈ (joinLines texts).toList := by
    rw [toList_joinLines (List.ne_nil_of_mem ht)]
    exact List.mem_flatMap.mpr ⟨t, ht, List.mem_append_left _ hc⟩
  rw [module?, lines?_of_null ⟨c, htext, hnull⟩]
  rfl

/-- The declaration of a field that takes no value is no statement. -/
theorem statements?_of_field {first p : CommandPlan} {rest : List CommandPlan} (hp : p ∈ first :: rest)
    (hsound : p.Sound) {f : Field} (hf : f ∈ p.fields) (htarget : ¬ isTarget f.attr.toList = true) :
    statements? (moduleSource first rest) = none := by
  obtain ⟨-, -, hkeyword, -⟩ := Name.field?_spec (hsound.fields f hf)
  have hfield : statement? (lineOf 4 (fieldPieces f)) = none := by
    rw [statement?_field hkeyword, if_neg htarget]
  have hcommand : lineOf 4 (fieldPieces f) ∈ commandSource p := by
    rw [commandSource, optionName?_of_mem hf]
    exact List.mem_append_left _ (List.mem_append_right _ (List.mem_map_of_mem hf))
  refine statements?_eq_none ?_ hfield
  exact List.mem_append_left _ (List.mem_append_right _ (List.mem_flatMap.mpr ⟨p, hp, hcommand⟩))

/-- **A module cannot be read** if one of its commands cannot. -/
theorem module?_eq_none {first : CommandPlan} {rest : List CommandPlan}
    (hsound : ∀ p ∈ first :: rest, p.Sound) (hread : ¬ ∀ p ∈ first :: rest, p.Readable) :
    module? (joinLines (moduleLines defaultRuntime none first rest)) = none := by
  by_cases hclean : ∀ p ∈ first :: rest, p.Clean
  · -- the text has its lines, but the declaration of some field is no statement
    obtain ⟨p, hp, f, hf, htarget⟩ : ∃ p ∈ first :: rest, ∃ f ∈ p.fields, ¬ isTarget f.attr.toList = true := by
      by_contra hnone
      refine hread fun p hp => ⟨hclean p hp, fun f hf => ?_⟩
      by_contra htarget
      exact hnone ⟨p, hp, f, hf, htarget⟩
    have hlines := lines?_joinLines fun p hp => ⟨hsound p hp, hclean p hp⟩
    rw [module?, hlines, Option.bind_eq_bind, Option.bind_some,
      statements?_of_field hp (hsound p hp) hf htarget]
    rfl
  · obtain ⟨p, hp, hp'⟩ : ∃ p ∈ first :: rest, ¬ p.Clean := by
      by_contra hnone
      refine hclean fun p hp => ?_
      by_contra hp'
      exact hnone ⟨p, hp, hp'⟩
    obtain ⟨t, ht, hnull⟩ := exists_null_command hp'
    refine module?_of_null ⟨t, ?_, hnull⟩
    exact List.mem_append_left _ (List.mem_append_right _ (List.mem_flatMap.mpr ⟨p, hp, ht⟩))

end ModuleText

end CommandWrap
