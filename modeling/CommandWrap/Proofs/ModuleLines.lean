import CommandWrap.Proofs.NameCharacters

/-!
# The lines of a generated module

Every logical line of a generated module is spelled by pieces: the declaration of a field, the head of a
builder on one line or on three, its call, the list of exported names.  Comments and empty lines are not
read.  So the whole text of planned commands is read as the lines that `lines` lists
(`reads_moduleLines`), provided that no usage, description or help holds a null character.
-/
namespace CommandWrap

open Source (Piece Line Token Reads Legible Plain isNameChar)

/-! ## Plans and their characters -/

/-- **What is known of every planned command**: its path makes the identifier that it is named by, and its
fields are those of flags. -/
structure CommandPlan.Sound (p : CommandPlan) : Prop where
  base : Name.base? p.path = some p.base
  fields : ∀ f ∈ p.fields, Name.field? f.flag.name = some f.attr

/-- Comments can be read as such: no text that is written as a comment holds a null character. -/
def CommandPlan.Clean (p : CommandPlan) : Prop :=
  ∀ s ∈ p.info.usage :: p.info.short :: p.fields.map (·.flag.help), ∀ c ∈ s.toList, c.toNat ≠ 0

theorem CommandGraph.sound_of_plan {g : CommandGraph} {exclude : List String} {plans : List CommandPlan}
    (h : g.plan exclude = .ok plans) {p : CommandPlan} (hp : p ∈ plans) : p.Sound := by
  obtain ⟨v, -, hplan, -, -⟩ := plan_visit h hp
  exact ⟨hplan.path ▸ hplan.base, fun f hf => hplan.fields.field?_name hf⟩

/-- A word that is read as one name. -/
def IsNameWord (s : String) : Prop :=
  s.toList ≠ [] ∧ ∀ c ∈ s.toList, isNameChar c = true

instance (s : String) : Decidable (IsNameWord s) :=
  inferInstanceAs (Decidable (_ ∧ _))

theorem IsNameWord.append {s t : String} (hs : IsNameWord s) (ht : ∀ c ∈ t.toList, isNameChar c = true) :
    IsNameWord (s ++ t) := by
  rw [IsNameWord, String.toList_append, List.forall_mem_append]
  refine ⟨?_, hs.2, ht⟩
  exact fun h => hs.1 (List.append_eq_nil_iff.mp h).1

namespace CommandPlan.Sound

variable {p : CommandPlan} (h : p.Sound)
include h

theorem isIdentifier : Unicode.isIdentifier p.base.toList = true := by
  obtain ⟨hbase, hword⟩ := Name.base?_eq_some h.base
  rw [hbase, String.toList_ofList]
  exact hword

theorem isNameWord_base : IsNameWord p.base :=
  Unicode.isIdentifier_spec h.isIdentifier

theorem isNameWord_builderName : IsNameWord p.builderName :=
  h.isNameWord_base.append (by decide)

theorem isNameWord_attr {f : Field} (hf : f ∈ p.fields) : IsNameWord f.attr := by
  obtain ⟨hne, hname, -, -⟩ := Name.field?_spec (h.fields f hf)
  exact ⟨hne, hname⟩

theorem isTitleChar {element : String} (helement : element ∈ p.path) :
    ∀ c ∈ element.toList, IsTitleChar c :=
  isTitleChar_of_path (Name.base?_eq_some h.base).2 helement

theorem isTitleChar_title : ∀ c ∈ p.title.toList, IsTitleChar c :=
  isTitleChar_pathTitle fun _ helement => h.isTitleChar helement

theorem isTitleChar_program : ∀ c ∈ p.program.toList, IsTitleChar c := by
  cases hpath : p.path with
  | nil => simp [program, hpath]
  | cons first rest =>
    have hfirst : first ∈ p.path := by simp [hpath]
    rw [program, hpath]
    exact h.isTitleChar hfirst

end CommandPlan.Sound

/-! ## Pieces of a line -/

namespace Source.Piece

theorem depth?_word {s : String} (h : IsNameWord s) (depth : Nat) :
    (word s).depth? depth = some depth :=
  if_pos h

theorem depth?_sign {c : Char} (h : c ∈ signs) (depth : Nat) : (sign c).depth? depth = some depth :=
  if_pos h

/-- Pieces outside of brackets leave the brackets as they are. -/
theorem foldlM_depth? {ps : List Piece} {depth : Nat} (h : ∀ p ∈ ps, p.depth? depth = some depth) :
    ps.foldlM depth? depth = some depth := by
  induction ps with
  | nil => rfl
  | cons p ps ih =>
    rw [List.forall_mem_cons] at h
    rw [List.foldlM_cons, h.1]
    exact ih h.2

/-- Pieces with a comma and a space between them. -/
def separated : List Piece → List Piece
  | [] => []
  | [p] => [p]
  | p :: q :: rest => p :: .sign ',' :: .space :: separated (q :: rest)

theorem spelling_separated (words : List String) {f : String → String} {piece : String → Piece}
    (hf : ∀ w, (piece w).spelling = (f w).toList) :
    (separated (words.map piece)).flatMap spelling = (String.intercalate ", " (words.map f)).toList := by
  induction words with
  | nil => rfl
  | cons w rest ih =>
    cases rest with
    | nil => simp [separated, hf]
    | cons v rest =>
      rw [List.map_cons, List.map_cons] at ih ⊢
      rw [List.map_cons, List.map_cons, separated, String.intercalate_cons_cons, String.toList_append,
        String.toList_append, List.flatMap_cons, List.flatMap_cons, List.flatMap_cons, ih, hf]
      simp [spelling]

theorem mem_separated {p : Piece} {ps : List Piece} (h : p ∈ separated ps) :
    p ∈ ps ∨ p = .sign ',' ∨ p = .space := by
  fun_induction separated ps with
  | case1 => cases h
  | case2 q => exact .inl h
  | case3 q r rest ih =>
    rcases List.mem_cons.mp h with rfl | h
    · exact .inl (List.mem_cons_self ..)
    rcases List.mem_cons.mp h with rfl | h
    · exact .inr (.inl rfl)
    rcases List.mem_cons.mp h with rfl | h
    · exact .inr (.inr rfl)
    rcases ih h with h | h
    · exact .inl (List.mem_cons_of_mem _ h)
    · exact .inr h

@[simp] theorem joins_sign (p : Piece) (c : Char) : p.joins (.sign c) = true := by
  cases p <;> rfl

theorem joins_space (p : Piece) : p.joins .space = true := by
  cases p <;> rfl

@[simp] theorem isChain_sign (c : Char) (ps : List Piece) :
    (sign c :: ps).IsChain (joins · · = true) ↔ ps.IsChain (joins · · = true) :=
  ⟨List.IsChain.tail, fun h => h.cons fun _ _ => rfl⟩

@[simp] theorem isChain_space (ps : List Piece) :
    (space :: ps).IsChain (joins · · = true) ↔ ps.IsChain (joins · · = true) :=
  ⟨List.IsChain.tail, fun h => h.cons fun _ _ => rfl⟩

theorem isChain_separated (ps : List Piece) : (separated ps).IsChain (joins · · = true) := by
  fun_induction separated ps with
  | case1 => exact .nil
  | case2 p => exact .singleton p
  | case3 p q rest ih =>
    rw [List.isChain_cons_cons, isChain_sign, isChain_space]
    exact ⟨joins_sign .., ih⟩

end Source.Piece

namespace ModuleText

/-! ## Comments -/

theorem reads_of_comments {texts : List String} (h : ∀ t ∈ texts, Reads [t] []) : Reads texts [] := by
  induction texts with
  | nil => exact .nil
  | cons t texts ih =>
    rw [List.forall_mem_cons] at h
    exact h.1.append (ih h.2)

theorem mem_of_mem_lines {cs l : List Char} (hl : l ∈ Text.lines cs) {c : Char} (hc : c ∈ l) :
    c ∈ cs := by
  fun_induction Text.lines cs generalizing l with
  | case1 => cases hl
  | case2 rest ih =>
    rcases List.mem_cons.mp hl with rfl | hl
    · cases hc
    · exact List.mem_cons_of_mem _ (List.mem_cons_of_mem _ (ih hl hc))
  | case3 d rest _ _ ih =>
    rcases List.mem_cons.mp hl with rfl | hl
    · cases hc
    · exact List.mem_cons_of_mem _ (ih hl hc)
  | case4 d rest _ _ ih =>
    cases hls : Text.lines rest with
    | nil =>
      rw [hls, Text.extendLine, List.mem_singleton] at hl
      rw [hl, List.mem_singleton] at hc
      exact hc ▸ List.mem_cons_self ..
    | cons first others =>
      rw [hls, Text.extendLine] at hl
      rcases List.mem_cons.mp hl with rfl | hl
      · rcases List.mem_cons.mp hc with rfl | hc
        · exact List.mem_cons_self ..
        · exact List.mem_cons_of_mem _ (ih (hls ▸ List.mem_cons_self ..) hc)
      · exact List.mem_cons_of_mem _ (ih (hls ▸ List.mem_cons_of_mem _ hl) hc)

/-- The blanks at the end go, and nothing else. -/
theorem stripRight_append {c : Char} (hc : Text.isBlank c = false) (before after : List Char) :
    ∃ kept, Text.stripRight (before ++ c :: after) = before ++ c :: kept ∧ ∀ d ∈ kept, d ∈ after := by
  refine ⟨(after.reverse.dropWhile Text.isBlank).reverse, ?_, ?_⟩
  · rw [Text.stripRight, List.reverse_append, List.reverse_cons, List.append_assoc, List.dropWhile_append]
    split
    · rename_i hempty
      rw [List.isEmpty_iff] at hempty
      rw [hempty, List.singleton_append, List.dropWhile_cons_of_neg (by simp [hc])]
      simp
    · simp
  · intro d hd
    rw [List.mem_reverse] at hd
    exact List.mem_reverse.mp ((List.dropWhile_sublist _).subset hd)

/-- **Comments are not read.** -/
theorem reads_comment (indent : Nat) {text : String} (h : ∀ c ∈ text.toList, c.toNat ≠ 0) :
    Reads (comment (String.ofList (List.replicate indent ' ')) text) [] := by
  refine reads_of_comments fun t ht => ?_
  obtain ⟨line, hline, rfl⟩ := List.mem_map.mp ht
  obtain ⟨kept, hstrip, hkept⟩ := stripRight_append (c := '#') (by decide)
    (List.replicate indent ' ') (' ' :: line)
  have htext : (String.ofList (Text.stripRight ((String.ofList (List.replicate indent ' ')).toList ++
      '#' :: ' ' :: line))).toList = List.replicate indent ' ' ++ '#' :: kept := by
    rw [String.toList_ofList, String.toList_ofList, hstrip]
  refine Reads.comment htext fun c hc => ?_
  rcases List.mem_cons.mp (hkept c hc) with rfl | hc
  · decide
  · have hboundary := Text.not_isLineBoundary_of_mem_lines _ _ hline c hc
    refine ⟨⟨h c (mem_of_mem_lines hline hc), ?_⟩, ?_⟩
    all_goals
      rintro rfl
      cases hboundary

/-! ## Logical lines -/

/-- The line that pieces spell. -/
def lineOf (indent : Nat) (ps : List Piece) : Line :=
  ⟨indent, ps.filterMap Piece.token?⟩

theorem reads_line {text : String} {indent : Nat} {p : Piece} {ps : List Piece}
    (htext : text.toList = List.replicate indent ' ' ++ (p :: ps).flatMap Piece.spelling)
    (hjoin : (p :: ps).IsChain (Piece.joins · · = true))
    (hdepth : (p :: ps).foldlM Piece.depth? 0 = some 0) (htoken : p.token? ≠ none) :
    Reads [text] [lineOf indent (p :: ps)] := by
  refine Reads.pieces ?_ hjoin hdepth htoken
  rw [List.flatMap_singleton, htext, List.append_assoc]

/-- A description is one line. -/
theorem reads_docstring (indent : Nat) {s : String} (hs : ∀ c ∈ s.toList, Plain c) :
    Reads [String.ofList (List.replicate indent ' ') ++ Text.tripleQuoted s]
      [lineOf indent [.docstring s]] := by
  refine reads_line ?_ (.singleton _) ?_ (by simp [Piece.token?])
  · simp [Text.tripleQuoted, Piece.spelling]
  · rw [List.foldlM_cons, Piece.depth?, if_pos hs]
    rfl

/-- The annotation of a field. -/
def annotationPieces : FieldType → List Piece
  | .scalar t => [.word t.typeName, .space, .sign '|', .space, .word "None"]
  | .list =>
    [.word "list", .sign '[', .word "str", .sign ']', .space, .sign '|', .space, .word "None"]
  | .map =>
    [.word "dict", .sign '[', .word "str", .sign ',', .space, .word "str", .sign ']', .space, .sign '|',
      .space, .word "None"]

/-- The declaration of a field. -/
def fieldPieces (f : Field) : List Piece :=
  .word f.attr :: .sign ':' :: .space :: (annotationPieces f.type ++
    [.space, .sign '=', .space, .word f.helper, .sign '(', .literal f.flag.name, .sign ')'])

theorem spelling_annotationPieces (t : FieldType) :
    (annotationPieces t).flatMap Piece.spelling = t.annotation.toList := by
  cases t with
  | scalar t => simp [annotationPieces, FieldType.annotation, Piece.spelling, Piece.word]
  | list => rfl
  | map => rfl

theorem depth?_annotationPieces (t : FieldType) (depth : Nat) :
    (annotationPieces t).foldlM Piece.depth? depth = some depth := by
  cases t with
  | scalar t => cases t <;> rfl
  | list => rfl
  | map => rfl

theorem isNameWord_of_mem_helpers : ∀ name ∈ Name.helpers, IsNameWord name := by
  decide

/-- The declaration of a field is one line. -/
theorem reads_field {f : Field} (hattr : IsNameWord f.attr) :
    Reads ["    " ++ f.attr ++ ": " ++ f.annotation ++ " = " ++ f.helper ++ "(" ++
      Text.asciiLiteral f.flag.name ++ ")"] [lineOf 4 (fieldPieces f)] := by
  have hhelper : IsNameWord f.helper := isNameWord_of_mem_helpers _ f.type.helper_mem_helpers
  refine reads_line ?_ ?_ ?_ ?_
  · simp only [List.flatMap_cons, List.flatMap_append, spelling_annotationPieces, String.toList_append]
    simp [Piece.spelling, Piece.word, Text.asciiLiteral, Field.annotation]
  · generalize f.type = t
    cases t <;> simp [annotationPieces, Piece.joins, Piece.word]
  · simp only [List.foldlM_cons, List.foldlM_append, Piece.depth?_word hattr, depth?_annotationPieces,
      Piece.depth?_word hhelper, Option.bind_eq_bind, Option.bind_some]
    rfl
  · simp [Piece.word, Piece.token?]

theorem reads_fieldLines {f : Field} (hattr : IsNameWord f.attr)
    (hhelp : ∀ c ∈ f.flag.help.toList, c.toNat ≠ 0) :
    Reads (fieldLines f) [lineOf 4 (fieldPieces f)] :=
  (Reads.empty.append (reads_comment 4 hhelp)).append (reads_field hattr)

/-- The head of a type of records. -/
def recordPieces (name : String) : List Piece :=
  [.word "class", .space, .word name, .sign ':']

/-- The call that makes a type of records of a class. -/
def decoratorPieces : List Piece :=
  [.sign '@', .word "dataclass", .sign '(', .word "kw_only", .sign '=', .word "True", .sign ')']

/-- The lines of a type of records. -/
def recordSource (name : String) (p : CommandPlan) : List Line :=
  [lineOf 0 decoratorPieces, lineOf 0 (recordPieces name),
    lineOf 4 [.docstring (p.recordType name).doc]] ++
    p.fields.map fun f => lineOf 4 (fieldPieces f)

theorem reads_decorator : Reads ["@dataclass(kw_only=True)"] [lineOf 0 decoratorPieces] := by
  refine reads_line rfl ?_ rfl ?_
  · simp [Piece.joins, Piece.word]
  · simp [Piece.token?]

theorem reads_record {name : String} (hname : IsNameWord name) :
    Reads ["class " ++ name ++ ":"] [lineOf 0 (recordPieces name)] := by
  refine reads_line ?_ ?_ ?_ ?_
  · simp [Piece.spelling, Piece.word]
  · simp [Piece.joins, Piece.word]
  · simp only [List.foldlM_cons, Piece.depth?_word hname, Option.bind_eq_bind]
    rfl
  · simp [Piece.word, Piece.token?]

/-- The positional parameters, which end the head of every builder. -/
def argsPieces : List Piece :=
  [.word "args", .sign ':', .space, .word "Sequence", .sign '[', .word "str", .sign ']', .space,
    .sign '=', .space, .sign '(', .sign ')']

/-- The parameters of a builder. -/
def parameterPieces (record? : Option String) : List Piece :=
  match record? with
  | some name =>
    [.word "opt", .sign ':', .space, .word name, .space, .sign '|', .space, .word "None", .space, .sign '=',
      .space, .word "None", .sign ',', .space] ++ argsPieces
  | none => argsPieces

/-- The head of a builder, on one line or on three. -/
def headPieces (broken : Bool) (name : String) (record? : Option String) : List Piece :=
  [.word "def", .space, .word name, .sign '('] ++
    (if broken then [.lineEnd, .space, .space, .space, .space] else []) ++ parameterPieces record? ++
    (if broken then [.lineEnd] else []) ++
    [.sign ')', .space, .sign '-', .sign '>', .space, .word "Command", .sign ':']

/-- The words between program and options. -/
def routePieces (route : List String) : List Piece :=
  Piece.separated (route.map .literal) ++ if route.length == 1 then [.sign ','] else []

/-- The call of a builder. -/
def callPieces (program : String) (route : List String) (record? : Option String) : List Piece :=
  .word "return" :: .space :: .word "build_command" :: .sign '(' :: .literal program :: .sign ',' ::
    .space :: .sign '(' :: (routePieces route ++
      [.sign ')', .sign ',', .space, .word (if record?.isSome then "opt" else "None"), .sign ',', .space,
        .word "args", .sign ')'])

/-- The lines of a builder. -/
def builderSource (p : CommandPlan) : List Line :=
  [lineOf 0 (headPieces false p.builderName p.optionName?), lineOf 4 [.docstring p.builder.doc],
    lineOf 4 (callPieces p.program p.route p.optionName?)]

theorem depth?_parameterPieces {record? : Option String} (h : ∀ name ∈ record?, IsNameWord name)
    (depth : Nat) : (parameterPieces record?).foldlM Piece.depth? depth = some depth := by
  cases record? with
  | none => rfl
  | some name =>
    have hname := h name rfl
    have hargs : argsPieces.foldlM Piece.depth? depth = some depth := rfl
    simp only [parameterPieces, List.foldlM_append, List.foldlM_cons, Piece.depth?_word hname,
      Option.bind_eq_bind]
    exact hargs

theorem spelling_parameterPieces (p : CommandPlan) :
    (parameterPieces p.optionName?).flatMap Piece.spelling = (parameters p).toList := by
  cases hname : p.optionName? with
  | none =>
    rw [parameters, hname]
    rfl
  | some name =>
    rw [parameters, hname]
    simp [parameterPieces, argsPieces, Piece.spelling, Piece.word]

theorem isChain_headPieces (broken : Bool) (name : String) (record? : Option String) :
    (headPieces broken name record?).IsChain (Piece.joins · · = true) := by
  cases broken <;> cases record? <;>
    simp [headPieces, parameterPieces, argsPieces, Piece.joins, Piece.word]

theorem depth?_headPieces (broken : Bool) {name : String} (hname : IsNameWord name)
    {record? : Option String} (h : ∀ name ∈ record?, IsNameWord name) :
    (headPieces broken name record?).foldlM Piece.depth? 0 = some 0 := by
  cases broken <;>
    simp only [headPieces, List.foldlM_append, List.foldlM_cons, Piece.depth?_word hname,
      depth?_parameterPieces h, Option.bind_eq_bind]
  · rfl
  · rfl

/-- The head is the same line however it is broken. -/
theorem lineOf_headPieces (broken : Bool) (name : String) (record? : Option String) :
    lineOf 0 (headPieces broken name record?) = lineOf 0 (headPieces false name record?) := by
  cases broken with
  | false => rfl
  | true =>
    simp only [lineOf, headPieces, List.filterMap_append]
    rfl

/-- **The head of a builder** is one line, wherever the text breaks it. -/
theorem reads_signature {p : CommandPlan} (hname : IsNameWord p.builderName)
    (h : ∀ name ∈ p.optionName?, IsNameWord name) :
    Reads (signature p) [lineOf 0 (headPieces false p.builderName p.optionName?)] := by
  -- line ends in brackets are no tokens, so both ways to write the head are one line
  have hread (broken : Bool) {texts : List String}
      (htext : texts.flatMap (fun t => t.toList ++ ['\n']) =
        (headPieces broken p.builderName p.optionName?).flatMap Piece.spelling ++ ['\n']) :
      Reads texts [lineOf 0 (headPieces false p.builderName p.optionName?)] := by
    rw [← lineOf_headPieces broken]
    exact Reads.pieces htext (isChain_headPieces ..) (depth?_headPieces broken hname h)
      (by simp [Piece.word, Piece.token?])
  rw [signature]
  split
  · refine hread true ?_
    simp only [headPieces, List.flatMap_append, spelling_parameterPieces]
    simp [Piece.spelling, Piece.word]
  · refine hread false ?_
    simp only [headPieces, List.flatMap_append, spelling_parameterPieces]
    simp [Piece.spelling, Piece.word]

theorem spelling_routePieces (route : List String) :
    (routePieces route).flatMap Piece.spelling = (routeText route).toList := by
  have hliteral (w : String) : (Piece.literal w).spelling = (Text.asciiLiteral w).toList := by
    simp [Piece.spelling, Text.asciiLiteral]
  have hwords := Piece.spelling_separated route hliteral
  rw [routePieces, routeText, List.flatMap_append, hwords]
  split
  · simp [Piece.spelling]
  · simp

theorem depth?_routePieces (route : List String) (depth : Nat) :
    (routePieces route).foldlM Piece.depth? depth = some depth := by
  have hcomma : Piece.depth? depth (.sign ',') = some depth := Piece.depth?_sign (by decide) depth
  refine Piece.foldlM_depth? fun p hp => ?_
  rcases List.mem_append.mp hp with hp | hp
  · rcases Piece.mem_separated hp with hp | rfl | rfl
    · obtain ⟨w, -, rfl⟩ := List.mem_map.mp hp
      rfl
    · exact hcomma
    · rfl
  · split at hp
    · obtain rfl := List.mem_singleton.mp hp
      exact hcomma
    · cases hp

theorem isChain_routePieces (route : List String) :
    (routePieces route).IsChain (Piece.joins · · = true) := by
  refine (Piece.isChain_separated _).append ?_ ?_
  · split <;> simp
  · intro p _ q hq
    split at hq
    · exact Option.some.inj hq ▸ Piece.joins_sign ..
    · cases hq

theorem reads_call (p : CommandPlan) :
    Reads ["    return build_command(" ++ Text.asciiLiteral p.program ++ ", (" ++ routeText p.route ++
        "), " ++ (if p.optionName?.isSome then "opt" else "None") ++ ", args)"]
      [lineOf 4 (callPieces p.program p.route p.optionName?)] := by
  refine reads_line ?_ ?_ ?_ ?_
  · simp only [List.flatMap_cons, List.flatMap_append, spelling_routePieces, String.toList_append]
    cases p.optionName? <;> simp [Piece.spelling, Piece.word, Text.asciiLiteral]
  · simp only [Piece.isChain_sign, List.isChain_cons_cons]
    refine ⟨rfl, rfl, rfl, rfl, rfl, rfl, rfl, ?_⟩
    refine (isChain_routePieces p.route).append ?_ ?_
    · cases p.optionName? <;> simp [Piece.joins, Piece.word]
    · exact fun _ _ _ hq => Option.some.inj hq ▸ Piece.joins_sign ..
  · have hopt : IsNameWord (if p.optionName?.isSome then "opt" else "None") := by
      split <;> decide
    simp only [List.foldlM_cons, List.foldlM_append, depth?_routePieces, Piece.depth?_word hopt,
      Option.bind_eq_bind]
    rfl
  · simp [Piece.word, Piece.token?]

/-- The lines of a command. -/
def commandSource (p : CommandPlan) : List Line :=
  (match p.optionName? with
    | some name => recordSource name p
    | none => []) ++ builderSource p

/-- An import. -/
def importPieces (source : List Piece) (names : List String) : List Piece :=
  .word "from" :: .space :: (source ++ .space :: .word "import" :: .space ::
    Piece.separated (names.map .word))

/-- The lines of the imports. -/
def importSource (plans : List CommandPlan) : List Line :=
  let helpers := usedHelpers plans
  [lineOf 0 (importPieces [.word "__future__"] ["annotations"]),
    lineOf 0 (importPieces [.word "collections", .sign '.', .word "abc"] ["Sequence"])] ++
    (if helpers.isEmpty then [] else [lineOf 0 (importPieces [.word "dataclasses"] ["dataclass"])]) ++
    [lineOf 0 (importPieces [.word "docker_wrapper", .sign '.', .word "runtime"]
      ("Command" :: "build_command" :: helpers))]

/-- An exported name. -/
def itemPieces (name : String) : List Piece :=
  [.space, .space, .space, .space, .literal name, .sign ',', .lineEnd]

/-- The list of exported names. -/
def exportPieces (names : List String) : List Piece :=
  .word "__all__" :: .space :: .sign '=' :: .space :: .sign '[' :: .lineEnd ::
    (names.flatMap itemPieces ++ [.sign ']'])

/-- The lines of the whole module. -/
def moduleSource (first : CommandPlan) (rest : List CommandPlan) : List Line :=
  let plans := first :: rest
  lineOf 0 [.docstring (defaultDoc first.program)] :: importSource plans ++ plans.flatMap commandSource ++
    [lineOf 0 (exportPieces (plans.flatMap CommandPlan.names))]

theorem reads_remark {text : String} {cs : List Char} (htext : text.toList = '#' :: cs)
    (hcs : ∀ c ∈ cs, Plain c) : Reads [text] [] := by
  have hindent : text.toList = List.replicate 0 ' ' ++ '#' :: cs := htext
  exact Reads.comment hindent fun c hc => ⟨(hcs c hc).1, (hcs c hc).2.2⟩

theorem reads_rule : Reads ["# " ++ rule] [] :=
  reads_remark rfl (by decide +kernel : ∀ c ∈ (' ' :: rule.toList), Plain c)

/-- The first comment of a command gives its builder and its title. -/
theorem reads_headline {p : CommandPlan} (hp : p.Sound) :
    Reads ["# " ++ p.builderName ++ " is wrapper of '" ++ p.title ++ "'"] [] := by
  have hname : ∀ c ∈ p.builderName.toList, Plain c := fun c hc =>
    (plain_of_isTitleChar (.inl (hp.isNameWord_builderName.2 c hc))).1
  have htitle : ∀ c ∈ p.title.toList, Plain c := fun c hc =>
    (plain_of_isTitleChar (hp.isTitleChar_title c hc)).1
  have htext : ("# " ++ p.builderName ++ " is wrapper of '" ++ p.title ++ "'").toList =
      '#' :: ' ' :: (p.builderName.toList ++ (" is wrapper of '".toList ++
        (p.title.toList ++ ['\'']))) := by
    simp
  refine reads_remark htext ?_
  have hmiddle : ∀ c ∈ " is wrapper of '".toList, Plain c := by decide +kernel
  rw [List.forall_mem_cons, List.forall_mem_append, List.forall_mem_append, List.forall_mem_append]
  exact ⟨by decide, hname, hmiddle, htitle, by decide⟩

theorem reads_header {p : CommandPlan} (hp : p.Sound) (hclean : p.Clean) : Reads (header p) [] := by
  have husage := reads_comment 0 (hclean p.info.usage (by simp))
  have hshort := reads_comment 0 (hclean p.info.short (by simp))
  exact ((((reads_headline hp).append reads_rule).append husage).append hshort).append reads_rule

theorem plain_between {before middle after : String} (hbefore : ∀ c ∈ before.toList, Plain c)
    (hmiddle : ∀ c ∈ middle.toList, Plain c) (hafter : ∀ c ∈ after.toList, Plain c) :
    ∀ c ∈ (before ++ middle ++ after).toList, Plain c := by
  rw [String.toList_append, String.toList_append, List.forall_mem_append, List.forall_mem_append]
  exact ⟨⟨hbefore, hmiddle⟩, hafter⟩

/-- The description of a type of records is one line. -/
theorem reads_recordDoc {p : CommandPlan} (hp : p.Sound) (name : String) :
    Reads ["    " ++ Text.tripleQuoted ("Options of " ++ Text.quoted p.title ++ ".")]
      [lineOf 4 [.docstring (p.recordType name).doc]] :=
  reads_docstring 4 (plain_between (by decide +kernel) (plain_quoted hp.isTitleChar_title) (by decide +kernel))

theorem reads_recordLines {p : CommandPlan} (hp : p.Sound) (hclean : p.Clean) {name : String}
    (hname : IsNameWord name) : Reads (recordLines name p) (recordSource name p) := by
  have hfields : Reads (p.fields.flatMap fieldLines)
      (p.fields.map fun f => lineOf 4 (fieldPieces f)) := by
    rw [List.map_eq_flatMap]
    refine Reads.flatMap fun f hf => ?_
    have hhelp : f.flag.help ∈ p.info.usage :: p.info.short :: p.fields.map (·.flag.help) :=
      List.mem_cons_of_mem _ (List.mem_cons_of_mem _ (List.mem_map_of_mem hf))
    exact reads_fieldLines (hp.isNameWord_attr hf) (hclean _ hhelp)
  exact ((reads_decorator.append (reads_record hname)).append (reads_recordDoc hp name)).append hfields

theorem isNameWord_optionName {p : CommandPlan} (hp : p.Sound) :
    ∀ name ∈ p.optionName?, IsNameWord name := by
  intro name hname
  rw [CommandPlan.optionName?] at hname
  split at hname
  · cases hname
  · obtain rfl := Option.some.inj hname
    exact hp.isNameWord_base.append (by decide)

theorem reads_builderLines {p : CommandPlan} (hp : p.Sound) :
    Reads (builderLines p) (builderSource p) := by
  have hhead := reads_signature hp.isNameWord_builderName (isNameWord_optionName hp)
  have hdoc : Reads ["    " ++ Text.tripleQuoted ("Build the " ++ Text.quoted p.title ++ " invocation.")]
      [lineOf 4 [.docstring p.builder.doc]] :=
    reads_docstring 4 (plain_between (by decide +kernel) (plain_quoted hp.isTitleChar_title) (by decide +kernel))
  exact hhead.append (hdoc.append (reads_call p))

/-- **A command** is read as its type of records, if it has one, and its builder. -/
theorem reads_commandLines {p : CommandPlan} (hp : p.Sound) (hclean : p.Clean) :
    Reads (commandLines p) (commandSource p) := by
  have hhead : Reads (["", ""] ++ header p) [] :=
    (Reads.empty.append Reads.empty).append (reads_header hp hclean)
  have hbuilder := reads_builderLines hp
  rw [commandLines, commandSource]
  cases hname : p.optionName? with
  | none => exact (hhead.append .nil).append hbuilder
  | some name =>
    have hrecord := reads_recordLines hp hclean (isNameWord_optionName hp name hname)
    have hspaced := hrecord.append (Reads.empty.append Reads.empty)
    rw [List.append_nil, List.append_nil] at hspaced
    exact (hhead.append hspaced).append hbuilder

/-! ## The frame of a module -/

theorem reads_import {source : List Piece} {names : List String} {text : String}
    (hjoin : source.IsChain (Piece.joins · · = true))
    (hdepth : source.foldlM Piece.depth? 0 = some 0) (hnames : ∀ name ∈ names, IsNameWord name)
    (htext : text.toList = "from ".toList ++ source.flatMap Piece.spelling ++ " import ".toList ++
      (String.intercalate ", " names).toList) :
    Reads [text] [lineOf 0 (importPieces source names)] := by
  have hwords : ((Piece.separated (names.map .word)).foldlM Piece.depth? 0) = some 0 := by
    refine Piece.foldlM_depth? fun p hp => ?_
    rcases Piece.mem_separated hp with hp | rfl | rfl
    · obtain ⟨name, hname, rfl⟩ := List.mem_map.mp hp
      exact Piece.depth?_word (hnames name hname) 0
    · rfl
    · rfl
  have hspelling : (Piece.separated (names.map .word)).flatMap Piece.spelling =
      (String.intercalate ", " names).toList := by
    have := Piece.spelling_separated (f := id) names fun name => (rfl : (Piece.word name).spelling = _)
    rwa [List.map_id] at this
  refine reads_line ?_ ?_ ?_ ?_
  · rw [htext]
    simp [hspelling, Piece.spelling, Piece.word]
  · rw [List.isChain_cons_cons, Piece.isChain_space]
    refine ⟨rfl, hjoin.append ?_ ?_⟩
    · rw [Piece.isChain_space, List.isChain_cons_cons, Piece.isChain_space]
      exact ⟨rfl, Piece.isChain_separated _⟩
    · exact fun p _ q hq => Option.some.inj hq ▸ p.joins_space
  · have himport : (Piece.space :: Piece.word "import" :: Piece.space ::
        Piece.separated (names.map .word)).foldlM Piece.depth? 0 = some 0 := hwords
    change (source ++ _).foldlM Piece.depth? 0 = some 0
    rw [List.foldlM_append, hdepth]
    exact himport
  · simp [Piece.word, Piece.token?]

theorem reads_importLines (plans : List CommandPlan) :
    Reads (importLines defaultRuntime plans) (importSource plans) := by
  have hfuture : Reads ["from __future__ import annotations", ""]
      [lineOf 0 (importPieces [.word "__future__"] ["annotations"])] :=
    (reads_import (.singleton _) rfl (by decide) rfl).append .empty
  have hsequence : Reads ["from collections.abc import Sequence"]
      [lineOf 0 (importPieces [.word "collections", .sign '.', .word "abc"] ["Sequence"])] :=
    reads_import (by simp [Piece.joins, Piece.word]) rfl (by decide) rfl
  have hdataclass : Reads
      (if (usedHelpers plans).isEmpty then [] else ["from dataclasses import dataclass"])
      (if (usedHelpers plans).isEmpty then [] else
        [lineOf 0 (importPieces [.word "dataclasses"] ["dataclass"])]) := by
    split
    · exact .nil
    · exact reads_import (.singleton _) rfl (by decide) rfl
  have hruntime : Reads
      ["", "from " ++ defaultRuntime ++ " import " ++
        String.intercalate ", " ("Command" :: "build_command" :: usedHelpers plans)]
      [lineOf 0 (importPieces [.word "docker_wrapper", .sign '.', .word "runtime"]
        ("Command" :: "build_command" :: usedHelpers plans))] := by
    refine Reads.empty.append (reads_import (by simp [Piece.joins, Piece.word]) rfl ?_ ?_)
    · rw [List.forall_mem_cons, List.forall_mem_cons]
      exact ⟨by decide, by decide, fun name h => isNameWord_of_mem_helpers name (List.mem_of_mem_filter h)⟩
    · rw [String.toList_append, String.toList_append, String.toList_append]
      rfl
  exact ((hfuture.append hsequence).append hdataclass).append hruntime

/-- **The list of exported names** is one line. -/
theorem reads_exportLines (plans : List CommandPlan) :
    Reads (exportLines plans) [lineOf 0 (exportPieces (plans.flatMap CommandPlan.names))] := by
  generalize hnames : plans.flatMap CommandPlan.names = names
  have hlist : Reads
      (["__all__ = ["] ++ names.map (fun name => "    " ++ Text.asciiLiteral name ++ ",") ++ ["]"])
      [lineOf 0 (exportPieces names)] := by
    have hitem (name : String) : ("    " ++ Text.asciiLiteral name ++ ",").toList ++ ['\n'] =
        (itemPieces name).flatMap Piece.spelling := by
      simp [itemPieces, Piece.spelling, Text.asciiLiteral]
    refine Reads.pieces ?_ ?_ ?_ ?_
    · simp only [List.flatMap_append, List.flatMap_map, hitem, List.flatMap_cons, List.flatMap_assoc]
      simp [Piece.spelling, Piece.word]
    · have hitems : (names.flatMap itemPieces).IsChain (Piece.joins · · = true) := by
        refine Piece.isChain_flatMap fun name _ => ⟨?_, ?_⟩
        · simp [itemPieces, Piece.joins]
        · intro p hp q
          obtain rfl := Option.some.inj hp
          rfl
      simp only [List.isChain_cons_cons]
      refine ⟨rfl, rfl, rfl, rfl, rfl, ?_⟩
      refine List.IsChain.cons ?_ fun _ _ => rfl
      exact hitems.append (.singleton _) fun p _ q hq => Option.some.inj hq ▸ Piece.joins_sign ..
    · -- one bracket is open in front of every item
      have hitems : (names.flatMap itemPieces).foldlM Piece.depth? 1 = some 1 := by
        refine Piece.foldlM_depth? fun p hp => ?_
        obtain ⟨name, -, hp⟩ := List.mem_flatMap.mp hp
        have hitem : ∀ p ∈ itemPieces name, p.depth? 1 = some 1 := by
          simp [itemPieces, Piece.depth?, Source.signs]
        exact hitem p hp
      change (names.flatMap itemPieces ++ [Piece.sign ']']).foldlM Piece.depth? 1 = some 0
      rw [List.foldlM_append, hitems]
      rfl
    · simp [Piece.word, Piece.token?]
  rw [exportLines, hnames]
  exact (Reads.empty.append Reads.empty).append hlist

/-- The docstring of a module that is given none holds a program, and no quote or line end. -/
theorem plain_defaultDoc {p : CommandPlan} (hp : p.Sound) :
    ∀ c ∈ (defaultDoc p.program).toList, Plain c :=
  plain_between (by decide +kernel) (fun c hc => (plain_of_isTitleChar (hp.isTitleChar_program c hc)).1)
    (by decide +kernel)

/-- **The lines of a generated module** are read as the lines that its pieces spell. -/
theorem reads_moduleLines {first : CommandPlan} {rest : List CommandPlan}
    (hplans : ∀ p ∈ first :: rest, p.Sound ∧ p.Clean) :
    Reads (moduleLines defaultRuntime none first rest) (moduleSource first rest) := by
  have hdoc : Reads [Text.tripleQuoted (defaultDoc first.program), ""]
      [lineOf 0 [.docstring (defaultDoc first.program)]] := by
    have hline := reads_docstring 0 (plain_defaultDoc (hplans first (List.mem_cons_self ..)).1)
    rw [show String.ofList (List.replicate 0 ' ') = "" from rfl, String.empty_append] at hline
    exact hline.append .empty
  have hcommands : Reads ((first :: rest).flatMap commandLines) ((first :: rest).flatMap commandSource) :=
    Reads.flatMap fun p hp => reads_commandLines (hplans p hp).1 (hplans p hp).2
  exact ((hdoc.append (reads_importLines _)).append hcommands).append (reads_exportLines _)

theorem toList_joinLines {texts : List String} (h : texts ≠ []) :
    (joinLines texts).toList = texts.flatMap fun t => t.toList ++ ['\n'] := by
  induction texts with
  | nil => exact absurd rfl h
  | cons t texts ih =>
    cases texts with
    | nil => simp [joinLines]
    | cons u texts =>
      have := ih (List.cons_ne_nil _ _)
      rw [joinLines, String.toList_append] at this ⊢
      rw [String.intercalate_cons_cons, String.toList_append, String.toList_append, List.append_assoc,
        List.append_assoc, this]
      simp

/-- The lines of the text of planned commands. -/
theorem lines?_joinLines {first : CommandPlan} {rest : List CommandPlan}
    (hplans : ∀ p ∈ first :: rest, p.Sound ∧ p.Clean) :
    Source.lines? (joinLines (moduleLines defaultRuntime none first rest)).toList =
      some (moduleSource first rest) := by
  rw [toList_joinLines (by simp [moduleLines])]
  exact (reads_moduleLines hplans).lines_eq

end ModuleText

end CommandWrap
