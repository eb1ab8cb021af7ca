import CommandWrap.Proofs.ModuleLines
import CommandWrap.Proofs.Outcomes

/-!
# Descriptions stay comments

Usage lines, short descriptions and help texts are copied into the wrapper module, whatever they hold.  They
come to stand in lines of their own that begin with a number sign, and no character in such a line ends it
(`comment_spec`); so a text cannot get out of its comments.

Two runs are compared by a third: the graph without its descriptions (`CommandGraph.bare`).  Planning does not
look at them (`plan_bare`), and in the module of a plan only comments depend on them (`code_commandLines`).
Hence graphs that differ in nothing else fail with the same error, or have modules that are the same once
their comment lines are deleted (`generate_up_to_comments`).
-/
namespace CommandWrap

/-! ## Lines and comment lines -/

namespace Source

/-- The lines of a text with their ends: a line feed, or a carriage return with or without a line feed behind
it. -/
def physicalLines : List Char → List (List Char)
  | [] => []
  | '\r' :: '\n' :: rest => ['\r', '\n'] :: physicalLines rest
  | c :: rest =>
    if c = '\n' ∨ c = '\r' then [c] :: physicalLines rest else Text.extendLine c (physicalLines rest)

/-- Is the first character of a line that is not blank a number sign? -/
def isComment (line : List Char) : Bool :=
  (line.dropWhile Text.isBlank).head? == some '#'

/-- What is left of a text when its comment lines are deleted. -/
def code (text : List Char) : List Char :=
  ((physicalLines text).filter (!isComment ·)).flatten

/-- The text without its comment lines. -/
def withoutComments (text : String) : String :=
  String.ofList (code text.toList)

theorem extendLine_ne_nil (c : Char) (ls : List (List Char)) : Text.extendLine c ls ≠ [] := by
  cases ls <;> exact List.cons_ne_nil _ _

theorem extendLine_append {ls : List (List Char)} (h : ls ≠ []) (c : Char) (ls' : List (List Char)) :
    Text.extendLine c (ls ++ ls') = Text.extendLine c ls ++ ls' := by
  cases ls with
  | nil => exact absurd rfl h
  | cons l ls => rfl

theorem physicalLines_cons {c : Char} {text : List Char} (h : c = '\r' → text.head? ≠ some '\n') :
    physicalLines (c :: text) =
      if c = '\n' ∨ c = '\r' then [c] :: physicalLines text
      else Text.extendLine c (physicalLines text) := by
  rw [physicalLines]
  rintro rest rfl rfl
  exact h rfl rfl

theorem physicalLines_ne_nil {text : List Char} (h : text ≠ []) : physicalLines text ≠ [] := by
  fun_cases physicalLines text with
  | case1 => exact absurd rfl h
  | case4 => exact extendLine_ne_nil _ _
  | _ => exact List.cons_ne_nil _ _

/-- A line feed ends a line, whatever is around it. -/
theorem physicalLines_append (text rest : List Char) :
    physicalLines (text ++ '\n' :: rest) = physicalLines (text ++ ['\n']) ++ physicalLines rest := by
  fun_induction physicalLines text with
  | case1 => rfl
  | case2 text ih => rw [List.cons_append, List.cons_append, physicalLines, ih]; rfl
  | case3 c text hcrlf hc ih =>
    by_cases hreturn : c = '\r' ∧ text = []
    · obtain ⟨rfl, rfl⟩ := hreturn
      rfl
    have hhead (tail : List Char) (hr : c = '\r') : (text ++ '\n' :: tail).head? ≠ some '\n' := by
      cases text with
      | nil => exact absurd ⟨hr, rfl⟩ hreturn
      | cons d text =>
        rintro hd
        obtain rfl := Option.some.inj hd
        exact hcrlf _ hr rfl
    rw [List.cons_append, List.cons_append, physicalLines_cons (hhead rest), physicalLines_cons (hhead []),
      if_pos hc, if_pos hc, ih]
    rfl
  | case4 c text hcrlf hc ih =>
    rw [List.cons_append, List.cons_append, physicalLines_cons fun hr => absurd (.inr hr) hc,
      physicalLines_cons fun hr => absurd (.inr hr) hc, if_neg hc, if_neg hc, ih]
    exact extendLine_append (physicalLines_ne_nil (List.append_ne_nil_of_right_ne_nil _ (List.cons_ne_nil _ _))) _ _

theorem code_append (text rest : List Char) :
    code (text ++ '\n' :: rest) = code (text ++ ['\n']) ++ code rest := by
  rw [code, physicalLines_append, List.filter_append, List.flatten_append]
  rfl

/-- What is left of one line with its end. -/
def lineCode (line : String) : List Char :=
  code (line.toList ++ ['\n'])

/-- The lines of a text may be looked at one by one. -/
theorem code_lines (ls : List String) :
    code (ls.flatMap fun l => l.toList ++ ['\n']) = ls.flatMap lineCode := by
  induction ls with
  | nil => rfl
  | cons l ls ih =>
    rw [List.flatMap_cons, List.append_assoc, List.singleton_append, code_append, ih]
    rfl

theorem physicalLines_of_free {line : List Char} (h : ∀ c ∈ line, c ≠ '\n' ∧ c ≠ '\r') :
    physicalLines (line ++ ['\n']) = [line ++ ['\n']] := by
  induction line with
  | nil => rfl
  | cons c line ih =>
    rw [List.forall_mem_cons] at h
    rw [List.cons_append, physicalLines_cons fun hr => absurd hr h.1.2, if_neg (not_or.mpr h.1), ih h.2]
    rfl

end Source

namespace ModuleText

open Source

/-- **A line of a comment** has a number sign behind its indentation and holds no end of a line. -/
theorem comment_spec {indent : Nat} {text line : String}
    (h : line ∈ comment (String.ofList (List.replicate indent ' ')) text) :
    ∃ rest, line.toList = List.replicate indent ' ' ++ '#' :: rest ∧ '\n' ∉ rest ∧ '\r' ∉ rest := by
  obtain ⟨l, hl, rfl⟩ := List.mem_map.mp h
  obtain ⟨kept, hstrip, hkept⟩ := stripRight_append (c := '#') (by decide) (List.replicate indent ' ') (' ' :: l)
  have hfree {c : Char} (hc : c ∈ kept) : c = ' ' ∨ Text.isLineBoundary c = false :=
    (List.mem_cons.mp (hkept c hc)).imp_right (Text.not_isLineBoundary_of_mem_lines _ _ hl c)
  refine ⟨kept, by rw [String.toList_ofList, String.toList_ofList, hstrip], fun hc => ?_, fun hc => ?_⟩
  · rcases hfree hc with h | h <;> cases h
  · rcases hfree hc with h | h <;> cases h

theorem lineCode_comment {indent : Nat} {text line : String}
    (h : line ∈ comment (String.ofList (List.replicate indent ' ')) text) : lineCode line = [] := by
  obtain ⟨rest, hline, hfeed, hreturn⟩ := comment_spec h
  have hfree : ∀ c ∈ line.toList, c ≠ '\n' ∧ c ≠ '\r' := by
    intro c hc
    rw [hline, List.mem_append, List.mem_cons] at hc
    rcases hc with hc | rfl | hc
    · obtain ⟨-, rfl⟩ := List.mem_replicate.mp hc
      decide
    · decide
    · exact ⟨ne_of_mem_of_not_mem hc hfeed, ne_of_mem_of_not_mem hc hreturn⟩
  have hcomment : isComment (line.toList ++ ['\n']) = true := by
    rw [hline, isComment, List.append_assoc, List.dropWhile_append_of_pos fun c hc => ?_]
    · rfl
    · obtain ⟨-, rfl⟩ := List.mem_replicate.mp hc
      decide
  rw [lineCode, code, physicalLines_of_free hfree]
  simp [hcomment]

end ModuleText

/-! ## Graphs without descriptions -/

/-- The flag without its help. -/
def Flag.bare (f : Flag) : Flag :=
  { f with help := "" }

/-- The command without its usage line, its short description and the help of its flags. -/
def CommandInfo.bare (i : CommandInfo) : CommandInfo :=
  { i with usage := "", short := "", flags := i.flags.map Flag.bare }

/-- The command of a graph without its descriptions. -/
def CommandNode.bare {n : Nat} (node : CommandNode n) : CommandNode n :=
  { node with info := node.info.bare }

/-- **The graph without descriptions.**  Graphs differ in descriptions only when it is the same for both. -/
abbrev CommandGraph.bare (g : CommandGraph) : CommandGraph where
  size := g.size
  nodes := g.nodes.map CommandNode.bare
  root := g.root

mutual

/-- The tree without descriptions. -/
def CommandTree.bare : CommandTree → CommandTree
  | .node info cs => .node info.bare (CommandTree.bareList cs)

/-- The trees without descriptions. -/
def CommandTree.bareList : List CommandTree → List CommandTree
  | [] => []
  | t :: ts => t.bare :: CommandTree.bareList ts

end

/-- The field without the help of its flag. -/
def Field.bare (f : Field) : Field :=
  { f with flag := f.flag.bare }

/-- The plan without descriptions. -/
def CommandPlan.bare (p : CommandPlan) : CommandPlan :=
  { p with info := p.info.bare, fields := p.fields.map Field.bare }

/-! ## Trees without descriptions -/

namespace CommandGraph

theorem node_bare (g : CommandGraph) (i : Fin g.size) : g.bare.node i = (g.node i).bare :=
  Vector.getElem_map ..

theorem info_bare (g : CommandGraph) (i : Fin g.size) : g.bare.info i = (g.info i).bare :=
  congrArg CommandNode.info (g.node_bare i)

theorem children_bare (g : CommandGraph) (i : Fin g.size) : g.bare.children i = g.children i :=
  congrArg CommandNode.children (g.node_bare i) |>.trans rfl

/-- A draft without its descriptions. -/
def draftBare (d : CommandDraft) : CommandDraft :=
  { d with info := d.info.bare }

mutual

theorem size_bare (t : CommandTree) : t.bare.size = t.size := by
  cases t with
  | node info cs => rw [CommandTree.bare, CommandTree.size, CommandTree.size, sizeList_bare]

theorem sizeList_bare (ts : List CommandTree) :
    CommandTree.sizeList (CommandTree.bareList ts) = CommandTree.sizeList ts := by
  cases ts with
  | nil => rfl
  | cons t ts =>
    rw [CommandTree.bareList, CommandTree.sizeList, CommandTree.sizeList, size_bare, sizeList_bare]

end

theorem rootNumbers_bare (start : Nat) (ts : List CommandTree) :
    rootNumbers start (CommandTree.bareList ts) = rootNumbers start ts := by
  induction ts generalizing start with
  | nil => rfl
  | cons t ts ih => rw [CommandTree.bareList, rootNumbers, rootNumbers, size_bare, ih]

mutual

theorem draftsFrom_bare (start : Nat) (t : CommandTree) :
    draftsFrom start t.bare = (draftsFrom start t).map draftBare := by
  cases t with
  | node info cs =>
    rw [CommandTree.bare, draftsFrom, draftsFrom, rootNumbers_bare, draftsFromList_bare]
    rfl

theorem draftsFromList_bare (start : Nat) (ts : List CommandTree) :
    draftsFromList start (CommandTree.bareList ts) = (draftsFromList start ts).map draftBare := by
  cases ts with
  | nil => rfl
  | cons t ts =>
    rw [CommandTree.bareList, draftsFromList, draftsFromList, List.map_append, draftsFrom_bare,
      draftsFromList_bare, size_bare]

end

/-- Graphs are the same when their commands are, number by number. -/
theorem eq_of_nodes {g h : CommandGraph} (hsize : g.size = h.size) (hroot : g.root.val = h.root.val)
    (hnodes : ∀ i (hg : i < g.size) (hh : i < h.size), (g.info ⟨i, hg⟩) = (h.info ⟨i, hh⟩) ∧
      (g.children ⟨i, hg⟩).map Fin.val = (h.children ⟨i, hh⟩).map Fin.val) : g = h := by
  obtain ⟨size, nodes, root⟩ := g
  obtain ⟨_, nodes', root'⟩ := h
  obtain rfl : size = _ := hsize
  obtain rfl : root = root' := Fin.ext hroot
  have hrow : nodes = nodes' := by
    refine Vector.ext fun i hi => ?_
    obtain ⟨hinfo, hchildren⟩ := hnodes i hi hi
    have hchildren := List.map_injective_iff.mpr (fun _ _ => Fin.ext) hchildren
    change (nodes[i]).info = (nodes'[i]).info at hinfo
    change (nodes[i]).children = (nodes'[i]).children at hchildren
    cases hn : nodes[i]
    cases hn' : nodes'[i]
    rw [hn, hn'] at hinfo hchildren
    exact CommandNode.mk.injEq .. ▸ ⟨hinfo, hchildren⟩
  rw [hrow]

theorem node_ofTree (t : CommandTree) (i : Nat) (hi : i < (ofTree t).size) (hd : i < (draftsFrom 0 t).length) :
    ((ofTree t).node ⟨i, hi⟩).info = (draftsFrom 0 t)[i].info ∧
      ((ofTree t).node ⟨i, hi⟩).children.map Fin.val = (draftsFrom 0 t)[i].children := by
  have hnode : (ofTree t).node ⟨i, hi⟩ = ⟨_, _⟩ := Vector.getElem_ofFn hi
  have hnumbers {n : Nat} (cs : List Nat) (h : ∀ c ∈ cs, c < n) : (cs.pmap Fin.mk h).map Fin.val = cs := by
    rw [List.map_pmap, List.pmap_eq_map, List.map_id']
  exact ⟨congrArg CommandNode.info hnode, (congrArg (·.children.map Fin.val) hnode).trans (hnumbers _ _)⟩

/-- **The graph of a tree** loses its descriptions as the tree does. -/
theorem ofTree_bare (t : CommandTree) : (ofTree t).bare = ofTree t.bare := by
  have hdrafts := draftsFrom_bare 0 t
  have hlength : (draftsFrom 0 t.bare).length = (draftsFrom 0 t).length := by
    rw [hdrafts, List.length_map]
  refine eq_of_nodes hlength.symm rfl fun i hg hh => ?_
  have hi : i < (draftsFrom 0 t).length := hg
  have hj : i < (draftsFrom 0 t.bare).length := hh
  obtain ⟨hinfo, hchildren⟩ := node_ofTree t i hg hi
  obtain ⟨hinfo', hchildren'⟩ := node_ofTree t.bare i hh hj
  have hdraft : (draftsFrom 0 t.bare)[i] = draftBare (draftsFrom 0 t)[i] :=
    (List.getElem_of_eq hdrafts hj).trans (List.getElem_map ..)
  constructor
  · rw [info_bare, info, hinfo, info, hinfo', hdraft]
    rfl
  · rw [children_bare, children, hchildren, children, hchildren', hdraft]
    rfl

end CommandGraph

/-! ## Plans without descriptions -/

theorem any_bare (earlier : List Field) (name : String) :
    (earlier.map Field.bare).any (·.flag.name == name) = earlier.any (·.flag.name == name) :=
  List.any_map

theorem find_bare (earlier : List Field) (attr : String) :
    (earlier.map Field.bare).find? (·.attr == attr) = (earlier.find? (·.attr == attr)).map Field.bare :=
  List.find?_map ..

theorem ofFlag_bare (flag : Flag) : Field.ofFlag? flag.bare = (Field.ofFlag? flag).map Field.bare := by
  rw [Field.ofFlag?, Field.ofFlag?, Option.map_map]
  rfl

theorem planFields_bare (path : List String) (earlier : List Field) (flags : List Flag) :
    planFields path (earlier.map Field.bare) (flags.map Flag.bare) =
      (planFields path earlier flags).map (List.map Field.bare) := by
  induction flags generalizing earlier with
  | nil => rfl
  | cons flag flags ih =>
    have hname : flag.bare.name = flag.name := rfl
    rw [List.map_cons, planFields, planFields, hname, any_bare, ofFlag_bare]
    by_cases hany : earlier.any (·.flag.name == flag.name) = true
    · rw [if_pos hany, if_pos hany]
      rfl
    rw [if_neg hany, if_neg hany]
    cases Field.ofFlag? flag with
    | none => rfl
    | some field =>
      have hattr : field.bare.attr = field.attr := rfl
      dsimp only [Option.map_some]
      rw [hattr, find_bare]
      cases earlier.find? (·.attr == field.attr) with
      | some other => rfl
      | none =>
        have hrest := ih (earlier ++ [field])
        rw [List.map_append, List.map_singleton] at hrest
        dsimp only [Option.map_none]
        rw [hrest]
        cases planFields path (earlier ++ [field]) flags <;> rfl

theorem planCommand_bare (info : CommandInfo) (path : List String) :
    planCommand info.bare path = (planCommand info path).map CommandPlan.bare := by
  have hfields : planFields path [] info.bare.flags =
      (planFields path [] info.flags).map (List.map Field.bare) := planFields_bare path [] info.flags
  rw [planCommand, planCommand, hfields]
  cases planFields path [] info.flags with
  | error e => rfl
  | ok fields => cases Name.base? path <;> rfl

theorem planNext_bare (earlier : List CommandPlan) (info : CommandInfo) (path : List String) :
    planNext (earlier.map CommandPlan.bare) info.bare path =
      (planNext earlier info path).map CommandPlan.bare := by
  rw [planNext, planNext, planCommand_bare]
  cases planCommand info path with
  | error e => rfl
  | ok plan =>
    have hfind : (earlier.map CommandPlan.bare).find? (·.base == plan.bare.base) =
        (earlier.find? (·.base == plan.base)).map CommandPlan.bare := List.find?_map ..
    have hmap : (Except.ok plan : Except PlanError CommandPlan).map CommandPlan.bare = .ok plan.bare := rfl
    rw [hmap, bind_ok, bind_ok, hfind]
    cases earlier.find? (·.base == plan.base) <;> rfl

namespace CommandGraph

variable (g : CommandGraph)

theorem expand_bare (e : AgendaEntry g.size) : g.bare.expand e = g.expand e := by
  rw [expand, expand, children_bare]
  refine List.map_congr_left fun c _ => ?_
  rw [info_bare]
  rfl

theorem walkAgenda_bare (excluded : List String) (agenda : List (AgendaEntry g.size)) :
    g.bare.walkAgenda excluded agenda = g.walkAgenda excluded agenda := by
  fun_induction walkAgenda g excluded agenda with
  | case1 => rw [walkAgenda]
  | case2 e agenda again => rw [walkAgenda, if_pos again]
  | case3 e agenda new title ih => rw [walkAgenda, if_neg new, if_pos title, ih]
  | case4 e agenda new title ih => rw [walkAgenda, if_neg new, if_neg title, expand_bare, ih]

theorem walk_bare (exclude : List String) : g.bare.walk exclude = g.walk exclude := by
  have hname : g.bare.name = g.name := by
    rw [name, info_bare]
    rfl
  rw [walk, hname]
  exact g.walkAgenda_bare _ _

theorem planEvents_bare (earlier : List CommandPlan) (events : List (WalkEvent g.size)) :
    g.bare.planEvents (earlier.map CommandPlan.bare) events =
      (g.planEvents earlier events).map (List.map CommandPlan.bare) := by
  induction events generalizing earlier with
  | nil => rfl
  | cons event events ih =>
    cases event with
    | skip path => exact ih earlier
    | loop path => rfl
    | visit node path =>
      rw [planEvents, planEvents, info_bare, planNext_bare]
      cases planNext earlier (g.info node) path with
      | error e => rfl
      | ok plan =>
        have hrest := ih (earlier ++ [plan])
        rw [List.map_append, List.map_singleton] at hrest
        have hmap : (Except.ok plan : Except PlanError CommandPlan).map CommandPlan.bare = .ok plan.bare := rfl
        rw [hmap, bind_ok, bind_ok, hrest]
        cases g.planEvents (earlier ++ [plan]) events <;> rfl

/-- **Planning does not look at descriptions.** -/
theorem plan_bare (exclude : List String) :
    g.bare.plan exclude = (g.plan exclude).map (List.map CommandPlan.bare) := by
  rw [plan, plan, walk_bare]
  exact g.planEvents_bare [] _

end CommandGraph

/-! ## Modules without comments -/

namespace ModuleText

open Source

theorem flatMap_lineCode_comment (indent : Nat) (text : String) :
    (comment (String.ofList (List.replicate indent ' ')) text).flatMap lineCode = [] :=
  List.flatMap_eq_nil_iff.mpr fun _ h => lineCode_comment h

theorem code_header (p : CommandPlan) :
    (header p.bare).flatMap lineCode = (header p).flatMap lineCode := by
  have hcomment (text : String) : (comment "" text).flatMap lineCode = [] := flatMap_lineCode_comment 0 text
  simp only [header, List.flatMap_append, hcomment]
  rfl

theorem code_fieldLines (f : Field) :
    (fieldLines f.bare).flatMap lineCode = (fieldLines f).flatMap lineCode := by
  have hcomment (text : String) : (comment "    " text).flatMap lineCode = [] := flatMap_lineCode_comment 4 text
  simp only [fieldLines, List.cons_append, List.flatMap_cons, List.flatMap_append, hcomment]
  rfl

theorem code_recordLines (name : String) (p : CommandPlan) :
    (recordLines name p.bare).flatMap lineCode = (recordLines name p).flatMap lineCode := by
  have hfields : (p.bare.fields.flatMap fieldLines).flatMap lineCode =
      (p.fields.flatMap fieldLines).flatMap lineCode := by
    rw [CommandPlan.bare, List.flatMap_map, List.flatMap_assoc, List.flatMap_assoc]
    exact List.flatMap_congr fun f _ => code_fieldLines f
  rw [recordLines, recordLines, List.flatMap_append, List.flatMap_append, hfields]
  rfl

theorem optionName?_bare (p : CommandPlan) : p.bare.optionName? = p.optionName? := by
  rw [CommandPlan.optionName?, CommandPlan.optionName?, CommandPlan.bare, List.isEmpty_map]

theorem builderLines_bare (p : CommandPlan) : builderLines p.bare = builderLines p := by
  simp only [builderLines, signature, parameters, optionName?_bare]
  rfl

/-- **The lines of a command** differ only in comments when its descriptions do. -/
theorem code_commandLines (p : CommandPlan) :
    (commandLines p.bare).flatMap lineCode = (commandLines p).flatMap lineCode := by
  simp only [commandLines, List.flatMap_append, code_header, builderLines_bare, optionName?_bare]
  cases p.optionName? with
  | none => rfl
  | some name => simp only [List.flatMap_append, code_recordLines]

theorem usedHelpers_bare (plans : List CommandPlan) :
    usedHelpers (plans.map CommandPlan.bare) = usedHelpers plans := by
  refine List.filter_congr fun h _ => ?_
  have hp (p : CommandPlan) : p.bare.fields.any (·.helper == h) = p.fields.any (·.helper == h) := List.any_map
  rw [List.any_map]
  exact congrArg plans.any (funext hp)

/-- **The module of plans** without its comments is that of the plans without descriptions. -/
theorem code_moduleLines (runtime : String) (doc : Option String) (first : CommandPlan) (rest : List CommandPlan) :
    (moduleLines runtime doc first.bare (rest.map CommandPlan.bare)).flatMap lineCode =
      (moduleLines runtime doc first rest).flatMap lineCode := by
  have hcommands : ((first :: rest).map CommandPlan.bare).flatMap (fun p => (commandLines p).flatMap lineCode) =
      (first :: rest).flatMap fun p => (commandLines p).flatMap lineCode := by
    rw [List.flatMap_map]
    exact List.flatMap_congr fun p _ => code_commandLines p
  have hnames : ((first :: rest).map CommandPlan.bare).flatMap CommandPlan.names =
      (first :: rest).flatMap CommandPlan.names := by
    rw [List.flatMap_map]
    refine List.flatMap_congr fun p _ => ?_
    rw [CommandPlan.names, optionName?_bare]
    rfl
  have himports : importLines runtime ((first :: rest).map CommandPlan.bare) =
      importLines runtime (first :: rest) := by
    rw [importLines, usedHelpers_bare]
    rfl
  simp only [moduleLines, ← List.map_cons, List.flatMap_append, List.flatMap_assoc, himports, hcommands,
    exportLines, hnames]
  rfl

theorem withoutComments_render (runtime : String) (doc : Option String) (plans : List CommandPlan) :
    (render runtime doc (plans.map CommandPlan.bare)).map withoutComments =
      (render runtime doc plans).map withoutComments := by
  cases plans with
  | nil => rfl
  | cons first rest =>
    have hcode (first : CommandPlan) (rest : List CommandPlan) :
        code (joinLines (moduleLines runtime doc first rest)).toList =
          (moduleLines runtime doc first rest).flatMap lineCode := by
      rw [toList_joinLines (by simp [moduleLines]), code_lines]
    refine congrArg Except.ok (congrArg String.ofList ?_)
    rw [hcode, hcode, code_moduleLines]

end ModuleText

namespace CommandGraph

open Source (withoutComments)

theorem withoutComments_generate (g : CommandGraph) (options : ModuleOptions) :
    (g.bare.generate options).map withoutComments = (g.generate options).map withoutComments := by
  rw [generate, generate, plan_bare]
  cases g.plan options.exclude with
  | error e => rfl
  | ok plans => exact ModuleText.withoutComments_render options.runtime options.doc plans

/-- **Descriptions stay comments.**  Graphs that differ in descriptions only fail with the same error, or have
modules that are the same once their comment lines are deleted; and the lines that are made of a description
begin with a number sign behind their indentation and hold no end of a line. -/
theorem generate_up_to_comments {g h : CommandGraph} (hbare : g.bare = h.bare) (options : ModuleOptions) :
    (g.generate options).map withoutComments = (h.generate options).map withoutComments ∧
    ∀ indent text line, line ∈ ModuleText.comment (String.ofList (List.replicate indent ' ')) text →
      ∃ rest, line.toList = List.replicate indent ' ' ++ '#' :: rest ∧ '\n' ∉ rest ∧ '\r' ∉ rest := by
  refine ⟨?_, fun _ _ _ => ModuleText.comment_spec⟩
  rw [← withoutComments_generate g, hbare, withoutComments_generate h]

/-- Ends of lines of all kinds and quotation marks in a help text change nothing but comments. -/
theorem generate_up_to_comments_label :
    let g := ofTree (.node { name := "t", flags := [{ name := "v" }] } [])
    let h := ofTree (.node { name := "t", short := "a\r\nimport os", flags :=
      [{ name := "v", help := "\r)\u2028\"\"\"\x0bimport os\u0085" }] } [])
    g.bare = h.bare ∧ (g.generate {}).map withoutComments = (h.generate {}).map withoutComments := by
  intro g h
  have hbare : g.bare = h.bare := by
    rw [ofTree_bare, ofTree_bare]
    rfl
  exact ⟨hbare, (generate_up_to_comments hbare {}).1⟩

end CommandGraph

end CommandWrap
