import CommandWrap.Program.CommandLine
import CommandWrap.Proofs.ModuleMeaning

/-!
# The exported names

The names of the wrappers of a graph are written in three places: the list that a generated module exports,
the wrappers themselves, and the lines that the program prints for a command tree.  The last two always give
the names of the plans, and so does the module if it can be read and no name has a character beyond `U+FFFF`
(`exported_names_agree`).  The names are identifiers, pairwise distinct, and different from every name that the
module imports: none of those ends like the name of a wrapper.
-/
namespace CommandWrap

open Source

/-! ## Printed names -/

/-- The names on a printed line, the option record before the builder; a hyphen stands for no record. -/
def lineNames (line : List Char) : List String :=
  match (line.splitOn ' ').reverse with
  | _flags :: _count :: option :: builder :: _title =>
    (if option = ['-'] then [] else [String.ofList option]) ++ [String.ofList builder]
  | _ => []

/-- The names on the lines of a printed text. -/
def printedNames (text : String) : List String :=
  (text.toList.splitOn '\n').flatMap lineNames

/-- The lines of a text that ends with one. -/
theorem splitOn_lines {ls : List (List Char)} (h : ∀ l ∈ ls, '\n' ∉ l) :
    (ls.flatMap fun l => l ++ ['\n']).splitOn '\n' = ls ++ [[]] := by
  induction ls with
  | nil => rfl
  | cons l ls ih =>
    rw [List.forall_mem_cons] at h
    rw [List.flatMap_cons, List.append_assoc, List.singleton_append, List.splitOn_append_cons_self,
      List.splitOn_eq_singleton h.1, ih h.2]
    rfl

theorem lineNames_eq {title builder option count flags : List Char} (hbuilder : ' ' ∉ builder)
    (hoption : ' ' ∉ option) (hcount : ' ' ∉ count) (hflags : ' ' ∉ flags) :
    lineNames (title ++ ' ' :: (builder ++ ' ' :: (option ++ ' ' :: (count ++ ' ' :: flags)))) =
      (if option = ['-'] then [] else [String.ofList option]) ++ [String.ofList builder] := by
  -- the title may hold spaces, but none of the four words behind it does
  have hwords : (title ++ ' ' :: (builder ++ ' ' :: (option ++ ' ' :: (count ++ ' ' :: flags)))).splitOn
      ' ' = title.splitOn ' ' ++ [builder, option, count, flags] := by
    rw [List.splitOn_append_cons_self, List.splitOn_append_cons_self, List.splitOn_append_cons_self,
      List.splitOn_append_cons_self, List.splitOn_eq_singleton hbuilder,
      List.splitOn_eq_singleton hoption, List.splitOn_eq_singleton hcount,
      List.splitOn_eq_singleton hflags]
    rfl
  rw [lineNames, hwords, List.reverse_append]
  rfl

theorem not_mem_repr {c : Char} (hc : c.isDigit = false) (n : Nat) : c ∉ (toString n).toList := by
  intro hmem
  have hdigit : c.isDigit = true := by
    refine Nat.isDigit_of_mem_toDigits (b := 10) (n := n) (by decide) (by decide) ?_
    simpa [toString, Nat.repr] using hmem
  rw [hc] at hdigit
  cases hdigit

open Program (loadTree)
open Program.CommandLine (planLine Context)

namespace CommandPlan

variable {p : CommandPlan}

/-- The line of a command without its end. -/
def printedLine (p : CommandPlan) : List Char :=
  ((List.replicate (p.path.length - 1) "  ").flatMap String.toList ++ p.title.toList ++ [':']) ++
    ' ' :: (p.builderName.toList ++ ' ' :: ((p.optionName?.getD "-").toList ++
      ' ' :: (('(' :: (toString p.fields.length).toList) ++ ' ' :: "flags)".toList)))

theorem planLine_eq (p : CommandPlan) : (planLine p).toList = p.printedLine ++ ['\n'] := by
  rw [planLine, printedLine]
  simp [String.toList_join]

/-- The word that is printed for the record of a command. -/
theorem optionWord_free (hp : p.Sound) {c : Char} (hc : isNameChar c = false) (hhyphen : c ≠ '-') :
    c ∉ (p.optionName?.getD "-").toList := by
  intro hmem
  cases hoption : p.optionName? with
  | none =>
    rw [hoption] at hmem
    exact hhyphen (by simpa using hmem)
  | some name =>
    rw [hoption] at hmem
    rw [(ModuleText.isNameWord_optionName hp name hoption).2 c hmem] at hc
    cases hc

theorem builderName_free (hp : p.Sound) {c : Char} (hc : isNameChar c = false) :
    c ∉ p.builderName.toList := by
  intro hmem
  rw [hp.isNameWord_builderName.2 c hmem] at hc
  cases hc

theorem newline_not_mem_printedLine (hp : p.Sound) : '\n' ∉ p.printedLine := by
  have htitle : '\n' ∉ p.title.toList := by
    intro hmem
    rcases hp.isTitleChar_title _ hmem with h | h | h <;> cases h
  have hindent : '\n' ∉ (List.replicate (p.path.length - 1) "  ").flatMap String.toList := by
    intro hmem
    obtain ⟨s, hs, hmem⟩ := List.mem_flatMap.mp hmem
    rw [List.eq_of_mem_replicate hs] at hmem
    exact absurd hmem (by decide)
  have hbuilder := builderName_free hp (by decide : isNameChar '\n' = false)
  have hoption := optionWord_free hp (by decide : isNameChar '\n' = false) (by decide)
  have hcount := not_mem_repr (by decide : '\n'.isDigit = false) p.fields.length
  rw [printedLine]
  simp [htitle, hindent, hbuilder, hoption, -Nat.toString_eq_repr, hcount]

/-- **A printed line has the names of its command.** -/
theorem lineNames_printedLine (hp : p.Sound) : lineNames p.printedLine = p.names := by
  have hcount : ' ' ∉ '(' :: (toString p.fields.length).toList := by
    rw [List.mem_cons, not_or]
    exact ⟨by decide, not_mem_repr (by decide) _⟩
  rw [printedLine, lineNames_eq (builderName_free hp (by decide)) (optionWord_free hp (by decide) (by decide))
    hcount (by decide), String.ofList_toList, String.ofList_toList, names]
  cases hoption : p.optionName? with
  | none => rfl
  | some name =>
    have hname := ModuleText.isNameWord_optionName hp name hoption
    -- a name has no hyphen, so it is not taken for a missing record
    have hne : name.toList ≠ ['-'] := by
      intro h
      have := hname.2 '-' (by rw [h]; exact List.mem_singleton.mpr rfl)
      cases this
    rw [Option.getD_some, if_neg hne]
    rfl

end CommandPlan

/-- **The printed lines have the names of the plans.** -/
theorem printedNames_eq {plans : List CommandPlan} (h : ∀ p ∈ plans, p.Sound) :
    printedNames (String.join (plans.map planLine)) = plans.flatMap CommandPlan.names := by
  have htext : (String.join (plans.map planLine)).toList =
      (plans.map CommandPlan.printedLine).flatMap fun l => l ++ ['\n'] := by
    rw [String.toList_join, List.flatMap_map, List.flatMap_map]
    exact List.flatMap_congr fun p _ => p.planLine_eq
  have hlines : ∀ l ∈ plans.map CommandPlan.printedLine, '\n' ∉ l := by
    rw [List.forall_mem_map]
    exact fun p hp => CommandPlan.newline_not_mem_printedLine (h p hp)
  rw [printedNames, htext, splitOn_lines hlines, List.flatMap_append, List.flatMap_map]
  have hempty : [[]].flatMap lineNames = [] := rfl
  rw [hempty, List.append_nil]
  exact List.flatMap_congr fun p hp => CommandPlan.lineNames_printedLine (h p hp)

/-! ## Imported names -/

/-- The names that a module may import. -/
def importedNames : List String :=
  ["annotations", "Sequence", "dataclass", "Command", "build_command"] ++ Name.helpers

theorem mem_importedNames {plans : List CommandPlan} {i : String × List String}
    (hi : i ∈ ModuleText.imports plans) {name : String} (hname : name ∈ i.2) : name ∈ importedNames := by
  have hhelpers : ∀ name ∈ ModuleText.usedHelpers plans, name ∈ Name.helpers :=
    fun name h => (List.mem_filter.mp h).1
  rw [ModuleText.imports] at hi
  rw [importedNames]
  simp only [List.mem_append, List.mem_cons, List.not_mem_nil, or_false] at hi
  rcases hi with ((rfl | rfl) | hi) | rfl
  · simp at hname
    simp [hname]
  · simp at hname
    simp [hname]
  · split at hi
    · cases hi
    · obtain rfl := List.mem_singleton.mp hi
      simp at hname
      simp [hname]
  · rcases List.mem_cons.mp hname with rfl | hname
    · simp
    rcases List.mem_cons.mp hname with rfl | hname
    · simp
    · exact List.mem_append_right _ (hhelpers _ hname)

/-- **No wrapper has the name of an import.** -/
theorem not_mem_importedNames {p : CommandPlan} {name : String} (h : name ∈ p.names) :
    name ∉ importedNames := by
  rcases CommandPlan.mem_names.mp h with ⟨-, rfl⟩ | rfl
  · exact Name.append_suffix_not_mem (by decide +kernel) p.base
  · exact Name.append_suffix_not_mem (by decide +kernel) p.base

namespace CommandGraph

variable {g : CommandGraph} {exclude : List String} {plans : List CommandPlan}

/-- **The exported names as they are read** are those of the plans exactly if the module can be read and no
name has a character beyond `U+FFFF`. -/
theorem exports_iff (hplan : g.plan exclude = .ok plans) {text : String}
    (htext : g.generate { exclude } = .ok text) :
    (∃ m, module? text = some m ∧ m.exports = (plans.flatMap CommandPlan.names).map codesOf) ↔
      ∀ p ∈ plans, p.Readable ∧ IsBasic p.base := by
  have hbasic : (plans.flatMap CommandPlan.names).map unitsOf = (plans.flatMap CommandPlan.names).map codesOf ↔
      ∀ p ∈ plans, IsBasic p.base := by
    rw [List.map_inj_left, List.forall_mem_flatMap]
    exact forall₂_congr fun p _ => CommandPlan.exported_iff
  rw [forall₂_and, ← hbasic]
  constructor
  · rintro ⟨m, hm, hexports⟩
    obtain ⟨hread, first, rest, rfl, rfl⟩ := (module?_generate hplan htext).mp hm
    exact ⟨hread, hexports⟩
  · rintro ⟨hread, hexports⟩
    obtain ⟨first, rest, rfl, -⟩ := generate_eq_ok hplan htext
    exact ⟨_, (module?_generate hplan htext).mpr ⟨hread, first, rest, rfl, rfl⟩, hexports⟩

/-- A module imports nothing else than the names that it may import. -/
theorem imports_subset (hplan : g.plan exclude = .ok plans) {text : String}
    (htext : g.generate { exclude } = .ok text) {m : ModuleSource} (hm : module? text = some m) :
    ∀ i ∈ m.imports, i.2 ⊆ importedNames := by
  obtain ⟨-, first, rest, -, rfl⟩ := (module?_generate hplan htext).mp hm
  exact fun i hi _ hname => mem_importedNames hi hname

/-- The program prints the names of the plans for a tree file that gives the graph. -/
theorem printed_of_plan (hplan : g.plan exclude = .ok plans) (c : Context) {given : List Group.Given}
    {tree : CommandTree}
    (htree : loadTree c.surroundings c.folder
      (Path.ofText ((Group.lastWord? given "metadata").getD "")) = .ok tree)
    (hg : ofTree tree = g) (hexclude : Group.allWords given "exclude" = exclude) :
    printedNames (c.tree given).output.stdout = plans.flatMap CommandPlan.names := by
  subst hg hexclude
  rw [Context.tree, htree]
  simp only [hplan]
  exact printedNames_eq fun p hp => sound_of_plan hplan hp

/-- **One list of exported names.**  The key order of the wrappers and the lines of the program give the names
of the plans; the list that a module exports gives them exactly if the text can be read and no name has a
character beyond `U+FFFF`.  The names are pairwise distinct, identifiers, and no names of imports. -/
theorem exported_names_agree (hplan : g.plan exclude = .ok plans) (hne : plans ≠ []) :
    (∃ text, g.generate { exclude } = .ok text ∧
      ((∃ m, module? text = some m ∧ m.exports = (plans.flatMap CommandPlan.names).map codesOf) ↔
        ∀ p ∈ plans, p.Readable ∧ IsBasic p.base) ∧
      ∀ m, module? text = some m → ∀ i ∈ m.imports, i.2 ⊆ importedNames) ∧
    (∀ ws, g.wrappers exclude = .ok ws → ws.map Wrapper.name = plans.flatMap CommandPlan.names) ∧
    (∀ (c : Context) given tree,
      loadTree c.surroundings c.folder (Path.ofText ((Group.lastWord? given "metadata").getD "")) = .ok tree →
      ofTree tree = g → Group.allWords given "exclude" = exclude →
        printedNames (c.tree given).output.stdout = plans.flatMap CommandPlan.names) ∧
    (plans.flatMap CommandPlan.names).Nodup ∧
    ∀ name ∈ plans.flatMap CommandPlan.names, isName name.toList = true ∧ name ∉ importedNames := by
  refine ⟨?_, ?_, ?_, names_nodup (plan_base_nodup hplan), ?_⟩
  · obtain ⟨first, rest, rfl⟩ := List.exists_cons_of_ne_nil hne
    have htext : g.generate { exclude } = .ok
        (ModuleText.joinLines (ModuleText.moduleLines ModuleText.defaultRuntime none first rest)) := by
      rw [generate, hplan]
      rfl
    exact ⟨_, htext, exports_iff hplan htext, fun _ hm => imports_subset hplan htext hm⟩
  · intro ws hws
    obtain ⟨-, rfl⟩ := (wrappers_eq_ok hplan).mp hws
    exact wrappers_map_name plans
  · exact fun c _ _ htree hg hexclude => printed_of_plan hplan c htree hg hexclude
  · intro name hname
    obtain ⟨p, hp, hname⟩ := List.mem_flatMap.mp hname
    exact ⟨ModuleText.isName_of_mem_names (sound_of_plan hplan hp) hname, not_mem_importedNames hname⟩

/-- A command without flags whose name is beyond `U+FFFF`. -/
def deseret : CommandGraph :=
  ofTree (.node { name := "𐐀" } [])

/-- The module of the flag `--label` exports the names of its wrappers; that of a name beyond `U+FFFF` exports
something else than `𐐀Cmd`. -/
theorem exported_names_label :
    (∃ m, module? (textOfFlag "label") = some m ∧ m.exports = ["ToolOption", "ToolCmd"].map codesOf) ∧
      ["ToolOption", "ToolCmd"].Nodup ∧
      ∃ text, deseret.generate { exclude := [] } = .ok text ∧
        ¬ ∃ m, module? text = some m ∧ m.exports = ["𐐀Cmd"].map codesOf := by
  have hplan : (ofFlag "label").plan [] = .ok [planOfFlag "label"] := by decide +kernel
  have hplan' : deseret.plan [] =
      .ok [{ info := { name := "𐐀" }, path := ["𐐀"], base := "𐐀", fields := [] }] := by
    decide +kernel
  have hnames : [planOfFlag "label"].flatMap CommandPlan.names = ["ToolOption", "ToolCmd"] := by decide +kernel
  have hlabel : ∀ p ∈ [planOfFlag "label"], p.Readable ∧ IsBasic p.base := by
    rw [List.forall_mem_singleton]
    refine ⟨⟨?_, ?_⟩, ?_⟩
    · unfold CommandPlan.Clean
      decide +kernel
    · unfold CommandPlan.Assignable
      decide +kernel
    · decide +kernel
  obtain ⟨⟨text, htext, hexports, -⟩, -, -, hnodup, -⟩ := exported_names_agree hplan (by simp)
  obtain ⟨⟨text', htext', hexports', -⟩, -⟩ := exported_names_agree hplan' (by simp)
  rw [hnames] at hexports hnodup
  have hsame : text = textOfFlag "label" := by
    rw [generate, hplan] at htext
    exact (Except.ok.inj htext).symm
  refine ⟨hsame ▸ hexports.mpr hlabel, hnodup, text', htext', fun h => ?_⟩
  have hbasic := (hexports'.mp h _ (List.mem_singleton.mpr rfl)).2
  exact absurd hbasic (by decide +kernel)

end CommandGraph

end CommandWrap
