import CommandWrap.Proofs.TreeData
import CommandWrap.Proofs.ValueTags

/-!
# Which extracted trees are read back

The tree of a parser or of a command is read back from its data exactly if it is a tree with names
(`CommandTree.readBack_iff`).  Every command of an extracted tree has a name, whatever is declared: where none is
given, the name is a word of the program's name, or stands in for the missing one.  So it depends on the options.

An option without a name of its own comes to nothing: its first long name is the two hyphens alone
(`HasLongName names ""`), or its type is the name of what makes the value of a word and that name is empty
(`Borrows ""`).  A tree is read back exactly if no option that gives a flag is of this kind
(`extracted_readBack_iff`).
-/
namespace CommandWrap

namespace CommandTree

theorem isNamed_node_iff {info : CommandInfo} {commands : List CommandTree} :
    (CommandTree.node info commands).IsNamed ↔ info.IsNamed ∧ ∀ c ∈ commands, c.IsNamed :=
  ⟨fun h => by cases h with | node hinfo hcommands => exact ⟨hinfo, hcommands⟩, fun h => .node h.1 h.2⟩

/-- A tree is read back from its own data exactly if it has names. -/
theorem readBack_iff {t : CommandTree} : ofDatum "" t.toDatum = .ok t ↔ t.IsNamed :=
  ⟨TreeReader.named_of_treeOf, fun h => TreeReader.treeOf_datumOf h "" []⟩

end CommandTree

/-- An option has one long name. -/
theorem HasLongName.eq_empty_iff {names : List String} {name : String} (h : HasLongName names name) :
    HasLongName names "" ↔ name = "" := by
  constructor
  · intro hempty
    exact ((String.append_right_inj _).mp (Option.some.inj (hempty.symm.trans h))).symm
  · intro hempty
    exact hempty ▸ h

/-! ## Trees of parsers -/

namespace Parser

/-- **The flag of the option is read back**: it has a name, and so has its type. -/
def Argument.IsReadable (a : Argument) : Prop :=
  a.IsOption → ∀ f, a.IsFlag f → ¬ HasLongName a.names "" ∧ ¬ a.Borrows ""

theorem Argument.outcome_eq_flag_iff {a : Argument} {f : Flag} :
    a.outcome = .flag f ↔ a.IsOption ∧ a.IsFlag f := by
  constructor
  · intro h
    have hbecomes := a.becomes_outcome
    rw [h] at hbecomes
    cases hbecomes with
    | flag option flag => exact ⟨option, flag⟩
  · rintro ⟨⟨hnames, haction⟩, hflag⟩
    have hlong : a.longName? = some f.name := find?_long_eq_some_iff.mpr hflag.long
    rw [Argument.outcome, if_neg (by simp [haction, hnames]), hlong]
    dsimp only
    rw [if_neg (by simp [hflag.action]), ← hflag.type, ← hflag.help]

theorem mem_flagsOf_iff {args : List Argument} {f : Flag} :
    f ∈ flagsOf args ↔ ∃ a ∈ args, a.IsOption ∧ a.IsFlag f := by
  simp only [flagsOf, List.mem_filterMap, ← Argument.outcome_eq_flag_iff]
  refine exists_congr fun a => and_congr_right fun _ => ?_
  cases a.outcome <;> simp

/-- The tag of an option is empty exactly if it is borrowed. -/
theorem Argument.tag_eq_empty_iff {a : Argument} : a.tag = "" ↔ a.Borrows "" := by
  cases hdecides : a.action.decidesTag with
  | true =>
    refine iff_of_false ?_ fun h => Bool.eq_false_iff.mp h.action hdecides
    rw [Argument.tag]
    cases haction : a.action <;> simp [haction, Action.decidesTag] at hdecides ⊢
  | false =>
    by_cases hmany : a.arity = .some ∨ a.arity = .any
    · refine iff_of_false ?_ fun h => hmany.elim h.arity.1 h.arity.2
      rw [Argument.tag]
      cases haction : a.action <;> simp [haction, Action.decidesTag, hmany] at hdecides ⊢
    · rw [Argument.tag_of_single hdecides (not_or.mp hmany)]
      have hborrows : a.Borrows "" ↔ a.type? = some (.named "") :=
        ⟨fun h => h.type, fun h => ⟨hdecides, not_or.mp hmany, h⟩⟩
      rw [hborrows]
      cases a.type? with
      | none => simp
      | some c => cases c <;> simp [Converter.tag]

theorem Argument.IsFlag.isNamed_iff {a : Argument} {f : Flag} (h : a.IsFlag f) :
    f.IsNamed ↔ ¬ HasLongName a.names "" ∧ ¬ a.Borrows "" := by
  rw [Flag.IsNamed, h.type, h.long.eq_empty_iff, ← Argument.tag_eq_empty_iff]

/-- All flags of arguments have names exactly if all flags of arguments are read back. -/
theorem isNamed_flagsOf_iff {args : List Argument} :
    (∀ f ∈ flagsOf args, f.IsNamed) ↔ ∀ a ∈ args, a.IsReadable := by
  simp only [mem_flagsOf_iff, Argument.IsReadable]
  constructor
  · intro h a ha hoption f hflag
    exact hflag.isNamed_iff.mp (h f ⟨a, ha, hoption, hflag⟩)
  · rintro h f ⟨a, ha, hoption, hflag⟩
    exact hflag.isNamed_iff.mpr (h a ha hoption f hflag)

theorem nameOf_ne_empty {info : Info} {name? : Option String} {name : String}
    (h : nameOf info name? = .ok name) : name ≠ "" := by
  rw [nameOf] at h
  split at h
  case h_1 given hgiven =>
    cases h
    have := (Option.filter_eq_some_iff.mp hgiven).2
    simpa using this
  case h_2 =>
    split at h
    case h_1 word hword =>
      cases h
      have hne := (Text.words_spec _ word (List.mem_of_getLast? hword)).1
      intro hempty
      exact hne (by simpa using congrArg String.toList hempty)
    case h_2 => cases h

/-! ### Computations that give a result -/

section Extracted

variable {α β : Type} {before after : List Log.Note}

theorem run_bind_ok {x : Extracted α} {f : α → Extracted β} {b : β}
    (h : (x >>= f).run.run before = (.ok b, after)) :
    ∃ a mid, x.run.run before = (.ok a, mid) ∧ (f a).run.run mid = (.ok b, after) := by
  rw [ExceptT.run_bind, StateT.run_bind] at h
  cases hx : x.run.run before with
  | mk outcome mid =>
    rw [hx] at h
    cases outcome with
    | ok a => exact ⟨a, mid, rfl, h⟩
    | error fault => cases h

theorem run_lift_ok {y : Except ParserError α} {a : α}
    (h : (liftM y : Extracted α).run.run before = (.ok a, after)) : y = .ok a := by
  cases y with
  | ok b => cases h; rfl
  | error fault => cases h

/-- A row of computations gives its results one by one. -/
theorem run_mapM_ok {f : α → Extracted β} {xs : List α} {ys : List β}
    (h : (xs.mapM f).run.run before = (.ok ys, after)) :
    List.Forall₂ (fun x y => ∃ before after, (f x).run.run before = (.ok y, after)) xs ys := by
  induction xs generalizing before ys with
  | nil =>
    rw [List.mapM_nil] at h
    cases h
    exact .nil
  | cons x xs ih =>
    rw [List.mapM_cons] at h
    obtain ⟨y, mid, hx, h⟩ := run_bind_ok h
    obtain ⟨rest, mid', hxs, h⟩ := run_bind_ok h
    cases h
    exact .cons ⟨before, mid, hx⟩ (ih hxs)

end Extracted

theorem mem_allArgumentsIn_iff {a : Argument} {subcommands : List (SubcommandName × Parser)} :
    a ∈ allArgumentsIn subcommands ↔ ∃ x ∈ subcommands, a ∈ x.2.allArguments := by
  induction subcommands with
  | nil => simp [allArgumentsIn]
  | cons x subcommands ih => simp [allArgumentsIn, ih]

/-- **The tree of a parser has names** exactly if the flags of all its options are read back. -/
theorem isNamed_extract_iff (p : Parser) : ∀ {name? short? : Option String} {before after : List Log.Note}
    {t : CommandTree}, (extract p name? short?).run.run before = (.ok t, after) →
    (t.IsNamed ↔ ∀ a ∈ p.allArguments, a.IsReadable) := by
  induction p using Parser.induction with
  | node info subcommands ih =>
  intro name? short? before after t h
  -- the name, the warnings before the choice, the subcommands, the other warnings, the usage line
  rw [extract, firstMet_table (by simp), List.mapM_map] at h
  obtain ⟨name, _, hname, h⟩ := run_bind_ok h
  obtain ⟨_, _, -, h⟩ := run_bind_ok h
  obtain ⟨trees, _, htrees, h⟩ := run_bind_ok h
  obtain ⟨_, _, -, h⟩ := run_bind_ok h
  obtain ⟨usage, _, -, h⟩ := run_bind_ok h
  cases h
  have hrow := run_mapM_ok htrees
  have hbelow : (∀ c ∈ trees, c.IsNamed) ↔ ∀ x ∈ subcommands, ∀ a ∈ x.2.allArguments, a.IsReadable := by
    constructor
    · intro hnamed x hx
      obtain ⟨c, hc, _, _, hrun⟩ := exists_right_of_mem hrow hx
      exact (ih x hx hrun).mp (hnamed c hc)
    · intro hreadable c hc
      obtain ⟨x, hx, _, _, hrun⟩ := exists_left_of_mem hrow hc
      exact (ih x hx hrun).mpr (hreadable x hx)
  have hinfo := @isNamed_flagsOf_iff info.arguments
  rw [CommandTree.isNamed_node_iff, CommandInfo.IsNamed, hinfo, hbelow, allArguments]
  simp only [List.forall_mem_append, nameOf_ne_empty (run_lift_ok hname), ne_eq, not_false_eq_true, true_and,
    mem_allArgumentsIn_iff]
  refine and_congr_right fun _ => ⟨?_, fun h x hx a ha => h a ⟨x, hx, ha⟩⟩
  rintro h a ⟨x, hx, ha⟩
  exact h x hx a ha

end Parser

/-! ## Trees of groups -/

namespace Group

/-- **The flag of the option is read back**: it has a name, and so has its type. -/
def OptionInfo.IsReadable (o : OptionInfo) : Prop :=
  o.name ≠ "help" → ∀ f, o.IsFlag f → ¬ HasLongName o.names "" ∧ ¬ o.Borrows ""

/-- The tag of an option is empty exactly if it is borrowed. -/
theorem OptionInfo.tag_eq_empty_iff {o : OptionInfo} : o.tag = "" ↔ o.Borrows "" := by
  by_cases hother : o.isMany = true ∨ o.isCounted = true ∨ o.isFlag = true
  · have hno : ¬ o.Borrows "" := by
      intro h
      simp [h.many, h.counted, h.flag] at hother
    refine iff_of_false ?_ hno
    rw [OptionInfo.tag]
    cases o.type <;> simp <;> grind
  · simp only [not_or, Bool.not_eq_true] at hother
    have hborrows : o.Borrows "" ↔ o.type = .converted "" :=
      ⟨fun h => h.type, fun h => ⟨hother.1, hother.2.1, hother.2.2, h⟩⟩
    rw [hborrows, OptionInfo.tag, hother.1, hother.2.1, hother.2.2]
    cases o.type <;> simp [ParameterType.title]

theorem OptionInfo.IsFlag.isNamed_iff {o : OptionInfo} {f : Flag} (h : o.IsFlag f) :
    f.IsNamed ↔ ¬ HasLongName o.names "" ∧ ¬ o.Borrows "" := by
  rw [Flag.IsNamed, h.type, h.long.eq_empty_iff, ← OptionInfo.tag_eq_empty_iff]

/-- An option has one flag. -/
theorem OptionInfo.IsFlag.unique {o : OptionInfo} {f g : Flag} (hf : o.IsFlag f) (hg : o.IsFlag g) : g = f := by
  obtain ⟨name, type, help⟩ := f
  obtain ⟨name', type', help'⟩ := g
  have hname : name' = name := (String.append_right_inj _).mp (Option.some.inj (hg.long.symm.trans hf.long))
  have htype : type' = type := hg.type.trans hf.type.symm
  have hhelp : help' = help := hg.help.trans hf.help.symm
  rw [hname, htype, hhelp]

/-- All flags of a command have names exactly if the flags of its options are read back. -/
theorem isNamed_flags_iff {path : String} {options : List OptionInfo} {flags : List Flag} {notes : List Log.Note}
    (h : Accounts (account (!·.showsHelp) path) options flags notes) :
    (∀ f ∈ flags, f.IsNamed) ↔ ∀ o ∈ options, o.IsReadable := by
  constructor
  · intro hnamed o ho hhelp f hflag
    have hdue : (!o.showsHelp) = true := by simpa [OptionInfo.showsHelp] using hhelp
    refine hflag.isNamed_iff.mp (hnamed f (h.mem_flags ho ?_ ?_ ?_))
    · intro hsilent
      exact Bool.eq_false_iff.mp hsilent hdue
    · intro g hg
      exact hflag.unique hg.2
    · intro note hleft
      have hshort := hleft.2.short _ hflag.long.mem
      simp at hshort
  · intro hreadable f hf
    obtain ⟨o, ho, hdue, hflag⟩ := h.exists_of_mem_flags hf
    exact hflag.isNamed_iff.mpr (hreadable o ho (by simpa [OptionInfo.showsHelp] using hdue) f hflag)

theorem nameOf_ne_empty (info : Info) (name? : Option String) : nameOf info name? ≠ "" := by
  have hfiltered {given? : Option String} {name : String} (h : given?.filter (· != "") = some name) : name ≠ "" := by
    simpa using (Option.filter_eq_some_iff.mp h).2
  rw [nameOf]
  cases hgiven : name?.filter (· != "") with
  | some name => exact hfiltered hgiven
  | none =>
    cases hown : info.name?.filter (· != "") with
    | some name => exact hfiltered hown
    | none => decide

mutual

theorem Accounted.isNamed_iff : ∀ {path : String → String} {name? : Option String} {c : Command}
    {t : CommandTree} {notes : List Log.Note}, Accounted (!·.showsHelp) path name? c t notes →
    (t.IsNamed ↔ ∀ o ∈ reachedOptions c, o.IsReadable)
  | _, _, _, _, _, .node name_eq options below => by
    rw [CommandTree.isNamed_node_iff, CommandInfo.IsNamed, isNamed_flags_iff options, below.isNamed_iff,
      reachedOptions_eq, List.forall_mem_append, name_eq]
    simp only [ne_eq, nameOf_ne_empty, not_false_eq_true, true_and]

theorem AccountedAll.isNamed_iff : ∀ {path : String → String} {commands : List Command}
    {trees : List CommandTree} {notes : List Log.Note},
    AccountedAll (!·.showsHelp) path commands trees notes →
    ((∀ t ∈ trees, t.IsNamed) ↔ ∀ o ∈ reachedOptionsAll commands, o.IsReadable)
  | _, _, _, _, .nil => by simp [reachedOptionsAll]
  | _, _, _, _, .hidden here rest => by
    rw [reachedOptionsAll, if_pos here]
    exact rest.isNamed_iff
  | _, _, _, _, .shown shown here rest => by
    rw [reachedOptionsAll, if_neg (by simp [shown]), List.forall_mem_append, List.forall_mem_cons, here.isNamed_iff,
      rest.isNamed_iff]

end

end Group

/-- **An extracted tree is read back from its data** exactly if every option that gives a flag has a name of its own
and does not borrow an empty tag. -/
theorem extracted_readBack_iff (p : Parser) (c : Group.Command) (name? short? : Option String) :
    (∀ (t : CommandTree) (notes : List Log.Note), p.tree name? short? = (.ok t, notes) →
      (CommandTree.ofDatum "" t.toDatum = .ok t ↔ ∀ a ∈ p.allArguments, a.IsReadable)) ∧
    (CommandTree.ofDatum "" (c.tree name?).1.toDatum = .ok (c.tree name?).1 ↔
      ∀ o ∈ Group.reachedOptions c, o.IsReadable) := by
  constructor
  · intro t notes htree
    exact CommandTree.readBack_iff.trans (Parser.isNamed_extract_iff p htree)
  · exact CommandTree.readBack_iff.trans (Group.accounted_tree name? c).isNamed_iff

/-- A program with one option. -/
def Parser.withOption (names : List String) (type? : Option Parser.Converter) : Parser :=
  .node
    { prog := "t", description? := none, usage? := none, signs := "-", groups := []
      arguments := [{ names, dest := "x", action := .store, type? }] }
    []

/-- A named option is read back, but neither one of two hyphens alone nor one whose type has an empty name. -/
theorem extracted_readBack_withOption :
    (∃ t notes, (Parser.withOption ["--x"] none).tree none none = (.ok t, notes) ∧
      CommandTree.ofDatum "" t.toDatum = .ok t) ∧
    (∃ t notes, (Parser.withOption ["--"] none).tree none none = (.ok t, notes) ∧
      CommandTree.ofDatum "" t.toDatum ≠ .ok t) ∧
    ∃ t notes, (Parser.withOption ["--x"] (some (.named ""))).tree none none = (.ok t, notes) ∧
      CommandTree.ofDatum "" t.toDatum ≠ .ok t := by
  have htree (names : List String) (type? : Option Parser.Converter)
      (h : ((Parser.withOption names type?).tree none none).1.toOption.isSome) :
      ∃ t notes, (Parser.withOption names type?).tree none none = (.ok t, notes) := by
    obtain ⟨t, ht⟩ := Option.isSome_iff_exists.mp h
    exact ⟨t, _, Prod.ext (toOption_eq_some_iff.mp ht) rfl⟩
  obtain ⟨t₁, notes₁, h₁⟩ := htree ["--x"] none (by decide +kernel)
  obtain ⟨t₂, notes₂, h₂⟩ := htree ["--"] none (by decide +kernel)
  obtain ⟨t₃, notes₃, h₃⟩ := htree ["--x"] (some (.named "")) (by decide +kernel)
  have hsame (p : Parser) := (extracted_readBack_iff p (.node {} [] none []) none none).1
  refine ⟨⟨t₁, notes₁, h₁, (hsame _ _ _ h₁).mpr ?_⟩, ⟨t₂, notes₂, h₂, mt (hsame _ _ _ h₂).mp ?_⟩,
    t₃, notes₃, h₃, mt (hsame _ _ _ h₃).mp ?_⟩
  · intro a ha _ f _
    rw [List.mem_singleton.mp ha]
    exact ⟨by decide +kernel, fun h => nomatch h.type⟩
  · intro h
    have := h _ (List.mem_singleton_self _) (by decide) { name := "" } ⟨by decide +kernel, by decide, rfl, rfl⟩
    exact this.1 (by decide +kernel)
  · intro h
    have := h _ (List.mem_singleton_self _) (by decide) { name := "x", type := "" } ⟨by decide +kernel, by decide, rfl, rfl⟩
    exact this.2 ⟨rfl, by decide, rfl⟩

/-- The two hyphens alone are the name of an option whose place is given. -/
example : (({ names := ["--"], settings := [("dest", .text "x")] } : Parser.ArgumentDraft).build "-").toOption.map
    (·.names) = some ["--"] := by
  decide +kernel

end CommandWrap
