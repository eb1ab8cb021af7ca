import CommandWrap.Group.Tree
import CommandWrap.Proofs.Accounts
import CommandWrap.Proofs.Outcomes

/-!
# Which options of a group are accounted for

An option of a command gives a flag (`OptionInfo.IsFlag`) or, without a long name, a warning
(`OptionInfo.IsLeftOut`).  A tree and its warnings account for a command when they do so for its options, in
order, and for its subcommands, in order and without the hidden ones (`Accounted`).  Which options are to be
accounted for is a parameter: the others give nothing.

The tree of a command accounts for all options but those whose value has the name of the help option
(`accounted_tree`).  So it accounts for all of them exactly if no command that is reached without passing through
a hidden one declares an option of that name (`accounted_tree_iff`); otherwise there are fewer flags and warnings
than options (`Accounted.length_add_length`).

The subcommands of a declared command stand in the order of their names, and the visit is in this order
(`ordered_ofDraft`).
-/
namespace CommandWrap.Group

/-! ## What options give -/

/-- **The flag of an option.** -/
structure OptionInfo.IsFlag (o : OptionInfo) (f : Flag) : Prop where
  long : HasLongName o.names f.name
  type : f.type = o.tag
  help : f.help = o.help?.getD ""

/-- **The warning about an option that is left out**: it has no long name. -/
structure OptionInfo.IsLeftOut (path : String) (o : OptionInfo) (note : Log.Note) : Prop where
  short : ∀ name ∈ o.names, name.startsWith "--" = false
  note : note =
    ⟨.warning, logger, path ++ ": skipping " ++ Text.quotedList o.names ++ " without a long option"⟩

/-- **What the options of the command with the path give**, if they are to be accounted for. -/
def account (due : OptionInfo → Bool) (path : String) : Account OptionInfo where
  Silent o := due o = false
  Gives o f := due o = true ∧ o.IsFlag f
  LeavesOut o note := due o = true ∧ o.IsLeftOut path note

theorem OptionInfo.gives_or_leavesOut (path : String) (o : OptionInfo) :
    (∃ f, o.IsFlag f ∧ o.flag? = some f ∧ o.warning? path = none) ∨
      ∃ note, o.IsLeftOut path note ∧ o.flag? = none ∧ o.warning? path = some note := by
  cases hlong : o.longName? with
  | some name =>
    have hflag : o.flag? = some { name, type := o.tag, help := o.help?.getD "" } := by
      rw [OptionInfo.flag?, hlong]
      rfl
    have hname : HasLongName o.names name := find?_long_eq_some_iff.mp hlong
    exact .inl ⟨_, ⟨hname, rfl, rfl⟩, hflag, by simp [OptionInfo.warning?, hlong]⟩
  | none =>
    have hflag : o.flag? = none := by rw [OptionInfo.flag?, hlong]; rfl
    exact .inr ⟨_, ⟨find?_long_eq_none_iff.mp hlong, rfl⟩, hflag, by simp [OptionInfo.warning?, hlong]⟩

/-- The flags and the warnings of a command are what its options give that do not show the help. -/
theorem accounts_candidates (path : String) (c : Command) :
    Accounts (account (!·.showsHelp) path) c.options (c.candidates.filterMap OptionInfo.flag?)
      (c.candidates.filterMap (OptionInfo.warning? path)) := by
  rw [Command.candidates, List.filterMap_filter, List.filterMap_filter]
  apply Accounts.of_filterMap
  intro o
  cases hdue : !o.showsHelp with
  | false => exact .inl ⟨hdue, rfl, rfl⟩
  | true =>
    rcases o.gives_or_leavesOut path with ⟨f, hf, hflag, hnote⟩ | ⟨note, hleft, hflag, hnote⟩
    · exact .inr (.inl ⟨f, ⟨hdue, hf⟩, hflag, hnote⟩)
    · exact .inr (.inr ⟨note, ⟨hdue, hleft⟩, hflag, hnote⟩)

/-! ## What commands give -/

mutual

/-- **The tree and the warnings account for the command** with the given name: for its options in order, and for
its subcommands. -/
inductive Accounted (due : OptionInfo → Bool) :
    (String → String) → Option String → Command → CommandTree → List Log.Note → Prop
  | node {path : String → String} {name? : Option String} {c : Command} {command : CommandInfo}
      {trees : List CommandTree} {notes inner : List Log.Note}
      (name_eq : command.name = nameOf c.info name?)
      (options : Accounts (account due (path command.name)) c.options command.flags notes)
      (below : AccountedAll due (pathBelow (path command.name) c) c.commands trees inner) :
      Accounted due path name? c (.node command trees) (notes ++ inner)

/-- The trees and the warnings account for the subcommands that are not hidden, one by one. -/
inductive AccountedAll (due : OptionInfo → Bool) :
    (String → String) → List Command → List CommandTree → List Log.Note → Prop
  | nil {path : String → String} : AccountedAll due path [] [] []
  | hidden {path : String → String} {c : Command} {commands : List Command} {trees : List CommandTree}
      {notes : List Log.Note} (here : c.info.isHidden = true)
      (rest : AccountedAll due path commands trees notes) :
      AccountedAll due path (c :: commands) trees notes
  | shown {path : String → String} {c : Command} {commands : List Command} {t : CommandTree}
      {trees : List CommandTree} {notes notes' : List Log.Note} (shown : c.info.isHidden = false)
      (here : Accounted due path c.info.name? c t notes)
      (rest : AccountedAll due path commands trees notes') :
      AccountedAll due path (c :: commands) (t :: trees) (notes ++ notes')

end

/-- The command is reached from the first one without passing through a hidden one. -/
inductive Reached : Command → Command → Prop
  | here (c : Command) : Reached c c
  | through {c d q : Command} (mem : d ∈ c.commands) (shown : d.info.isHidden = false) (rest : Reached d q) :
      Reached c q

mutual

/-- The visit of a command accounts for its options but those that show the help. -/
theorem exists_logs_extract (path : String → String) (name? : Option String) : ∀ c : Command,
    ∃ t notes, Logs (extract path name? c) t notes ∧ Accounted (!·.showsHelp) path name? c t notes
  | .node info parameters choice? commands => by
    rw [extract]
    obtain ⟨trees, inner, hlogs, hbelow⟩ := exists_logs_extractAll
      (pathBelow (path (nameOf info name?)) (.node info parameters choice? commands)) commands
    refine ⟨_, _, (Logs.modify _).bind (hlogs.bind (.pure _)), ?_⟩
    rw [List.append_nil]
    exact .node rfl (accounts_candidates _ _) hbelow

theorem exists_logs_extractAll (path : String → String) : ∀ commands : List Command,
    ∃ trees notes, Logs (extractAll path commands) trees notes ∧
      AccountedAll (!·.showsHelp) path commands trees notes
  | [] => by
    rw [extractAll]
    exact ⟨_, _, .pure _, .nil⟩
  | c :: commands => by
    obtain ⟨trees, notes, hrest, hall⟩ := exists_logs_extractAll path commands
    rw [extractAll]
    by_cases hhidden : c.info.isHidden
    · rw [if_pos hhidden]
      exact ⟨trees, notes, hrest, .hidden hhidden hall⟩
    · rw [if_neg hhidden]
      obtain ⟨t, notes', hhere, hone⟩ := exists_logs_extract path c.info.name? c
      refine ⟨_, _, hhere.bind (hrest.bind (.pure _)), ?_⟩
      rw [List.append_nil]
      exact .shown (Bool.eq_false_iff.mpr hhidden) hone hall

end

/-- The tree of a command accounts for its options but those that show the help. -/
theorem accounted_tree (name? : Option String) (c : Command) :
    Accounted (!·.showsHelp) rootPath name? c (c.tree name?).1 (c.tree name?).2 := by
  obtain ⟨t, notes, hlogs, haccounted⟩ := exists_logs_extract rootPath name? c
  have htree : c.tree name? = (t, notes) := hlogs []
  rw [htree]
  exact haccounted

/-! ## The options that are reached -/

mutual

/-- The options of the command and of the commands that are reached from it, in the order of the visit. -/
def reachedOptions : Command → List OptionInfo
  | .node info parameters choice? commands =>
    (Command.node info parameters choice? commands).options ++ reachedOptionsAll commands

/-- The options of commands that are not hidden and of those that are reached from them. -/
def reachedOptionsAll : List Command → List OptionInfo
  | [] => []
  | c :: commands => (if c.info.isHidden then [] else reachedOptions c) ++ reachedOptionsAll commands

end

theorem reachedOptions_eq (c : Command) :
    reachedOptions c = c.options ++ reachedOptionsAll c.commands := by
  cases c
  rw [reachedOptions, Command.commands]

theorem mem_reachedOptionsAll {o : OptionInfo} {commands : List Command} {c : Command} (mem : c ∈ commands)
    (shown : c.info.isHidden = false) (ho : o ∈ reachedOptions c) : o ∈ reachedOptionsAll commands := by
  induction commands with
  | nil => cases mem
  | cons d commands ih =>
    rw [reachedOptionsAll]
    rcases List.mem_cons.mp mem with rfl | mem
    · rw [if_neg (by simp [shown])]
      exact List.mem_append_left _ ho
    · exact List.mem_append_right _ (ih mem)

mutual

theorem exists_reached_of_mem {o : OptionInfo} : ∀ c : Command, o ∈ reachedOptions c →
    ∃ q, Reached c q ∧ o ∈ q.options
  | .node info parameters choice? commands, ho => by
    rw [reachedOptions, List.mem_append] at ho
    rcases ho with ho | ho
    · exact ⟨_, .here _, ho⟩
    · obtain ⟨c, mem, shown, q, hreached, hq⟩ := exists_reached_of_mem_all commands ho
      exact ⟨q, .through mem shown hreached, hq⟩

theorem exists_reached_of_mem_all {o : OptionInfo} : ∀ commands : List Command,
    o ∈ reachedOptionsAll commands →
    ∃ c ∈ commands, c.info.isHidden = false ∧ ∃ q, Reached c q ∧ o ∈ q.options
  | [], ho => by
    rw [reachedOptionsAll] at ho
    cases ho
  | c :: commands, ho => by
    rw [reachedOptionsAll, List.mem_append] at ho
    rcases ho with ho | ho
    · by_cases hidden : c.info.isHidden
      · rw [if_pos hidden] at ho
        cases ho
      · rw [if_neg hidden] at ho
        exact ⟨c, List.mem_cons_self .., Bool.eq_false_iff.mpr hidden, exists_reached_of_mem c ho⟩
    · obtain ⟨d, mem, hd⟩ := exists_reached_of_mem_all commands ho
      exact ⟨d, List.mem_cons_of_mem _ mem, hd⟩

end

/-- The options that are reached are those of the commands that are. -/
theorem mem_reachedOptions_iff {o : OptionInfo} {c : Command} :
    o ∈ reachedOptions c ↔ ∃ q, Reached c q ∧ o ∈ q.options := by
  constructor
  · exact exists_reached_of_mem c
  · rintro ⟨q, hreached, ho⟩
    induction hreached with
    | here c =>
      rw [reachedOptions_eq]
      exact List.mem_append_left _ ho
    | through mem shown _ ih =>
      rw [reachedOptions_eq]
      exact List.mem_append_right _ (mem_reachedOptionsAll mem shown (ih ho))

/-! ## All flags -/

section

variable {due due' : OptionInfo → Bool}

mutual

/-- A tree and warnings that account for options have together as many flags and warnings as there are of
them. -/
theorem Accounted.length_add_length : ∀ {path : String → String} {name? : Option String} {c : Command}
    {t : CommandTree} {notes : List Log.Note}, Accounted due path name? c t notes →
    t.allFlags.length + notes.length = (reachedOptions c).countP due
  | _, _, _, _, _, .node (c := c) _ options below => by
    have hhere := options.length_add_length (fun _ h => h) (fun _ _ h => h.1) fun _ _ h => h.1
    have hbelow := below.length_add_length
    rw [CommandTree.allFlags, reachedOptions_eq, List.countP_append]
    simp only [List.length_append]
    omega

theorem AccountedAll.length_add_length : ∀ {path : String → String} {commands : List Command}
    {trees : List CommandTree} {notes : List Log.Note}, AccountedAll due path commands trees notes →
    (CommandTree.allFlagsIn trees).length + notes.length = (reachedOptionsAll commands).countP due
  | _, _, _, _, .nil => rfl
  | _, _, _, _, .hidden here rest => by
    rw [reachedOptionsAll, if_pos here]
    exact rest.length_add_length
  | _, _, _, _, .shown shown here rest => by
    have hhere := here.length_add_length
    have hrest := rest.length_add_length
    rw [reachedOptionsAll, if_neg (by simp [shown]), CommandTree.allFlagsIn, List.countP_append]
    simp only [List.length_append]
    omega

end

mutual

/-- Every flag of a tree that accounts for a command is the one of an option that is reached. -/
theorem Accounted.exists_of_mem_allFlags {f : Flag} : ∀ {path : String → String} {name? : Option String}
    {c : Command} {t : CommandTree} {notes : List Log.Note}, Accounted due path name? c t notes →
    f ∈ t.allFlags → ∃ o ∈ reachedOptions c, due o = true ∧ o.IsFlag f
  | _, _, _, _, _, .node _ options below, hf => by
    rw [CommandTree.allFlags, List.mem_append] at hf
    rw [reachedOptions_eq]
    rcases hf with hf | hf
    · obtain ⟨o, ho, hflag⟩ := options.exists_of_mem_flags hf
      exact ⟨o, List.mem_append_left _ ho, hflag⟩
    · obtain ⟨o, ho, hflag⟩ := below.exists_of_mem_allFlags hf
      exact ⟨o, List.mem_append_right _ ho, hflag⟩

theorem AccountedAll.exists_of_mem_allFlags {f : Flag} : ∀ {path : String → String} {commands : List Command}
    {trees : List CommandTree} {notes : List Log.Note}, AccountedAll due path commands trees notes →
    f ∈ CommandTree.allFlagsIn trees → ∃ o ∈ reachedOptionsAll commands, due o = true ∧ o.IsFlag f
  | _, _, _, _, .nil, hf => by
    rw [CommandTree.allFlagsIn] at hf
    cases hf
  | _, _, _, _, .hidden here rest, hf => by
    rw [reachedOptionsAll, if_pos here]
    exact rest.exists_of_mem_allFlags hf
  | _, _, _, _, .shown shown here rest, hf => by
    rw [CommandTree.allFlagsIn, List.mem_append] at hf
    rw [reachedOptionsAll, if_neg (by simp [shown])]
    rcases hf with hf | hf
    · obtain ⟨o, ho, hflag⟩ := here.exists_of_mem_allFlags hf
      exact ⟨o, List.mem_append_left _ ho, hflag⟩
    · obtain ⟨o, ho, hflag⟩ := rest.exists_of_mem_allFlags hf
      exact ⟨o, List.mem_append_right _ ho, hflag⟩

end

mutual

/-- What accounts for options does so too where the same of those that are reached are to be accounted for. -/
theorem Accounted.congr : ∀ {path : String → String} {name? : Option String} {c : Command} {t : CommandTree}
    {notes : List Log.Note}, Accounted due path name? c t notes → (∀ o ∈ reachedOptions c, due o = due' o) →
    Accounted due' path name? c t notes
  | _, _, _, _, _, .node name_eq options below, h => by
    rw [reachedOptions_eq, List.forall_mem_append] at h
    refine .node name_eq (options.imp ?_ ?_ ?_) (below.congr h.2)
    · intro o ho hsilent
      exact (h.1 o ho).symm.trans hsilent
    · rintro o ho f ⟨hdue, hf⟩
      exact ⟨(h.1 o ho).symm.trans hdue, hf⟩
    · rintro o ho note ⟨hdue, hleft⟩
      exact ⟨(h.1 o ho).symm.trans hdue, hleft⟩

theorem AccountedAll.congr : ∀ {path : String → String} {commands : List Command} {trees : List CommandTree}
    {notes : List Log.Note}, AccountedAll due path commands trees notes →
    (∀ o ∈ reachedOptionsAll commands, due o = due' o) → AccountedAll due' path commands trees notes
  | _, _, _, _, .nil, _ => .nil
  | _, _, _, _, .hidden here rest, h => by
    rw [reachedOptionsAll, List.forall_mem_append] at h
    exact .hidden here (rest.congr h.2)
  | _, _, _, _, .shown shown here rest, h => by
    rw [reachedOptionsAll, if_neg (by simp [shown]), List.forall_mem_append] at h
    exact .shown shown (here.congr h.1) (rest.congr h.2)

end

end

/-- **Every option of a command and of the commands reached from it is accounted for** by its tree exactly if
none of them has a value with the name of the help option. -/
theorem accounted_tree_iff (name? : Option String) (c : Command) :
    Accounted (fun _ => true) rootPath name? c (c.tree name?).1 (c.tree name?).2 ↔
      ∀ q, Reached c q → ∀ o ∈ q.options, o.name ≠ "help" := by
  have haccounted := accounted_tree name? c
  constructor
  -- if all options gave something, they would be as many as those that do not show the help
  · intro hall q hreached o ho hname
    have hcount : (reachedOptions c).countP (!·.showsHelp) = (reachedOptions c).length := by
      rw [← haccounted.length_add_length, hall.length_add_length, List.countP_true]
    have hdue := List.countP_eq_length.mp hcount o (mem_reachedOptions_iff.mpr ⟨q, hreached, ho⟩)
    simp [OptionInfo.showsHelp, hname] at hdue
  · intro h
    refine haccounted.congr fun o ho => ?_
    obtain ⟨q, hreached, hq⟩ := mem_reachedOptions_iff.mp ho
    simpa [OptionInfo.showsHelp] using h q hreached o hq

/-- A command with the option `--topic`, whose value has the given name. -/
def topical (name : String) : Command :=
  .node { name? := some "t" } [.option { name, names := ["--topic"] }] none []

/-- The option `--topic` is accounted for, but not if its value has the name of the help option. -/
theorem accounted_tree_topical :
    Accounted (fun _ => true) rootPath none (topical "topic") ((topical "topic").tree none).1
        ((topical "topic").tree none).2 ∧
      ¬ Accounted (fun _ => true) rootPath none (topical "help") ((topical "help").tree none).1
        ((topical "help").tree none).2 := by
  constructor
  · refine (accounted_tree_iff none (topical "topic")).mpr fun q hreached o ho => ?_
    cases hreached with
    | here =>
      rw [List.mem_singleton.mp ho]
      decide
    | through mem => cases mem
  · intro h
    exact (accounted_tree_iff none (topical "help")).mp h _ (.here _) _ (List.mem_singleton_self _) rfl

/-! ## Declared commands -/

/-- The name under which a group keeps the command; a missing one is empty. -/
def Command.key (c : Command) : String :=
  c.info.name?.getD ""

/-- **The subcommands stand in the order of their names**, which are different, and so do those below them. -/
inductive Ordered : Command → Prop
  | node {info : Info} {parameters : List Parameter} {choice? : Option Choice} {commands : List Command}
      (here : commands.Pairwise fun a b => a.key < b.key) (rest : ∀ c ∈ commands, Ordered c) :
      Ordered (.node info parameters choice? commands)

theorem lastOfEach_subset (commands : List Command) : ∀ c ∈ lastOfEach commands, c ∈ commands := by
  induction commands with
  | nil => simp [lastOfEach]
  | cons d commands ih =>
    intro c hc
    rw [lastOfEach] at hc
    split at hc
    · exact List.mem_cons_of_mem _ (ih c hc)
    · rcases List.mem_cons.mp hc with rfl | hc
      · exact List.mem_cons_self ..
      · exact List.mem_cons_of_mem _ (ih c hc)

theorem pairwise_lastOfEach (commands : List Command) :
    (lastOfEach commands).Pairwise fun a b => a.info.name? ≠ b.info.name? := by
  induction commands with
  | nil => simp [lastOfEach]
  | cons c commands ih =>
    rw [lastOfEach]
    split
    · exact ih
    · rename_i hnew
      refine List.pairwise_cons.mpr ⟨fun d hd heq => hnew ?_, ih⟩
      rw [List.any_eq_true]
      exact ⟨d, lastOfEach_subset commands d hd, by rw [heq]; exact beq_self_eq_true _⟩

theorem name_eq_of_key_eq {a b : Command} (ha : a.info.name?.isSome) (hb : b.info.name?.isSome)
    (h : a.key = b.key) : a.info.name? = b.info.name? := by
  obtain ⟨name, hname⟩ := Option.isSome_iff_exists.mp ha
  obtain ⟨name', hname'⟩ := Option.isSome_iff_exists.mp hb
  rw [Command.key, Command.key, hname, hname'] at h
  rw [hname, hname']
  exact congrArg some h

/-- Commands are put in the order of their names, and only the last of each name is kept. -/
theorem sorted_spec {commands cs : List Command} (h : sorted commands = .ok cs) :
    (∀ c ∈ cs, c ∈ commands) ∧ cs.Pairwise fun a b => a.key < b.key := by
  have hsubset := lastOfEach_subset commands
  have hdifferent := pairwise_lastOfEach commands
  rw [sorted] at h
  generalize lastOfEach commands = kept at h hsubset hdifferent
  match kept with
  | [] =>
    cases h
    exact ⟨hsubset, .nil⟩
  | [c] =>
    cases h
    exact ⟨hsubset, List.pairwise_singleton ..⟩
  | first :: second :: rest =>
    simp only at h
    split at h
    case isFalse => split at h <;> cases h
    case isTrue hnamed =>
      cases h
      -- merge sort gives the weak order, and the names of the kept commands differ
      have htrans (a b c : Command) (hab : decide (a.key ≤ b.key) = true) (hbc : decide (b.key ≤ c.key) = true) :
          decide (a.key ≤ c.key) = true :=
        decide_eq_true (String.le_trans (of_decide_eq_true hab) (of_decide_eq_true hbc))
      have htotal (a b : Command) : (decide (a.key ≤ b.key) || decide (b.key ≤ a.key)) = true := by
        simpa using String.le_total a.key b.key
      have hle := List.pairwise_mergeSort htrans htotal (first :: second :: rest)
      have hperm := List.mergeSort_perm (first :: second :: rest) fun a b => decide (a.key ≤ b.key)
      have hne := (hperm.pairwise_iff fun hab => Ne.symm hab).mpr hdifferent
      refine ⟨fun c hc => hsubset c (hperm.mem_iff.mp hc), (hle.and hne).imp_of_mem ?_⟩
      rintro a b ha hb ⟨hab, hname⟩
      have hkeys : a.key ≠ b.key := fun heq => hname (name_eq_of_key_eq
        (List.all_eq_true.mp hnamed a (hperm.mem_iff.mp ha)) (List.all_eq_true.mp hnamed b (hperm.mem_iff.mp hb)) heq)
      exact Decidable.byContradiction fun hlt =>
        hkeys (String.le_antisymm (of_decide_eq_true hab) (String.not_lt.mp hlt))

mutual

/-- **The subcommands of a declared command** stand in the order of their names. -/
theorem ordered_ofDraft : ∀ (draft : Draft) {c : Command}, Command.ofDraft draft = .ok c → Ordered c
  | .node info drafts choice? commands, c, h => by
    rw [Command.ofDraft] at h
    obtain ⟨parameters, -, h⟩ := bind_eq_ok_iff.mp h
    obtain ⟨declared, hdeclared, h⟩ := bind_eq_ok_iff.mp h
    obtain ⟨cs, hcs, h⟩ := bind_eq_ok_iff.mp h
    obtain ⟨-, -, h⟩ := bind_eq_ok_iff.mp h
    obtain ⟨hsubset, horder⟩ := sorted_spec hcs
    have hnode : Ordered (.node info parameters choice? cs) :=
      .node horder fun d hd => ordered_ofDrafts commands hdeclared d (hsubset d hd)
    dsimp only at h
    split at h
    · cases h
    · cases h
      exact hnode

theorem ordered_ofDrafts : ∀ (drafts : List Draft) {cs : List Command},
    Command.ofDrafts drafts = .ok cs → ∀ c ∈ cs, Ordered c
  | [], cs, h => by
    rw [Command.ofDrafts] at h
    cases h
    simp
  | d :: rest, cs, h => by
    rw [Command.ofDrafts] at h
    obtain ⟨c, hc, h⟩ := bind_eq_ok_iff.mp h
    obtain ⟨cs, hcs, h⟩ := bind_eq_ok_iff.mp h
    cases h
    rw [List.forall_mem_cons]
    exact ⟨ordered_ofDraft d hc, ordered_ofDrafts rest hcs⟩

end

end CommandWrap.Group
