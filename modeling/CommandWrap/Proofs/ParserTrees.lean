import CommandWrap.Parser.Tree
import CommandWrap.Proofs.Accounts
import CommandWrap.Proofs.Outcomes
import Mathlib.Data.List.Pairwise

/-!
# Every option of a parser is accounted for

An option of a parser gives a flag (`Argument.IsFlag`) or is left out with a warning (`Argument.LeftOut`); a
positional argument and an option that shows the help give nothing.  A tree and its warnings **account for** a
parser (`Accounted`) when they do so for its arguments and, where the choice of a subcommand stands among these,
for its subcommands: one command for each of them, in order and under its own name.

A subcommand stands in the table under all its names.  Only the first of them is visited, since the others lead
to a parser that was met before (`firstMet_table`).  How a visit ends is put together from its steps (`Ends`):
each of them may end with a fault, and then the visit does.

The tree of a parser is there and accounts for it exactly if every parser in it can be described
(`tree_accounts_iff`): a name is given for it or its program has one that is not blank, and its usage line can
be written (`Info.IsDescribable`).
-/
namespace CommandWrap

/-- What holds of a parser as soon as it holds of the parsers of its subcommands holds of every parser. -/
theorem Parser.induction {motive : Parser → Prop}
    (node : ∀ info subcommands, (∀ x ∈ subcommands, motive x.2) → motive (.node info subcommands)) :
    ∀ p, motive p
  | .node info subcommands => node info subcommands fun x hx =>
    have hlt : sizeOf x.2 < sizeOf (Parser.node info subcommands) := by
      have := List.sizeOf_lt_of_mem hx
      have : sizeOf x = 1 + sizeOf x.1 + sizeOf x.2 := rfl
      simp only [Parser.node.sizeOf_spec]
      omega
    induction node x.2
termination_by p => sizeOf p
decreasing_by exact hlt

namespace Parser

/-! ## What arguments give -/

/-- The argument is an option that is to be accounted for. -/
def Argument.IsOption (a : Argument) : Prop :=
  a.names ≠ [] ∧ a.action ≠ .help

instance (a : Argument) : Decidable a.IsOption :=
  inferInstanceAs (Decidable (_ ∧ _))

/-- **The flag of an option** that takes a value or is a switch. -/
structure Argument.IsFlag (a : Argument) (f : Flag) : Prop where
  long : HasLongName a.names f.name
  action : a.action ≠ .version ∧ a.action ≠ .appendConst
  type : f.type = a.tag
  help : f.help = a.help?.getD ""

/-- A warning about something of the program that is left out. -/
def skipping (prog what : String) : Log.Note :=
  ⟨.warning, logger, prog ++ ": skipping " ++ what⟩

/-- **The warning about an option that is left out**: it has no long name, or it is no switch and takes no
value. -/
inductive Argument.LeftOut (prog : String) (a : Argument) : Log.Note → Prop
  | short (short : ∀ name ∈ a.names, name.startsWith "--" = false) :
      LeftOut prog a (skipping prog (Text.quotedList a.names ++ " without a long option"))
  | valueless (name : String) (long : HasLongName a.names name)
      (action : a.action = .version ∨ a.action = .appendConst) :
      LeftOut prog a (skipping prog ("--" ++ name ++ ", its action takes no value"))

/-- **What the arguments of a program give.** -/
def account (prog : String) : Account Argument where
  Silent a := ¬ a.IsOption
  Gives a f := a.IsOption ∧ a.IsFlag f
  LeavesOut a note := a.IsOption ∧ a.LeftOut prog note

/-- No two arguments have a name in common. -/
def NamesApart (args : List Argument) : Prop :=
  args.Pairwise fun a b => ∀ name ∈ a.names, name ∉ b.names

/-- What can become of an argument. -/
inductive Argument.Becomes (a : Argument) : Outcome → Prop
  | nothing (silent : ¬ a.IsOption) : Becomes a .nothing
  | flag {f : Flag} (option : a.IsOption) (flag : a.IsFlag f) : Becomes a (.flag f)
  | short (option : a.IsOption) (short : ∀ name ∈ a.names, name.startsWith "--" = false) : Becomes a .short
  | valueless {name : String} (option : a.IsOption) (long : HasLongName a.names name)
      (action : a.action = .version ∨ a.action = .appendConst) : Becomes a (.valueless name)

theorem Argument.becomes_outcome (a : Argument) : a.Becomes a.outcome := by
  rw [Argument.outcome]
  split
  case isTrue hsilent =>
    refine .nothing fun ⟨hnames, haction⟩ => ?_
    exact hsilent.elim haction fun h => hnames (List.isEmpty_iff.mp h)
  case isFalse hsilent =>
    rw [not_or, List.isEmpty_iff] at hsilent
    have hoption : a.IsOption := ⟨hsilent.2, hsilent.1⟩
    split
    case h_1 hlong => exact .short hoption (find?_long_eq_none_iff.mp hlong)
    case h_2 name hlong =>
      have hname : HasLongName a.names name := find?_long_eq_some_iff.mp hlong
      split
      case isTrue haction => exact .valueless hoption hname haction
      case isFalse haction => exact .flag hoption ⟨hname, not_or.mp haction, rfl, rfl⟩

/-- The flags and the warnings of a parser are what its arguments give. -/
theorem accounts_flagsOf (prog : String) (args : List Argument) :
    Accounts (account prog) args (flagsOf args) (args.filterMap (warning? prog)) := by
  apply Accounts.of_filterMap
  intro a
  have hbecomes := a.becomes_outcome
  simp only [warning?]
  generalize a.outcome = outcome at hbecomes ⊢
  cases hbecomes with
  | nothing silent => exact .inl ⟨silent, rfl, rfl⟩
  | flag option flag => exact .inr (.inl ⟨_, ⟨option, flag⟩, rfl, rfl⟩)
  | short option short => exact .inr (.inr ⟨_, ⟨option, .short short⟩, rfl, rfl⟩)
  | valueless option long action => exact .inr (.inr ⟨_, ⟨option, .valueless _ long action⟩, rfl, rfl⟩)

/-- Arguments without a name in common give flags of different names. -/
theorem nodup_flagsOf {args : List Argument} (h : NamesApart args) :
    ((flagsOf args).map Flag.name).Nodup := by
  refine (accounts_flagsOf "" args).nodup_name (h.imp ?_)
  rintro a b hab f g ⟨-, hf⟩ ⟨-, hg⟩ heq
  exact hab _ hf.long.mem (heq ▸ hg.long.mem)

theorem before_append_behind (info : Info) : info.before ++ info.behind = info.arguments :=
  List.takeWhile_append_dropWhile

/-! ## What parsers give -/

/-- The property holds of every parser in the tree and of the name that is given for it. -/
inductive Every (P : Option String → Info → Prop) : Option String → Parser → Prop
  | node {name? : Option String} {info : Info} {subcommands : List (SubcommandName × Parser)}
      (here : P name? info) (below : ∀ x ∈ subcommands, Every P (some x.1.name) x.2) :
      Every P name? (.node info subcommands)

theorem every_node_iff {P : Option String → Info → Prop} {name? : Option String} {info : Info}
    {subcommands : List (SubcommandName × Parser)} :
    Every P name? (.node info subcommands) ↔
      P name? info ∧ ∀ x ∈ subcommands, Every P (some x.1.name) x.2 :=
  ⟨fun h => by cases h with | node here below => exact ⟨here, below⟩, fun h => .node h.1 h.2⟩

/-- **A parser that can be described**: a name is given for it, or its program has one that is not blank; and
its usage line can be written. -/
structure Info.IsDescribable (name? : Option String) (info : Info) : Prop where
  named : (∃ name, name? = some name ∧ name ≠ "") ∨ Text.words info.prog.toList ≠ []
  usage : ∃ line, info.usageLine = .ok line

mutual

/-- **The tree and the warnings account for the parser**: for its arguments in order and, where a subcommand is
chosen, for its subcommands. -/
inductive Accounted : Parser → CommandTree → List Log.Note → Prop
  | node {info : Info} {subcommands : List (SubcommandName × Parser)} {command : CommandInfo}
      {trees : List CommandTree} {flags flags' : List Flag} {notes inner notes' : List Log.Note}
      (flags_eq : command.flags = flags ++ flags')
      (apart : (command.flags.map Flag.name).Nodup)
      (before : Accounts (account info.prog) info.before flags notes)
      (below : AccountedAll subcommands trees inner)
      (behind : Accounts (account info.prog) info.behind flags' notes') :
      Accounted (.node info subcommands) (.node command trees) (notes ++ inner ++ notes')

/-- The trees and the warnings account for the subcommands one by one, each tree under the name of its
subcommand. -/
inductive AccountedAll : List (SubcommandName × Parser) → List CommandTree → List Log.Note → Prop
  | nil : AccountedAll [] [] []
  | cons {s : SubcommandName} {p : Parser} {subcommands : List (SubcommandName × Parser)} {t : CommandTree}
      {trees : List CommandTree} {notes notes' : List Log.Note}
      (name_eq : s.name ≠ "" → t.name = s.name) (here : Accounted p t notes)
      (rest : AccountedAll subcommands trees notes') :
      AccountedAll ((s, p) :: subcommands) (t :: trees) (notes ++ notes')

end

/-! ## All options -/

mutual

/-- The arguments of the parser and of the parsers below it. -/
def allArguments : Parser → List Argument
  | .node info subcommands => info.arguments ++ allArgumentsIn subcommands

/-- The arguments of the parsers of subcommands and of those below them. -/
def allArgumentsIn : List (SubcommandName × Parser) → List Argument
  | [] => []
  | (_, p) :: rest => allArguments p ++ allArgumentsIn rest

end

theorem length_add_length_of_accounts {prog : String} {args : List Argument} {flags : List Flag}
    {notes : List Log.Note} (h : Accounts (account prog) args flags notes) :
    flags.length + notes.length = args.countP (·.IsOption) :=
  h.length_add_length (fun _ ha => decide_eq_false ha) (fun _ _ h => decide_eq_true h.1)
    fun _ _ h => decide_eq_true h.1

mutual

/-- **No option is lost or doubled**: a tree and warnings that account for a parser have together as many flags
and warnings as there are options. -/
theorem Accounted.length_add_length : ∀ {p : Parser} {t : CommandTree} {notes : List Log.Note},
    Accounted p t notes → t.allFlags.length + notes.length = p.allArguments.countP (·.IsOption)
  | _, _, _, .node flags_eq _ before below behind => by
    have hbefore := length_add_length_of_accounts before
    have hbelow := below.length_add_length
    have hbehind := length_add_length_of_accounts behind
    rw [CommandTree.allFlags, allArguments, flags_eq, ← before_append_behind]
    simp only [List.length_append, List.countP_append]
    omega

theorem AccountedAll.length_add_length : ∀ {subcommands : List (SubcommandName × Parser)}
    {trees : List CommandTree} {notes : List Log.Note}, AccountedAll subcommands trees notes →
    (CommandTree.allFlagsIn trees).length + notes.length =
      (allArgumentsIn subcommands).countP (·.IsOption)
  | _, _, _, .nil => rfl
  | _, _, _, .cons _ here rest => by
    have hhere := here.length_add_length
    have hrest := rest.length_add_length
    rw [CommandTree.allFlagsIn, allArgumentsIn, List.countP_append]
    simp only [List.length_append]
    omega

end

mutual

/-- Every flag of a tree that accounts for a parser is the one of an option. -/
theorem Accounted.exists_of_mem_allFlags {f : Flag} : ∀ {p : Parser} {t : CommandTree} {notes : List Log.Note},
    Accounted p t notes → f ∈ t.allFlags → ∃ a ∈ p.allArguments, a.IsOption ∧ a.IsFlag f
  | _, _, _, .node flags_eq _ before below behind, hf => by
    rw [CommandTree.allFlags, flags_eq, List.mem_append, List.mem_append] at hf
    rw [allArguments, ← before_append_behind]
    rcases hf with (hf | hf) | hf
    · obtain ⟨a, ha, hflag⟩ := before.exists_of_mem_flags hf
      exact ⟨a, List.mem_append_left _ (List.mem_append_left _ ha), hflag⟩
    · obtain ⟨a, ha, hflag⟩ := behind.exists_of_mem_flags hf
      exact ⟨a, List.mem_append_left _ (List.mem_append_right _ ha), hflag⟩
    · obtain ⟨a, ha, hflag⟩ := below.exists_of_mem_allFlags hf
      exact ⟨a, List.mem_append_right _ ha, hflag⟩

theorem AccountedAll.exists_of_mem_allFlags {f : Flag} : ∀ {subcommands : List (SubcommandName × Parser)}
    {trees : List CommandTree} {notes : List Log.Note}, AccountedAll subcommands trees notes →
    f ∈ CommandTree.allFlagsIn trees → ∃ a ∈ allArgumentsIn subcommands, a.IsOption ∧ a.IsFlag f
  | _, _, _, .nil, hf => by
    rw [CommandTree.allFlagsIn] at hf
    cases hf
  | _, _, _, .cons _ here rest, hf => by
    rw [CommandTree.allFlagsIn, List.mem_append] at hf
    rw [allArgumentsIn]
    rcases hf with hf | hf
    · obtain ⟨a, ha, hflag⟩ := here.exists_of_mem_allFlags hf
      exact ⟨a, List.mem_append_left _ ha, hflag⟩
    · obtain ⟨a, ha, hflag⟩ := rest.exists_of_mem_allFlags hf
      exact ⟨a, List.mem_append_right _ ha, hflag⟩

end

/-! ## The table of subcommands -/

theorem firstMet_append_of_met {α : Type} {met : List Nat} {entries rest : List (String × Nat × α)}
    (h : ∀ e ∈ entries, e.2.1 ∈ met) : firstMet met (entries ++ rest) = firstMet met rest := by
  induction entries with
  | nil => rfl
  | cons e entries ih =>
    rw [List.forall_mem_cons] at h
    rw [List.cons_append, firstMet, if_pos (List.contains_iff_mem.mpr h.1), ih h.2]

/-- Each subcommand is visited once, under its name. -/
theorem firstMet_table {met : List Nat} {number : Nat} (h : ∀ m ∈ met, m < number)
    (subcommands : List (SubcommandName × Parser)) :
    firstMet met (table number subcommands) =
      subcommands.map fun x => (x.1.name, fun name? short? => extract x.2 name? short?) := by
  induction subcommands generalizing met number with
  | nil => rw [table]; rfl
  | cons x subcommands ih =>
    obtain ⟨s, p⟩ := x
    have hnew : ¬ met.contains number := by
      rw [List.contains_iff_mem]
      exact fun hmem => Nat.lt_irrefl _ (h _ hmem)
    have hmet : ∀ m ∈ number :: met, m < number + 1 := by
      rw [List.forall_mem_cons]
      exact ⟨Nat.lt_succ_self _, fun m hm => Nat.lt_succ_of_lt (h m hm)⟩
    -- the entries of the other names have the number that was met just now
    rw [table, List.map_cons, List.cons_append, firstMet, if_neg hnew, firstMet_append_of_met, ih hmet,
      List.map_cons]
    intro e he
    obtain ⟨other, -, rfl⟩ := List.mem_map.mp he
    exact List.mem_cons_self ..

/-! ## How computations end -/

/-- **The computation ends with a result** that has the property, if it is possible, and otherwise with a fault. -/
inductive Ends {α : Type} (possible : Prop) (R : α → List Log.Note → Prop) (x : Extracted α) : Prop
  | result (possible : possible) (a : α) (notes : List Log.Note) (logs : Logs x.run (.ok a) notes)
      (holds : R a notes)
  | fault (impossible : ¬ possible) (fault : ParserError) (notes : List Log.Note)
      (logs : Logs x.run (.error fault) notes)

section Ends

variable {α β : Type} {possible possible' : Prop} {R : α → List Log.Note → Prop}
  {S : β → List Log.Note → Prop} {x : Extracted α} {f : α → Extracted β}

theorem logs_ok_bind {a : α} {outcome : Except ParserError β} {notes notes' : List Log.Note}
    (hx : Logs x.run (.ok a) notes) (hf : Logs (f a).run outcome notes') :
    Logs (x >>= f).run outcome (notes ++ notes') := by
  rw [ExceptT.run_bind]
  exact hx.bind hf

theorem logs_error_bind {fault : ParserError} {notes : List Log.Note}
    (hx : Logs x.run (.error fault) notes) : Logs (x >>= f).run (.error fault) notes := by
  rw [ExceptT.run_bind, ← List.append_nil notes]
  exact hx.bind (.pure _)

/-- A chain ends like its last computation, with the warnings of the first before. -/
theorem Ends.bind (hx : Ends possible R x)
    (hf : ∀ a notes, R a notes → Ends possible' (fun b notes' => S b (notes ++ notes')) (f a)) :
    Ends (possible ∧ possible') S (x >>= f) := by
  cases hx with
  | fault impossible fault notes logs => exact .fault (fun h => impossible h.1) fault notes (logs_error_bind logs)
  | result h a notes logs holds =>
    cases hf a notes holds with
    | fault impossible fault notes' logs' =>
      exact .fault (fun h => impossible h.2) fault _ (logs_ok_bind logs logs')
    | result h' b notes' logs' holds' => exact .result ⟨h, h'⟩ b _ (logs_ok_bind logs logs') holds'

theorem Ends.congr (h : possible ↔ possible') (hx : Ends possible R x) : Ends possible' R x :=
  propext h ▸ hx

/-- A chain ends like its last computation where the first always ends with a result. -/
theorem Ends.behind (hx : Ends True R x)
    (hf : ∀ a notes, R a notes → Ends possible (fun b notes' => S b (notes ++ notes')) (f a)) :
    Ends possible S (x >>= f) :=
  (hx.bind hf).congr (iff_of_eq (true_and _))

theorem ends_pure {a : α} (h : R a []) : Ends True R (pure a) :=
  .result trivial a [] (.pure _) h

/-- A computation without warnings ends with its result. -/
theorem ends_lift (y : Except ParserError α) :
    Ends (∃ a, y = .ok a) (fun a notes => y = .ok a ∧ notes = []) (liftM y : Extracted α) := by
  cases y with
  | ok a => exact .result ⟨a, rfl⟩ a [] (.pure _) ⟨rfl, rfl⟩
  | error fault =>
    exact .fault (fun ⟨a, h⟩ => by cases h) fault [] (.pure _)

/-- Adding warnings is always possible. -/
theorem ends_modify (notes : List Log.Note) :
    Ends True (fun (_ : PUnit) notes' => notes' = notes) (modify (· ++ notes) : Extracted PUnit) :=
  .result trivial ⟨⟩ notes (fun _ => rfl) rfl

end Ends

/-! ## The tree of a parser -/

theorem nameOf_given {info : Info} {name : String} (h : name ≠ "") :
    nameOf info (some name) = .ok name := by
  have hfilter : (some name).filter (· != "") = some name := by simp [Option.filter, h]
  rw [nameOf, hfilter]

theorem exists_nameOf_iff {info : Info} {name? : Option String} :
    (∃ name, nameOf info name? = .ok name) ↔
      (∃ name, name? = some name ∧ name ≠ "") ∨ Text.words info.prog.toList ≠ [] := by
  have hlast : (∃ name, nameOf info none = .ok name) ↔ Text.words info.prog.toList ≠ [] := by
    rw [← List.getLast?_isSome]
    cases hwords : (Text.words info.prog.toList).getLast? <;> simp [nameOf, hwords]
  cases name? with
  | none => simpa using hlast
  | some name =>
    by_cases hname : name = ""
    · subst hname
      have hblank : nameOf info (some "") = nameOf info none := rfl
      rw [hblank, hlast]
      simp
    · exact iff_of_true ⟨name, nameOf_given hname⟩ (.inl ⟨name, rfl, hname⟩)

/-- The trees of subcommands account for them if they do so one by one. -/
theorem ends_accountedAll {subcommands : List (SubcommandName × Parser)} (help? : String → Option String)
    (h : ∀ x ∈ subcommands, Ends (Every Info.IsDescribable (some x.1.name) x.2)
      (fun t notes => nameOf x.2.info (some x.1.name) = .ok t.name ∧ Accounted x.2 t notes)
      (extract x.2 (some x.1.name) (help? x.1.name))) :
    Ends (∀ x ∈ subcommands, Every Info.IsDescribable (some x.1.name) x.2) (AccountedAll subcommands)
      (subcommands.mapM fun x => extract x.2 (some x.1.name) (help? x.1.name)) := by
  induction subcommands with
  | nil => exact (ends_pure .nil).congr (by simp)
  | cons x subcommands ih =>
    obtain ⟨s, p⟩ := x
    rw [List.forall_mem_cons] at h
    rw [List.mapM_cons, List.forall_mem_cons]
    refine Ends.bind h.1 fun t notes ⟨hname, ht⟩ => ?_
    refine ((ih h.2).bind fun trees notes' htrees => ?_).congr (iff_of_eq (and_true _))
    refine ends_pure ?_
    rw [List.append_nil]
    have hsame (hs : s.name ≠ "") : t.name = s.name := Except.ok.inj (hname.symm.trans (nameOf_given hs))
    exact .cons hsame ht htrees

/-- **A visit of a parser** whose arguments have no names in common gives a tree that accounts for it, if every
parser in it can be described. -/
theorem ends_extract (p : Parser) : ∀ name? short? : Option String,
    Every (fun _ info => NamesApart info.arguments) name? p →
    Ends (Every Info.IsDescribable name? p)
      (fun t notes => nameOf p.info name? = .ok t.name ∧ Accounted p t notes) (extract p name? short?) := by
  induction p using Parser.induction with
  | node info subcommands ih =>
  intro name? short? hapart
  obtain ⟨hhere, hbelow⟩ := every_node_iff.mp hapart
  have hrow := ends_accountedAll (helpOf (subcommands.map Prod.fst)) fun x hx =>
    ih x hx (some x.1.name) (helpOf (subcommands.map Prod.fst) x.1.name) (hbelow x hx)
  rw [extract, firstMet_table (by simp), List.mapM_map]
  have hpossible : (∃ name, nameOf info name? = .ok name) ∧
      (∀ x ∈ subcommands, Every Info.IsDescribable (some x.1.name) x.2) ∧
      (∃ line, info.usageLine = .ok line) ∧ True ↔ Every Info.IsDescribable name? (.node info subcommands) := by
    rw [every_node_iff, exists_nameOf_iff]
    constructor
    · rintro ⟨hnamed, hrows, husage, -⟩
      exact ⟨⟨hnamed, husage⟩, hrows⟩
    · rintro ⟨⟨hnamed, husage⟩, hrows⟩
      exact ⟨hnamed, hrows, husage, trivial⟩
  -- the name, the warnings before the choice, the subcommands, the other warnings, the usage line
  refine Ends.congr hpossible ?_
  refine (ends_lift _).bind ?_
  rintro name _ ⟨hname, rfl⟩
  refine (ends_modify _).behind ?_
  rintro _ _ rfl
  refine hrow.bind ?_
  rintro trees inner htrees
  refine (ends_modify _).behind ?_
  rintro _ _ rfl
  refine (ends_lift _).bind ?_
  rintro usage _ ⟨-, rfl⟩
  have hflags : flagsOf info.arguments = flagsOf info.before ++ flagsOf info.behind := by
    rw [← before_append_behind]
    exact List.filterMap_append
  have hnotes : ([] ++ (info.before.filterMap (warning? info.prog) ++ (inner ++
      (info.behind.filterMap (warning? info.prog) ++ ([] ++ []))))) =
      info.before.filterMap (warning? info.prog) ++ inner ++ info.behind.filterMap (warning? info.prog) := by
    simp only [List.nil_append, List.append_nil, List.append_assoc]
  refine ends_pure ⟨hname, ?_⟩
  rw [hnotes]
  exact .node hflags (nodup_flagsOf hhere) (accounts_flagsOf _ _) htrees (accounts_flagsOf _ _)

/-- **Every option is accounted for**: the tree of a parser whose arguments have no names in common is there and,
with its warnings, accounts for the parser, exactly if every parser in it can be described. -/
theorem tree_accounts_iff {p : Parser} {name? : Option String}
    (h : Every (fun _ info => NamesApart info.arguments) name? p) (short? : Option String) :
    (∃ t notes, p.tree name? short? = (.ok t, notes) ∧ Accounted p t notes) ↔
      Every Info.IsDescribable name? p := by
  cases ends_extract p name? short? h with
  | result possible t notes logs holds =>
    exact iff_of_true ⟨t, notes, logs [], holds.2⟩ possible
  | fault impossible fault notes logs =>
    refine iff_of_false ?_ impossible
    rintro ⟨t, notes', htree, -⟩
    have hfault : p.tree name? short? = (.error fault, notes) := logs []
    rw [hfault] at htree
    cases htree

/-- A program with options of all kinds and a subcommand with two names. -/
def kinds (prog : String) : Parser :=
  .node
    { prog, description? := none, usage? := none, signs := "-", groups := []
      arguments := [
        { names := ["-h", "--help"], dest := "help", action := .help, arity := .exactly 0 },
        { names := ["-a", "--all"], dest := "all", action := .storeTrue, arity := .exactly 0 },
        { names := ["-q"], dest := "q", action := .storeTrue, arity := .exactly 0 },
        { names := ["--version"], dest := "version", action := .version, arity := .exactly 0 },
        { names := [], dest := "command", action := .subcommands, arity := .command }] }
    [({ name := "add", aliases := ["a"] },
      .node
        { prog := prog ++ " add", description? := none, usage? := none, signs := "-", groups := []
          arguments := [{ names := ["--to"], dest := "to", action := .store }] }
        [])]

/-- All options of a program are accounted for, but not if its name is blank. -/
theorem tree_accounts_kinds :
    (Every (fun _ info => NamesApart info.arguments) none (kinds "t") ∧
      ∃ t notes, (kinds "t").tree none none = (.ok t, notes) ∧ Accounted (kinds "t") t notes) ∧
    Every (fun _ info => NamesApart info.arguments) none (kinds " ") ∧
      ¬ ∃ t notes, (kinds " ").tree none none = (.ok t, notes) ∧ Accounted (kinds " ") t notes := by
  have hnone {P : Option String → Info → Prop} :
      ∀ x ∈ ([] : List (SubcommandName × Parser)), Every P (some x.1.name) x.2 := by simp
  have happart (prog : String) : Every (fun _ info => NamesApart info.arguments) none (kinds prog) := by
    refine .node (by simp [NamesApart]) ?_
    rw [List.forall_mem_singleton]
    exact .node (by simp [NamesApart]) hnone
  have husage (info : Info) (h : info.usageLine.toOption.isSome) : ∃ line, info.usageLine = .ok line := by
    obtain ⟨line, hline⟩ := Option.isSome_iff_exists.mp h
    exact ⟨line, toOption_eq_some_iff.mp hline⟩
  have hdescribable : Every Info.IsDescribable none (kinds "t") := by
    refine .node ⟨.inr (by decide), husage _ (by decide +kernel)⟩ ?_
    rw [List.forall_mem_singleton]
    exact .node ⟨.inl ⟨"add", rfl, by decide⟩, husage _ (by decide +kernel)⟩ hnone
  have hblank : ¬ Every Info.IsDescribable none (kinds " ") := by
    rintro ⟨⟨⟨_, hgiven, -⟩ | hwords, -⟩, -⟩
    · cases hgiven
    · exact hwords (by decide)
  exact ⟨⟨happart "t", (tree_accounts_iff (happart "t") none).mpr hdescribable⟩, happart " ",
    mt (tree_accounts_iff (happart " ") none).mp hblank⟩

/-! ## Declared parsers -/

/-- An argument is added only if none of its names is taken. -/
theorem Declared.namesApart_add {d d' : Declared} {within : List Nat} {a : Argument}
    (h : d.add within a = .ok d') (hd : NamesApart d.arguments) : NamesApart d'.arguments := by
  rw [Declared.add] at h
  split at h
  · cases h
  dsimp only at h
  split at h
  · cases h
  rename_i htaken
  cases h
  have hfree : ∀ name ∈ a.names, ∀ b ∈ d.arguments, name ∉ b.names := by
    simpa [Declared.taken] using htaken
  rw [NamesApart, List.pairwise_append]
  refine ⟨hd, List.pairwise_singleton _ _, ?_⟩
  intro b hb c hc name hname hmem
  rw [List.mem_singleton.mp hc] at hmem
  exact hfree name hmem b hb hname

mutual

theorem namesApart_declare {signs : String} {scope : Scope} : ∀ (item : ItemDraft) {d d' : Declared},
    declare signs scope item d = .ok d' → NamesApart d.arguments → NamesApart d'.arguments
  | .argument draft, d, d', h, hd => by
    rw [declare] at h
    obtain ⟨a, -, h⟩ := bind_eq_ok_iff.mp h
    split at h
    · cases h
    · exact Declared.namesApart_add h hd
  | .section_ items, d, d', h, hd => by
    rw [declare] at h
    exact namesApart_declareAll items h hd
  | .exclusive required items, d, d', h, hd => by
    rw [declare] at h
    exact namesApart_declareAll items h hd

theorem namesApart_declareAll {signs : String} {scope : Scope} : ∀ (items : List ItemDraft) {d d' : Declared},
    declareAll signs scope items d = .ok d' → NamesApart d.arguments → NamesApart d'.arguments
  | [], d, d', h, hd => by
    rw [declareAll] at h
    cases h
    exact hd
  | item :: rest, d, d', h, hd => by
    rw [declareAll] at h
    obtain ⟨e, hitem, hrest⟩ := bind_eq_ok_iff.mp h
    exact namesApart_declareAll rest hrest (namesApart_declare item hitem hd)

end

mutual

theorem every_namesApart_ofDraftNamed : ∀ (draft : Draft) {prog : String} {p : Parser},
    ofDraftNamed prog draft = .ok p →
    ∀ name? : Option String, Every (fun _ info => NamesApart info.arguments) name? p
  | .node info items choice? subcommands later, prog, p, h, name? => by
    rw [ofDraftNamed] at h
    obtain ⟨help, -, h⟩ := bind_eq_ok_iff.mp h
    obtain ⟨d₁, hhelp, h⟩ := bind_eq_ok_iff.mp h
    obtain ⟨d₂, hitems, h⟩ := bind_eq_ok_iff.mp h
    have happart : NamesApart d₂.arguments :=
      namesApart_declareAll items hitems (namesApart_declareAll help hhelp .nil)
    cases choice? with
    | none =>
      obtain ⟨d₃, hlater, h⟩ := bind_eq_ok_iff.mp h
      cases h
      exact .node (namesApart_declareAll later hlater happart) (by simp)
    | some choice =>
      obtain ⟨start, -, h⟩ := bind_eq_ok_iff.mp h
      obtain ⟨⟨names, parsers⟩, hparsers, h⟩ := bind_eq_ok_iff.mp h
      obtain ⟨d₃, hlater, h⟩ := bind_eq_ok_iff.mp h
      cases h
      refine .node (namesApart_declareAll later hlater ?_) ?_
      -- the choice of a subcommand is an argument without names
      · rw [NamesApart, List.pairwise_append]
        exact ⟨happart, List.pairwise_singleton _ _, by simp⟩
      · exact fun x hx => every_namesApart_ofDrafts subcommands hparsers x hx _

theorem every_namesApart_ofDrafts {choice : ChoiceDraft} {start : String} :
    ∀ (drafts : List (SubcommandName × Draft)) {taken names : List String}
    {parsers : List (SubcommandName × Parser)}, ofDrafts choice start taken drafts = .ok (names, parsers) →
    ∀ x ∈ parsers, ∀ name? : Option String, Every (fun _ info => NamesApart info.arguments) name? x.2
  | [], taken, names, parsers, h => by
    rw [ofDrafts] at h
    cases h
    simp
  | (s, draft) :: rest, taken, names, parsers, h => by
    rw [ofDrafts] at h
    obtain ⟨taken', -, h⟩ := bind_eq_ok_iff.mp h
    obtain ⟨p, hp, h⟩ := bind_eq_ok_iff.mp h
    obtain ⟨⟨names', parsers'⟩, hrest, h⟩ := bind_eq_ok_iff.mp h
    cases h
    rw [List.forall_mem_cons]
    exact ⟨every_namesApart_ofDraftNamed draft hp, every_namesApart_ofDrafts rest hrest⟩

end

/-- **The arguments of a declared parser** have no names in common, and neither do those of the parsers below. -/
theorem every_namesApart_ofDraft {draft : Draft} {p : Parser} (h : ofDraft draft = .ok p)
    (name? : Option String) : Every (fun _ info => NamesApart info.arguments) name? p :=
  every_namesApart_ofDraftNamed draft h name?

end Parser

end CommandWrap
