import CommandWrap.Proofs.TreeFaults

/-!
# The grammar of command trees in data

Data describes a tree, or it has a first fault.  A datum stands for a text (`Datum.StandsFor`) unless it is a
truth value, a container or an integer of too many digits (`NoText`); a map describes a flag
(`DescribesFlag`) or has a fault (`NoFlag`), and so does a map with flags and commands (`Describes`,
`NoCommand`).  The faults are looked for in one order: the name, the lists, the usage line, the short
description, the flags and then the commands, each from its front.  What is read is exactly what the data
describes, and an error is exactly the first fault (`CommandTree.read_iff_grammar`).

The containers around a datum are at hand everywhere, because a reference back means one of them.
-/
namespace CommandWrap

open Decimal (Binary64)

/-! ## Texts -/

namespace Datum

/-- **The text that a datum stands for**: nothing stands for the empty text, and a scalar or a set of scalars for
what it is written as, unless it is a truth value or an integer has too many digits. -/
inductive StandsFor : Datum → String → Prop
  | null : StandsFor .null ""
  | int {i : Int} (hshort : isShortInteger i = true) : StandsFor (.int i) (toString i)
  | float (x : Binary64) : StandsFor (.float x) (x.text Value.numberStyle)
  | text (s : String) : StandsFor (.text s) s
  | other (s : String) (e : Bool) : StandsFor (.other s e) s
  | keySet {keys : List Datum} (hshort : keys.all hasText = true) : StandsFor (.keySet keys) (Datum.keySet keys).quote

/-- The datum stands for a text. -/
def IsText (d : Datum) : Prop :=
  ∃ s, d.StandsFor s

/-- The datum stands for a text that is not empty. -/
def IsName (d : Datum) : Prop :=
  ∃ s, d.StandsFor s ∧ s ≠ ""

/-- What errors call a container. -/
def containerKind? : Datum → Option String
  | .list _ => some "list"
  | .listAgain _ => some "list"
  | .map _ => some "dict"
  | .mapAgain _ => some "dict"
  | _ => none

end Datum

namespace TreeReader

open Datum

/-- **Why a datum stands for no text**, where one is wanted for a key. -/
inductive NoText (place key : String) : Datum → TreeError → Prop
  | truthValue (b : Bool) : NoText place key (.bool b) (.truthValue place key b)
  | container {d : Datum} {kind : String} (hkind : d.containerKind? = some kind) :
    NoText place key d (.noScalar place key kind)
  | longInteger {i : Int} (hlong : isShortInteger i = false) : NoText place key (.int i) .integerTooLong
  | longKey {keys : List Datum} (hlong : keys.all hasText = false) : NoText place key (.keySet keys) .integerTooLong

section textOf

variable {place key s : String} {d : Datum} {error : TreeError}

theorem textOf_eq_ok_iff : textOf place key d = .ok s ↔ d.StandsFor s := by
  constructor
  · intro h
    cases d with
    | null =>
      cases h
      exact .null
    | int i =>
      rw [textOf] at h
      split at h
      · cases h
        exact .int ‹_›
      · cases h
    | float x =>
      cases h
      exact .float x
    | text s =>
      cases h
      exact .text s
    | other s e =>
      cases h
      exact .other s e
    | keySet keys =>
      rw [textOf] at h
      split at h
      · cases h
        exact .keySet ‹_›
      · cases h
    | _ => cases h
  · intro h
    cases h with
    | int hshort => simp only [textOf, hasText, hshort, if_true]
    | keySet hshort => simp only [textOf, hshort, if_true]
    | _ => rfl

theorem textOf_eq_error_iff : textOf place key d = .error error ↔ NoText place key d error := by
  constructor
  · intro h
    cases d with
    | bool b =>
      cases h
      exact .truthValue b
    | int i =>
      rw [textOf] at h
      split at h
      · cases h
      · cases h
        exact .longInteger (Bool.eq_false_iff.mpr ‹_›)
    | keySet keys =>
      rw [textOf] at h
      split at h
      · cases h
      · cases h
        exact .longKey (Bool.eq_false_iff.mpr ‹_›)
    | list | listAgain | map | mapAgain =>
      cases h
      exact .container rfl
    | _ => cases h
  · intro h
    cases h with
    | truthValue b => rfl
    | container hkind => cases d <;> cases hkind <;> rfl
    | longInteger hlong => simp only [textOf, hasText, hlong, Bool.false_eq_true, if_false]
    | longKey hlong => simp only [textOf, hlong, Bool.false_eq_true, if_false]

end textOf

/-! ## Flags -/

/-- The datum describes a flag. -/
inductive IsFlag (around : List Datum) (d : Datum) : Prop
  | map {entries : List (Datum × Datum)} (hmap : (d.meant around).1 = .map entries)
    (hname : (field "name" entries).IsName) (htype : (field "type" entries).IsText)
    (hhelp : (field "help" entries).IsText)

/-- **The flag that a datum describes.** -/
inductive DescribesFlag (around : List Datum) (d : Datum) (f : Flag) : Prop
  | map {entries : List (Datum × Datum)} {type : String} (hmap : (d.meant around).1 = .map entries)
    (hname : (field "name" entries).StandsFor f.name) (hnamed : f.name ≠ "")
    (htype : (field "type" entries).StandsFor type) (hdefault : f.type = if type = "" then "string" else type)
    (hhelp : (field "help" entries).StandsFor f.help)

/-- **The first fault of a datum that describes no flag.** -/
inductive NoFlag (place : String) (around : List Datum) (d : Datum) : TreeError → Prop
  | noMap (hno : ∀ entries, (d.meant around).1 ≠ .map entries) : NoFlag place around d (.flagNoMap place)
  | name {entries : List (Datum × Datum)} {error : TreeError} (hmap : (d.meant around).1 = .map entries)
    (hfault : NoText place "name" (field "name" entries) error) : NoFlag place around d error
  | noName {entries : List (Datum × Datum)} (hmap : (d.meant around).1 = .map entries)
    (hempty : (field "name" entries).StandsFor "") : NoFlag place around d (.flagNoName place)
  | type {entries : List (Datum × Datum)} {error : TreeError} (hmap : (d.meant around).1 = .map entries)
    (hname : (field "name" entries).IsName) (hfault : NoText place "type" (field "type" entries) error) :
    NoFlag place around d error
  | help {entries : List (Datum × Datum)} {error : TreeError} (hmap : (d.meant around).1 = .map entries)
    (hname : (field "name" entries).IsName) (htype : (field "type" entries).IsText)
    (hfault : NoText place "help" (field "help" entries) error) : NoFlag place around d error

theorem isFlag_iff {around : List Datum} {d : Datum} : IsFlag around d ↔ ∃ f, DescribesFlag around d f := by
  constructor
  · rintro ⟨hmap, ⟨name, hname, hnamed⟩, ⟨type, htype⟩, ⟨help, hhelp⟩⟩
    exact ⟨{ name, type := if type = "" then "string" else type, help }, hmap, hname, hnamed, htype, rfl, hhelp⟩
  · rintro ⟨f, hmap, hname, hnamed, htype, -, hhelp⟩
    exact ⟨hmap, ⟨_, hname, hnamed⟩, ⟨_, htype⟩, ⟨_, hhelp⟩⟩

section flagOf

variable {place : String} {around : List Datum} {d : Datum}

theorem flagOf_noMap (hno : ∀ entries, (d.meant around).1 ≠ .map entries) :
    flagOf place around d = .error (.flagNoMap place) := by
  rw [flagOf]
  split
  · rename_i entries hmap
    exact absurd hmap (hno entries)
  · rfl

theorem flagOf_eq_ok_iff {f : Flag} : flagOf place around d = .ok f ↔ DescribesFlag around d f := by
  constructor
  · intro h
    cases hd : (d.meant around).1 with
    | map entries =>
      rw [flagOf_map hd] at h
      obtain ⟨name, hname, h⟩ := bind_eq_ok_iff.mp h
      split at h
      · cases h
      rename_i hnamed
      simp only [flagAt, bind_eq_ok_iff] at h
      obtain ⟨type, htype, help, hhelp, h⟩ := h
      cases h
      refine .map hd (textOf_eq_ok_iff.mp hname) (mt String.isEmpty_iff.mpr hnamed) (textOf_eq_ok_iff.mp htype) ?_
        (textOf_eq_ok_iff.mp hhelp)
      simp only [String.isEmpty_iff]
    | _ =>
      rw [flagOf_noMap (by simp [hd])] at h
      cases h
  · rintro ⟨hmap, hname, hnamed, htype, hdefault, hhelp⟩
    rw [flagOf_map hmap, textOf_eq_ok_iff.mpr hname, bind_ok, if_neg (mt String.isEmpty_iff.mp hnamed), flagAt,
      textOf_eq_ok_iff.mpr htype, bind_ok, textOf_eq_ok_iff.mpr hhelp, bind_ok]
    simp only [String.isEmpty_iff, ← hdefault]
    rfl

theorem flagOf_eq_error_iff {error : TreeError} :
    flagOf place around d = .error error ↔ NoFlag place around d error := by
  constructor
  · intro h
    cases hd : (d.meant around).1 with
    | map entries =>
      rw [flagOf_map hd] at h
      rcases bind_eq_error_iff.mp h with h | ⟨name, hname, h⟩
      · exact .name hd (textOf_eq_error_iff.mp h)
      rw [textOf_eq_ok_iff] at hname
      split at h
      · rename_i hempty
        cases h
        exact .noName hd (String.isEmpty_iff.mp hempty ▸ hname)
      rename_i hnamed
      have hname : (field "name" entries).IsName := ⟨name, hname, mt String.isEmpty_iff.mpr hnamed⟩
      rcases bind_eq_error_iff.mp h with h | ⟨type, htype, h⟩
      · exact .type hd hname (textOf_eq_error_iff.mp h)
      rcases bind_eq_error_iff.mp h with h | ⟨help, -, h⟩
      · exact .help hd hname ⟨type, textOf_eq_ok_iff.mp htype⟩ (textOf_eq_error_iff.mp h)
      · cases h
    | _ =>
      have hno : ∀ entries, (d.meant around).1 ≠ .map entries := by simp [hd]
      rw [flagOf_noMap hno] at h
      cases h
      exact .noMap hno
  · intro h
    cases h with
    | noMap hno => exact flagOf_noMap hno
    | name hmap hfault =>
      rw [flagOf_map hmap, textOf_eq_error_iff.mpr hfault]
      rfl
    | noName hmap hempty =>
      rw [flagOf_map hmap, textOf_eq_ok_iff.mpr hempty]
      rfl
    | type hmap hname hfault =>
      obtain ⟨name, hname, hnamed⟩ := hname
      rw [flagOf_map hmap, textOf_eq_ok_iff.mpr hname, bind_ok, if_neg (mt String.isEmpty_iff.mp hnamed), flagAt,
        textOf_eq_error_iff.mpr hfault]
      rfl
    | help hmap hname htype hfault =>
      obtain ⟨name, hname, hnamed⟩ := hname
      obtain ⟨type, htype⟩ := htype
      rw [flagOf_map hmap, textOf_eq_ok_iff.mpr hname, bind_ok, if_neg (mt String.isEmpty_iff.mp hnamed), flagAt,
        textOf_eq_ok_iff.mpr htype, bind_ok, textOf_eq_error_iff.mpr hfault]
      rfl

end flagOf

/-! ## Commands -/

/-- **The items of a datum where a list is wanted**, and the containers around them: what counts as empty has
none. -/
inductive Lists (around : List Datum) (d : Datum) : List Datum → List Datum → Prop
  | list {items outer : List Datum} (hlist : d.meant around = (.list items, outer)) :
    Lists around d items (.list items :: outer)
  | empty (hempty : (d.meant around).1.isEmpty = true) (hno : ∀ items, (d.meant around).1 ≠ .list items) :
    Lists around d [] []

theorem itemsOf?_eq_some_iff {around items outer : List Datum} {d : Datum} :
    itemsOf? around d = some (items, outer) ↔ Lists around d items outer := by
  rw [itemsOf?]
  constructor
  · intro h
    split at h
    · rename_i hlist
      cases h
      exact .list hlist
    · rename_i hno hmeant
      split at h
      · rename_i hempty
        cases h
        refine .empty (hmeant ▸ hempty) fun items heq => hno items ?_
        rwa [hmeant] at heq
      · cases h
  · intro h
    cases h with
    | list hlist => rw [hlist]
    | empty hempty hno =>
      split
      · rename_i hlist
        exact absurd (congrArg Prod.fst hlist) (hno _)
      · rename_i hmeant
        rw [hmeant] at hempty
        exact if_pos hempty

/-- The lists of flags and of commands in the entries of a map, each with the containers around its items. -/
structure HasLists (around : List Datum) (entries : List (Datum × Datum)) (flags aroundFlags commands
    aroundCommands : List Datum) : Prop where
  flags : Lists (.map entries :: around) (field "flags" entries) flags aroundFlags
  commands : Lists (.map entries :: around) (field "commands" entries) commands aroundCommands

/-- **The data of a command**: a map with a name, texts, flags and commands; the commands are not those of a
command above. -/
inductive IsCommand : List Datum → Datum → Prop
  | map {around flags aroundFlags commands aroundCommands : List Datum} {entries : List (Datum × Datum)}
    (hname : (field "name" entries).IsName)
    (hlists : HasLists around entries flags aroundFlags commands aroundCommands)
    (husage : (field "usage" entries).IsText) (hshort : (field "short" entries).IsText)
    (hflags : ∀ f ∈ flags, IsFlag aroundFlags f) (hproper : isAgain (field "commands" entries) = false)
    (hcommands : ∀ c ∈ commands, IsCommand aroundCommands c) : IsCommand around (.map entries)

mutual

/-- **The tree that a datum describes**: its texts are those of the map, and its flags and commands those of the
items of the lists, one by one. -/
inductive Describes : List Datum → Datum → CommandTree → Prop
  | node {around flags aroundFlags commands aroundCommands : List Datum} {entries : List (Datum × Datum)}
    {info : CommandInfo} {trees : List CommandTree}
    (hname : (field "name" entries).StandsFor info.name) (hnamed : info.name ≠ "")
    (hlists : HasLists around entries flags aroundFlags commands aroundCommands)
    (husage : (field "usage" entries).StandsFor info.usage) (hshort : (field "short" entries).StandsFor info.short)
    (hflags : List.Forall₂ (DescribesFlag aroundFlags) flags info.flags)
    (hproper : isAgain (field "commands" entries) = false)
    (hcommands : DescribesAll aroundCommands commands trees) : Describes around (.map entries) (.node info trees)

/-- The trees that data describes one by one. -/
inductive DescribesAll : List Datum → List Datum → List CommandTree → Prop
  | nil {around : List Datum} : DescribesAll around [] []
  | cons {around ds : List Datum} {d : Datum} {t : CommandTree} {ts : List CommandTree} (h : Describes around d t)
    (hs : DescribesAll around ds ts) : DescribesAll around (d :: ds) (t :: ts)

end

/-- The place of the command that the entries name, below its parent. -/
inductive IsPlace (parent : String) (entries : List (Datum × Datum)) : String → Prop
  | named {name : String} (hname : (field "name" entries).StandsFor name) (hnamed : name ≠ "") :
    IsPlace parent entries (Text.strip (parent ++ " " ++ name))

/-- **The first fault of a datum that describes no command.**  A fault of a flag or of a command counts if the
flags and commands before it are described. -/
inductive NoCommand : String → List Datum → Datum → TreeError → Prop
  | noMap {parent : String} {around : List Datum} {d : Datum} (hno : ∀ entries, d ≠ .map entries)
    (hagain : ∀ up, d ≠ .mapAgain up) : NoCommand parent around d (.commandNoMap (placeOf parent))
  | again {parent : String} {around : List Datum} (up : Nat) : NoCommand parent around (.mapAgain up) .endless
  | name {parent : String} {around : List Datum} {entries : List (Datum × Datum)} {error : TreeError}
    (hfault : NoText (placeOf parent) "name" (field "name" entries) error) :
    NoCommand parent around (.map entries) error
  | noName {parent : String} {around : List Datum} {entries : List (Datum × Datum)}
    (hempty : (field "name" entries).StandsFor "") :
    NoCommand parent around (.map entries) (.commandNoName (placeOf parent))
  | noLists {parent place : String} {around : List Datum} {entries : List (Datum × Datum)}
    (hplace : IsPlace parent entries place)
    (hno : ∀ flags aroundFlags commands aroundCommands,
      ¬ HasLists around entries flags aroundFlags commands aroundCommands) :
    NoCommand parent around (.map entries) (.noLists place)
  | usage {parent place : String} {around flags aroundFlags commands aroundCommands : List Datum}
    {entries : List (Datum × Datum)} {error : TreeError} (hplace : IsPlace parent entries place)
    (hlists : HasLists around entries flags aroundFlags commands aroundCommands)
    (hfault : NoText place "usage" (field "usage" entries) error) : NoCommand parent around (.map entries) error
  | short {parent place : String} {around flags aroundFlags commands aroundCommands : List Datum}
    {entries : List (Datum × Datum)} {error : TreeError} (hplace : IsPlace parent entries place)
    (hlists : HasLists around entries flags aroundFlags commands aroundCommands)
    (husage : (field "usage" entries).IsText) (hfault : NoText place "short" (field "short" entries) error) :
    NoCommand parent around (.map entries) error
  | flag {parent place : String} {around before after aroundFlags commands aroundCommands : List Datum} {f : Datum}
    {entries : List (Datum × Datum)} {error : TreeError} (hplace : IsPlace parent entries place)
    (hlists : HasLists around entries (before ++ f :: after) aroundFlags commands aroundCommands)
    (husage : (field "usage" entries).IsText) (hshort : (field "short" entries).IsText)
    (hbefore : ∀ b ∈ before, IsFlag aroundFlags b) (hfault : NoFlag place aroundFlags f error) :
    NoCommand parent around (.map entries) error
  | endless {parent place : String} {around flags aroundFlags commands aroundCommands : List Datum}
    {entries : List (Datum × Datum)} (hplace : IsPlace parent entries place)
    (hlists : HasLists around entries flags aroundFlags commands aroundCommands)
    (husage : (field "usage" entries).IsText) (hshort : (field "short" entries).IsText)
    (hflags : ∀ f ∈ flags, IsFlag aroundFlags f) (hagain : isAgain (field "commands" entries) = true) :
    NoCommand parent around (.map entries) .endless
  | command {parent place : String} {around flags aroundFlags before after aroundCommands : List Datum} {c : Datum}
    {entries : List (Datum × Datum)} {error : TreeError} (hplace : IsPlace parent entries place)
    (hlists : HasLists around entries flags aroundFlags (before ++ c :: after) aroundCommands)
    (husage : (field "usage" entries).IsText) (hshort : (field "short" entries).IsText)
    (hflags : ∀ f ∈ flags, IsFlag aroundFlags f) (hproper : isAgain (field "commands" entries) = false)
    (hbefore : ∀ b ∈ before, IsCommand aroundCommands b) (hfault : NoCommand place aroundCommands c error) :
    NoCommand parent around (.map entries) error

/-! ## What is read -/

theorem describesAll_iff {around ds : List Datum} {ts : List CommandTree} :
    DescribesAll around ds ts ↔ List.Forall₂ (Describes around) ds ts := by
  constructor
  · intro h
    induction ds generalizing ts with
    | nil =>
      cases h
      exact .nil
    | cons d ds ih =>
      cases h with
      | cons h hs => exact .cons h (ih hs)
  · intro h
    induction h with
    | nil => exact .nil
    | cons h _ ih => exact .cons h ih

/-- Data describes a tree exactly if it is the data of a command. -/
theorem isCommand_iff {around : List Datum} {d : Datum} : IsCommand around d ↔ ∃ t, Describes around d t := by
  constructor
  · intro h
    induction h with
    | map hname hlists husage hshort hflags hproper _ ih =>
      obtain ⟨name, hname, hnamed⟩ := hname
      obtain ⟨usage, husage⟩ := husage
      obtain ⟨short, hshort⟩ := hshort
      obtain ⟨flags, hflags⟩ := exists_forall₂ fun f hf => isFlag_iff.mp (hflags f hf)
      obtain ⟨trees, htrees⟩ := exists_forall₂ ih
      exact ⟨.node { name, usage, short, flags } trees, .node hname hnamed hlists husage hshort hflags hproper
        (describesAll_iff.mpr htrees)⟩
  · rintro ⟨t, h⟩
    induction t using CommandTree.induction generalizing around d with
    | node info trees ih =>
      cases h with
      | node hname hnamed hlists husage hshort hflags hproper hcommands =>
        rw [describesAll_iff] at hcommands
        refine .map ⟨_, hname, hnamed⟩ hlists ⟨_, husage⟩ ⟨_, hshort⟩ (fun f hf => ?_) hproper fun c hc => ?_
        · obtain ⟨i, -, hi⟩ := exists_right_of_mem hflags hf
          exact isFlag_iff.mpr ⟨i, hi⟩
        · obtain ⟨t, ht, hdescribes⟩ := exists_right_of_mem hcommands hc
          exact ih t ht hdescribes

section treeOf

variable {parent place : String} {around flags aroundFlags commands aroundCommands : List Datum} {d : Datum}
  {entries : List (Datum × Datum)}

/-- What is read of a map whose name and lists are known. -/
theorem treeAt_of_lists (place name : String)
    (hlists : HasLists around entries flags aroundFlags commands aroundCommands) :
    treeAt place name (.map entries :: around) entries =
      textOf place "usage" (field "usage" entries) >>= fun usage =>
      textOf place "short" (field "short" entries) >>= fun short =>
      flags.mapM (flagOf place aroundFlags) >>= fun flags =>
      if isAgain (field "commands" entries) then .error .endless
      else commands.mapM (treeOf place aroundCommands) >>= fun trees =>
        .ok (.node { name, usage, short, flags } trees) := by
  rw [treeAt, itemsOf?_eq_some_iff.mpr hlists.flags, itemsOf?_eq_some_iff.mpr hlists.commands]
  rfl

/-- Without lists, that is the error. -/
theorem treeAt_noLists (place name : String) (hno : ∀ flags aroundFlags commands aroundCommands,
      ¬ HasLists around entries flags aroundFlags commands aroundCommands) :
    treeAt place name (.map entries :: around) entries = .error (.noLists place) := by
  rw [treeAt]
  split
  · rename_i hflags hcommands
    exact absurd ⟨itemsOf?_eq_some_iff.mp hflags, itemsOf?_eq_some_iff.mp hcommands⟩ (hno _ _ _ _)
  · rfl

theorem size_command_lt (hlists : HasLists around entries flags aroundFlags commands aroundCommands)
    (hproper : isAgain (field "commands" entries) = false) {c : Datum} (hc : c ∈ commands) :
    sizeOf c < sizeOf (Datum.map entries) :=
  sizeOf_command_lt hproper (itemsOf?_eq_some_iff.mpr hlists.commands) hc

theorem treeOf_noMap (hno : ∀ entries, d ≠ .map entries) (hagain : ∀ up, d ≠ .mapAgain up) :
    treeOf parent around d = .error (.commandNoMap (placeOf parent)) := by
  cases d with
  | map entries => exact absurd rfl (hno entries)
  | mapAgain up => exact absurd rfl (hagain up)
  | _ => simp only [treeOf]

/-- The tree of a map whose name is not empty. -/
theorem treeOf_of_place {name : String} (hname : (field "name" entries).StandsFor name) (hnamed : name ≠ "") :
    treeOf parent around (.map entries) =
      treeAt (Text.strip (parent ++ " " ++ name)) name (.map entries :: around) entries := by
  rw [treeOf_map, textOf_eq_ok_iff.mpr hname, bind_ok, if_neg (mt String.isEmpty_iff.mp hnamed)]

/-- What is read describes what is there. -/
theorem describes_of_treeOf {t : CommandTree} (h : treeOf parent around d = .ok t) : Describes around d t := by
  induction hsize : sizeOf d using Nat.strongRecOn generalizing parent around d t with
  | _ size ih =>
    cases d with
    | map entries =>
      rw [treeOf_map] at h
      obtain ⟨name, hname, h⟩ := bind_eq_ok_iff.mp h
      split at h
      · cases h
      rename_i hnamed
      by_cases hlists : ∃ flags aroundFlags commands aroundCommands,
          HasLists around entries flags aroundFlags commands aroundCommands
      · obtain ⟨flags, aroundFlags, commands, aroundCommands, hlists⟩ := hlists
        simp only [treeAt_of_lists _ _ hlists, bind_eq_ok_iff] at h
        obtain ⟨usage, husage, short, hshort, infos, hinfos, h⟩ := h
        split at h
        · cases h
        rename_i hagain
        have hproper := Bool.eq_false_iff.mpr hagain
        obtain ⟨trees, htrees, h⟩ := bind_eq_ok_iff.mp h
        cases h
        rw [mapM_eq_ok_iff] at hinfos htrees
        refine .node (textOf_eq_ok_iff.mp hname) (mt String.isEmpty_iff.mpr hnamed) hlists
          (textOf_eq_ok_iff.mp husage) (textOf_eq_ok_iff.mp hshort) (hinfos.imp fun _ _ => flagOf_eq_ok_iff.mp)
          hproper (describesAll_iff.mpr (forall₂_imp_of_mem htrees fun c hc t ht => ?_))
        exact ih _ (hsize ▸ size_command_lt hlists hproper hc) ht rfl
      · rw [treeAt_noLists _ _ (by simpa using hlists)] at h
        cases h
    | mapAgain up =>
      rw [treeOf] at h
      cases h
    | _ =>
      rw [treeOf_noMap (by simp) (by simp)] at h
      cases h

/-- What is there is read, wherever it is. -/
theorem treeOf_of_describes {t : CommandTree} (h : Describes around d t) : treeOf parent around d = .ok t := by
  induction hsize : sizeOf d using Nat.strongRecOn generalizing parent around d t with
  | _ size ih =>
    cases h with
    | @node _ flags aroundFlags commands aroundCommands _ info trees hname hnamed hlists husage hshort hflags hproper
        hcommands =>
      have hinfos (place : String) : flags.mapM (flagOf place aroundFlags) = .ok info.flags :=
        mapM_eq_ok_iff.mpr (hflags.imp fun _ _ => flagOf_eq_ok_iff.mpr)
      have htrees (place : String) : commands.mapM (treeOf place aroundCommands) = .ok trees :=
        mapM_eq_ok_iff.mpr (forall₂_imp_of_mem (describesAll_iff.mp hcommands) fun c hc t ht =>
          ih _ (hsize ▸ size_command_lt hlists hproper hc) ht rfl)
      rw [treeOf_of_place hname hnamed, treeAt_of_lists _ _ hlists, textOf_eq_ok_iff.mpr husage, bind_ok,
        textOf_eq_ok_iff.mpr hshort, bind_ok, hinfos, bind_ok, hproper, if_neg Bool.false_ne_true, htrees]
      rfl

theorem treeOf_eq_ok_iff {t : CommandTree} : treeOf parent around d = .ok t ↔ Describes around d t :=
  ⟨describes_of_treeOf, treeOf_of_describes⟩

theorem isFlag_iff_read : IsFlag around d ↔ ∃ f, flagOf place around d = .ok f := by
  simp only [isFlag_iff, flagOf_eq_ok_iff]

theorem isCommand_iff_read : IsCommand around d ↔ ∃ t, treeOf place around d = .ok t := by
  simp only [isCommand_iff, treeOf_eq_ok_iff]

/-- **Errors behind the name**: what is wrong first with a map whose name is not empty. -/
theorem noCommand_of_treeAt {name : String} {error : TreeError} (hname : (field "name" entries).StandsFor name)
    (hnamed : name ≠ "")
    (ih : ∀ c place aroundCommands, sizeOf c < sizeOf (Datum.map entries) →
      treeOf place aroundCommands c = .error error → NoCommand place aroundCommands c error)
    (h : treeAt (Text.strip (parent ++ " " ++ name)) name (.map entries :: around) entries = .error error) :
    NoCommand parent around (.map entries) error := by
  -- stage by stage as they are read: the first that fails is the fault, those before it are its premises
  have hplace : IsPlace parent entries _ := .named hname hnamed
  by_cases hlists : ∃ flags aroundFlags commands aroundCommands,
      HasLists around entries flags aroundFlags commands aroundCommands
  · obtain ⟨flags, aroundFlags, commands, aroundCommands, hlists⟩ := hlists
    rw [treeAt_of_lists _ _ hlists] at h
    rcases bind_eq_error_iff.mp h with h | ⟨usage, husage, h⟩
    · exact .usage hplace hlists (textOf_eq_error_iff.mp h)
    have husage : (field "usage" entries).IsText := ⟨usage, textOf_eq_ok_iff.mp husage⟩
    rcases bind_eq_error_iff.mp h with h | ⟨short, hshort, h⟩
    · exact .short hplace hlists husage (textOf_eq_error_iff.mp h)
    have hshort : (field "short" entries).IsText := ⟨short, textOf_eq_ok_iff.mp hshort⟩
    rcases bind_eq_error_iff.mp h with h | ⟨infos, hinfos, h⟩
    · obtain ⟨before, f, after, rfl, hbefore, hf⟩ := mapM_eq_error_iff.mp h
      exact .flag hplace hlists husage hshort (fun b hb => isFlag_iff_read.mpr (hbefore b hb))
        (flagOf_eq_error_iff.mp hf)
    have hflags : ∀ f ∈ flags, IsFlag aroundFlags f := by
      intro f hf
      obtain ⟨i, -, hi⟩ := exists_right_of_mem (mapM_eq_ok_iff.mp hinfos) hf
      exact isFlag_iff_read.mpr ⟨i, hi⟩
    split at h
    · rename_i hagain
      cases h
      exact .endless hplace hlists husage hshort hflags hagain
    · rename_i hagain
      have hproper := Bool.eq_false_iff.mpr hagain
      rcases bind_eq_error_iff.mp h with h | ⟨_, _, h⟩
      · obtain ⟨before, c, after, rfl, hbefore, hc⟩ := mapM_eq_error_iff.mp h
        refine .command hplace hlists husage hshort hflags hproper
          (fun b hb => isCommand_iff_read.mpr (hbefore b hb)) (ih c _ _ ?_ hc)
        exact size_command_lt hlists hproper (List.mem_append_right _ (List.mem_cons_self ..))
      · cases h
  · have hno : ∀ flags aroundFlags commands aroundCommands,
        ¬ HasLists around entries flags aroundFlags commands aroundCommands := by simpa using hlists
    rw [treeAt_noLists _ _ hno] at h
    cases h
    exact .noLists hplace hno

theorem noCommand_of_treeOf {error : TreeError} (h : treeOf parent around d = .error error) :
    NoCommand parent around d error := by
  induction hsize : sizeOf d using Nat.strongRecOn generalizing parent around d with
  | _ size ih =>
    cases d with
    | map entries =>
      rw [treeOf_map] at h
      rcases bind_eq_error_iff.mp h with h | ⟨name, hname, h⟩
      · exact .name (textOf_eq_error_iff.mp h)
      rw [textOf_eq_ok_iff] at hname
      split at h
      · rename_i hempty
        cases h
        exact .noName (String.isEmpty_iff.mp hempty ▸ hname)
      · rename_i hnamed
        refine noCommand_of_treeAt hname (mt String.isEmpty_iff.mpr hnamed) (fun c place aroundCommands hlt hc => ?_) h
        exact ih _ (hsize ▸ hlt) hc rfl
    | mapAgain up =>
      rw [treeOf] at h
      cases h
      exact .again up
    | _ =>
      rw [treeOf_noMap (by simp) (by simp)] at h
      cases h
      exact .noMap (by simp) (by simp)

/-- What is read of a map with a place and lists. -/
theorem treeOf_of_lists (hplace : IsPlace parent entries place)
    (hlists : HasLists around entries flags aroundFlags commands aroundCommands) :
    ∃ name, treeOf parent around (.map entries) =
      textOf place "usage" (field "usage" entries) >>= fun usage =>
      textOf place "short" (field "short" entries) >>= fun short =>
      flags.mapM (flagOf place aroundFlags) >>= fun flags =>
      if isAgain (field "commands" entries) then .error .endless
      else commands.mapM (treeOf place aroundCommands) >>= fun trees =>
        .ok (.node { name, usage, short, flags } trees) := by
  obtain ⟨hname, hnamed⟩ := hplace
  exact ⟨_, (treeOf_of_place hname hnamed).trans (treeAt_of_lists _ _ hlists)⟩

/-- What is read of a map whose texts are in order. -/
theorem treeOf_of_texts (hplace : IsPlace parent entries place)
    (hlists : HasLists around entries flags aroundFlags commands aroundCommands)
    (husage : (field "usage" entries).IsText) (hshort : (field "short" entries).IsText) :
    ∃ name usage short, treeOf parent around (.map entries) =
      flags.mapM (flagOf place aroundFlags) >>= fun flags =>
      if isAgain (field "commands" entries) then .error .endless
      else commands.mapM (treeOf place aroundCommands) >>= fun trees =>
        .ok (.node { name, usage, short, flags } trees) := by
  obtain ⟨name, htree⟩ := treeOf_of_lists hplace hlists
  obtain ⟨usage, husage⟩ := husage
  obtain ⟨short, hshort⟩ := hshort
  exact ⟨name, usage, short, by
    rw [htree, textOf_eq_ok_iff.mpr husage, bind_ok, textOf_eq_ok_iff.mpr hshort, bind_ok]⟩

theorem exists_flags (place : String) (hflags : ∀ f ∈ flags, IsFlag aroundFlags f) :
    ∃ infos, flags.mapM (flagOf place aroundFlags) = .ok infos := by
  have hread : ∀ f ∈ flags, ∃ i, flagOf place aroundFlags f = .ok i := fun f hf => isFlag_iff_read.mp (hflags f hf)
  obtain ⟨infos, hinfos⟩ := exists_forall₂ hread
  exact ⟨infos, mapM_eq_ok_iff.mpr hinfos⟩

theorem treeOf_of_noCommand {error : TreeError} (h : NoCommand parent around d error) :
    treeOf parent around d = .error error := by
  -- the premises of a fault say that all that is read before it is there
  induction h with
  | noMap hno hagain => exact treeOf_noMap hno hagain
  | again up => rw [treeOf]
  | name hfault =>
    rw [treeOf_map, textOf_eq_error_iff.mpr hfault]
    rfl
  | noName hempty =>
    rw [treeOf_map, textOf_eq_ok_iff.mpr hempty]
    rfl
  | noLists hplace hno =>
    obtain ⟨hname, hnamed⟩ := hplace
    rw [treeOf_of_place hname hnamed, treeAt_noLists _ _ hno]
  | usage hplace hlists hfault =>
    obtain ⟨name, htree⟩ := treeOf_of_lists hplace hlists
    rw [htree, textOf_eq_error_iff.mpr hfault]
    rfl
  | short hplace hlists husage hfault =>
    obtain ⟨name, htree⟩ := treeOf_of_lists hplace hlists
    obtain ⟨usage, husage⟩ := husage
    rw [htree, textOf_eq_ok_iff.mpr husage, bind_ok, textOf_eq_error_iff.mpr hfault]
    rfl
  | flag hplace hlists husage hshort hbefore hfault =>
    obtain ⟨name, usage, short, htree⟩ := treeOf_of_texts hplace hlists husage hshort
    rw [htree, mapM_eq_error_iff.mpr ⟨_, _, _, rfl, fun b hb => isFlag_iff_read.mp (hbefore b hb),
      flagOf_eq_error_iff.mpr hfault⟩]
    rfl
  | endless hplace hlists husage hshort hflags hagain =>
    obtain ⟨name, usage, short, htree⟩ := treeOf_of_texts hplace hlists husage hshort
    obtain ⟨infos, hinfos⟩ := exists_flags _ hflags
    rw [htree, hinfos, bind_ok, if_pos hagain]
  | command hplace hlists husage hshort hflags hproper hbefore _ ih =>
    obtain ⟨name, usage, short, htree⟩ := treeOf_of_texts hplace hlists husage hshort
    obtain ⟨infos, hinfos⟩ := exists_flags _ hflags
    rw [htree, hinfos, bind_ok, if_neg (Bool.eq_false_iff.mp hproper),
      mapM_eq_error_iff.mpr ⟨_, _, _, rfl, fun b hb => isCommand_iff_read.mp (hbefore b hb), ih⟩]
    rfl

end treeOf

end TreeReader

namespace CommandTree

open TreeReader

/-- **The grammar of trees in data.**  Below every place, data is read exactly if it is the data of a command;
what is read is the tree that the data describes, and the error is its first fault.  Programs report that fault
unless it is an integer of too many digits or a command below itself, which then lies within the data. -/
theorem read_iff_grammar (d : Datum) (parent : String) :
    ((∃ t, ofDatum parent d = .ok t) ↔ IsCommand [] d) ∧
      (∀ t, ofDatum parent d = .ok t ↔ Describes [] d t) ∧
      ∀ error, (ofDatum parent d = .error error ↔ NoCommand parent [] d error) ∧
        (ofDatum parent d = .error error → Program.isReported (.noTree error) = false →
          (error = .integerTooLong ∨ error = .endless) ∧ error.ArisesIn d) := by
  refine ⟨isCommand_iff_read.symm, fun t => treeOf_eq_ok_iff, fun error => ⟨⟨noCommand_of_treeOf,
    treeOf_of_noCommand⟩, fun h hunreported => ⟨?_, ?_⟩⟩⟩
  · cases error with
    | integerTooLong => exact .inl rfl
    | endless => exact .inr rfl
    | _ => cases hunreported
  · exact faultsIn_treeOf parent (List.forall_mem_nil _) .self error h

/-- A name that is the smallest integer of too many digits. -/
theorem not_read_longName :
    let name : Int := .ofNat (Nat.pow 10 Datum.maxIntegerDigits)
    let d : Datum := .map [(.text "name", .int name)]
    (¬ ∃ t, ofDatum "" d = .ok t) ∧ ofDatum "" d = .error .integerTooLong ∧
      Program.isReported (.noTree .integerTooLong) = false := by
  intro name d
  have hlong : Datum.isShortInteger name = false := by decide +kernel
  have hfault : NoCommand "" [] d .integerTooLong := .name (.longInteger hlong)
  have herror := ((read_iff_grammar d "").2.2 .integerTooLong).1.mpr hfault
  refine ⟨?_, herror, rfl⟩
  rintro ⟨t, ht⟩
  cases ht.symm.trans herror

end CommandTree

end CommandWrap
