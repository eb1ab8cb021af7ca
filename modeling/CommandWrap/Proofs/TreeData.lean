import CommandWrap.Document.TreeReader
import CommandWrap.Proofs.Outcomes

/-!
# Command trees as data

A tree whose commands, flags and types have names is read back from its own data, below every place
(`treeOf_datumOf`).  Data may be written more loosely than that: keys may be missing, empty or unknown, and
texts may be numbers.  What is read from such data is still a tree with names, and the place below which it
is read shows in errors only (`named_of_treeOf`, `treeOf_place`).
-/
namespace CommandWrap

/-! ## Trees with names -/

/-- The flag and its type have names. -/
def Flag.IsNamed (f : Flag) : Prop :=
  f.name ≠ "" ∧ f.type ≠ ""

/-- The command, its flags and their types have names. -/
def CommandInfo.IsNamed (i : CommandInfo) : Prop :=
  i.name ≠ "" ∧ ∀ f ∈ i.flags, f.IsNamed

/-- **A tree with names**: all its commands, their flags and the types of those have names. -/
inductive CommandTree.IsNamed : CommandTree → Prop
  | node {info : CommandInfo} {commands : List CommandTree} (hinfo : info.IsNamed)
      (hcommands : ∀ c ∈ commands, c.IsNamed) : IsNamed (.node info commands)

/-- What holds of a command as soon as it holds of its subcommands holds of every tree. -/
theorem CommandTree.induction {motive : CommandTree → Prop}
    (node : ∀ info commands, (∀ c ∈ commands, motive c) → motive (.node info commands)) :
    ∀ t, motive t
  | .node info commands => node info commands fun c hc =>
    have hlt : sizeOf c < sizeOf (CommandTree.node info commands) := by
      have := List.sizeOf_lt_of_mem hc
      simp only [CommandTree.node.sizeOf_spec]
      omega
    induction node c
termination_by t => sizeOf t
decreasing_by exact hlt

namespace TreeReader

open Datum

/-! ## The steps of the reader -/

theorem treesOf_eq_mapM (place : String) (around ds : List Datum) :
    treesOf place around ds = ds.mapM (treeOf place around) := by
  induction ds with
  | nil => rw [treesOf, List.mapM_nil]; rfl
  | cons d ds ih => rw [treesOf, List.mapM_cons, ih]

theorem dataOf_eq_map (ts : List CommandTree) : dataOf ts = ts.map datumOf := by
  induction ts with
  | nil => rfl
  | cons t ts ih => rw [dataOf, ih, List.map_cons]

/-- The tree that a map describes once its name and its place are known. -/
def treeAt (place name : String) (around : List Datum) (entries : List (Datum × Datum)) :
    Except TreeError CommandTree :=
  match itemsOf? around (field "flags" entries), itemsOf? around (field "commands" entries) with
  | some (flags, aroundFlags), some (commands, aroundCommands) => do
    let usage ← textOf place "usage" (field "usage" entries)
    let short ← textOf place "short" (field "short" entries)
    let flags ← flags.mapM (flagOf place aroundFlags)
    if isAgain (field "commands" entries) then .error .endless
    else
      let trees ← commands.mapM (treeOf place aroundCommands)
      return .node { name, usage, short, flags } trees
  | _, _ => .error (.noLists place)

theorem treeOf_map (parent : String) (around : List Datum) (entries : List (Datum × Datum)) :
    treeOf parent around (.map entries) =
      textOf (placeOf parent) "name" (field "name" entries) >>= fun name =>
        if name.isEmpty then .error (.commandNoName (placeOf parent))
        else treeAt (Text.strip (parent ++ " " ++ name)) name (.map entries :: around) entries := by
  rw [treeOf]
  simp only [treesOf_eq_mapM]
  congr 1
  funext name
  split
  · rfl
  simp only [treeAt]
  split
  · rename_i hf hc
    rw [hf, hc]
    simp only [dite_eq_ite]
  · rename_i hno
    split
    · rename_i hf hc
      exact absurd hc (hno _ _ _ _ hf)
    · rfl

/-- The flag that a map describes once its name is known. -/
def flagAt (place name : String) (entries : List (Datum × Datum)) : Except TreeError Flag := do
  let type ← textOf place "type" (field "type" entries)
  let help ← textOf place "help" (field "help" entries)
  return { name, type := if type.isEmpty then "string" else type, help }

theorem flagOf_map {around : List Datum} {d : Datum} {entries : List (Datum × Datum)}
    (h : (d.meant around).1 = .map entries) (place : String) :
    flagOf place around d = textOf place "name" (field "name" entries) >>= fun name =>
      if name.isEmpty then .error (.flagNoName place) else flagAt place name entries := by
  rw [flagOf, h]
  rfl

/-- A command is smaller than the map among whose commands it stands. -/
theorem sizeOf_command_lt {around outer commands : List Datum} {entries : List (Datum × Datum)}
    (hproper : isAgain (field "commands" entries) = false)
    (hcommands : itemsOf? around (field "commands" entries) = some (commands, outer)) {c : Datum} (hc : c ∈ commands) :
    sizeOf c < sizeOf (Datum.map entries) := by
  have hitems := sizeOf_itemsOf hproper hcommands
  have hfield := sizeOf_field "commands" entries
  have hmem := List.sizeOf_lt_of_mem hc
  rw [map.sizeOf_spec]
  omega

/-! ## The place below which data is read -/

section place

variable (place place' : String)

theorem toOption_textOf (key : String) (d : Datum) :
    (textOf place key d).toOption = (textOf place' key d).toOption := by
  cases d <;> rfl

theorem toOption_flagOf (around : List Datum) (d : Datum) :
    (flagOf place around d).toOption = (flagOf place' around d).toOption := by
  cases hd : (d.meant around).1 with
  | map entries =>
    simp only [flagOf_map hd, flagAt, toOption_bind, apply_ite Except.toOption, toOption_textOf place place']
    rfl
  | _ =>
    simp only [flagOf, hd]
    rfl

/-- The place shows in errors only. -/
theorem toOption_treeOf (around : List Datum) (d : Datum) :
    (treeOf place around d).toOption = (treeOf place' around d).toOption := by
  -- on the size of the data: the subcommands are looked up among the entries
  induction hsize : sizeOf d using Nat.strongRecOn generalizing place place' around d with
  | _ size ih =>
    cases d with
    | map entries =>
      have hbody (here there name : String) : (treeAt here name (.map entries :: around) entries).toOption =
          (treeAt there name (.map entries :: around) entries).toOption := by
        unfold treeAt
        split
        · rename_i commands aroundCommands _ hcommands
          have htrees (hagain : isAgain (field "commands" entries) = false) :
              (commands.mapM (treeOf here aroundCommands)).toOption =
                (commands.mapM (treeOf there aroundCommands)).toOption := by
            rw [toOption_mapM, toOption_mapM]
            exact mapM_congr_of_mem fun c hc => ih _ (hsize ▸ sizeOf_command_lt hagain hcommands hc) _ _ _ _ rfl
          cases hagain : isAgain (field "commands" entries) with
          | true =>
            simp only [toOption_bind, toOption_mapM, toOption_textOf here there, toOption_flagOf here there]
            rfl
          | false =>
            simp only [Bool.false_eq_true, if_false, toOption_bind, toOption_mapM (flagOf _ _),
              toOption_textOf here there, toOption_flagOf here there, htrees hagain]
        · rfl
      rw [treeOf_map, treeOf_map, toOption_bind, toOption_bind, toOption_textOf (placeOf place) (placeOf place')]
      congr 1
      funext name
      split
      · rfl
      · exact hbody _ _ name
    | _ => simp only [treeOf] <;> rfl

end place

/-! ## Data that trees are read from -/

theorem named_of_flagOf {place : String} {around : List Datum} {d : Datum} {f : Flag}
    (h : flagOf place around d = .ok f) : f.IsNamed := by
  cases hd : (d.meant around).1 with
  | map entries =>
    rw [flagOf_map hd, bind_eq_ok_iff] at h
    obtain ⟨name, -, h⟩ := h
    split at h
    · cases h
    rename_i hname
    simp only [flagAt, bind_eq_ok_iff] at h
    obtain ⟨type, -, help, -, hf⟩ := h
    cases hf
    refine ⟨mt String.isEmpty_iff.mpr hname, ?_⟩
    dsimp only
    split
    · decide
    · rename_i htype
      exact mt String.isEmpty_iff.mpr htype
  | _ =>
    rw [flagOf, hd] at h
    cases h

/-- What is read as a tree has names. -/
theorem named_of_treeOf {place : String} {around : List Datum} {d : Datum} {t : CommandTree}
    (h : treeOf place around d = .ok t) : t.IsNamed := by
  -- on the size of the data: the subcommands are looked up among the entries
  induction hsize : sizeOf d using Nat.strongRecOn generalizing place around d t with
  | _ size ih =>
    cases d with
    | map entries =>
      rw [treeOf_map, bind_eq_ok_iff] at h
      obtain ⟨name, -, h⟩ := h
      split at h
      · cases h
      rename_i hname
      rw [treeAt] at h
      split at h
      · rename_i flags _ commands aroundCommands _ hcommands
        simp only [bind_eq_ok_iff] at h
        obtain ⟨usage, -, short, -, infos, hinfos, h⟩ := h
        split at h
        · cases h
        rename_i hagain
        obtain ⟨trees, htrees, h⟩ := bind_eq_ok_iff.mp h
        cases h
        rw [mapM_eq_ok_iff] at hinfos htrees
        refine .node ⟨mt String.isEmpty_iff.mpr hname, fun f hf => ?_⟩ fun c hc => ?_
        · obtain ⟨e, -, he⟩ := exists_left_of_mem hinfos hf
          exact named_of_flagOf he
        · obtain ⟨e, hmem, he⟩ := exists_left_of_mem htrees hc
          exact ih _ (hsize ▸ sizeOf_command_lt (Bool.eq_false_iff.mpr hagain) hcommands hmem) he rfl
      · cases h
    | _ =>
      rw [treeOf] at h <;> simp_all

/-! ## The data of a tree -/

theorem lookup_append (key : String) (es fs : List (Datum × Datum)) :
    lookup key (es ++ fs) = (lookup key fs).or (lookup key es) := by
  induction es with
  | nil => simp [lookup]
  | cons e es ih =>
    obtain ⟨k, v⟩ := e
    rw [List.cons_append, lookup, lookup, ih]
    cases lookup key fs <;> rfl

theorem lookup_listEntry_of_ne {key key' : String} (h : key' ≠ key) (items : List Datum) :
    lookup key (listEntry key' items) = none := by
  unfold listEntry
  split
  · rfl
  · simp [lookup, isText, h]

/-- What stands for a list in the data of a command: nothing for the empty list. -/
def listOrNull (items : List Datum) : Datum :=
  if items.isEmpty then .null else .list items

theorem field_listEntry (key : String) (items : List Datum) :
    (lookup key (listEntry key items)).getD .null = listOrNull items := by
  unfold listEntry listOrNull
  split
  · rfl
  · simp [lookup, isText]

theorem itemsOf_listOrNull (around items : List Datum) :
    ∃ outer, itemsOf? around (listOrNull items) = some (items, outer) := by
  unfold listOrNull
  split
  · rename_i h
    rw [List.isEmpty_iff.mp h]
    exact ⟨[], rfl⟩
  · exact ⟨.list items :: around, rfl⟩

theorem isAgain_listOrNull (items : List Datum) : isAgain (listOrNull items) = false := by
  unfold listOrNull
  split <;> rfl

/-- The entries of the data of a command. -/
def entriesOf (info : CommandInfo) (commands : List CommandTree) : List (Datum × Datum) :=
  [entry "name" info.name, entry "usage" info.usage, entry "short" info.short] ++
    listEntry "flags" (info.flags.map flagDatum) ++ listEntry "commands" (commands.map datumOf)

theorem datumOf_node (info : CommandInfo) (commands : List CommandTree) :
    datumOf (.node info commands) = .map (entriesOf info commands) := by
  rw [datumOf, dataOf_eq_map]
  rfl

section entries

variable (info : CommandInfo) (commands : List CommandTree)

theorem field_text {key : String} (hflags : key ≠ "flags") (hcommands : key ≠ "commands") :
    field key (entriesOf info commands) =
      field key [entry "name" info.name, entry "usage" info.usage, entry "short" info.short] := by
  rw [entriesOf, field, lookup_append, lookup_append, lookup_listEntry_of_ne hflags.symm,
    lookup_listEntry_of_ne hcommands.symm]
  rfl

theorem field_name : field "name" (entriesOf info commands) = .text info.name := by
  rw [field_text _ _ (by decide) (by decide)]
  rfl

theorem field_usage : field "usage" (entriesOf info commands) = .text info.usage := by
  rw [field_text _ _ (by decide) (by decide)]
  rfl

theorem field_short : field "short" (entriesOf info commands) = .text info.short := by
  rw [field_text _ _ (by decide) (by decide)]
  rfl

theorem field_flags : field "flags" (entriesOf info commands) = listOrNull (info.flags.map flagDatum) := by
  rw [← field_listEntry "flags", entriesOf, field, lookup_append, lookup_append,
    lookup_listEntry_of_ne (by decide)]
  cases lookup "flags" (listEntry "flags" (info.flags.map flagDatum)) <;> rfl

theorem field_commands : field "commands" (entriesOf info commands) = listOrNull (commands.map datumOf) := by
  rw [← field_listEntry "commands", entriesOf, field, lookup_append, lookup_append,
    lookup_listEntry_of_ne (show "flags" ≠ "commands" by decide)]
  cases lookup "commands" (listEntry "commands" (commands.map datumOf)) <;> rfl

end entries

theorem flagOf_flagDatum {f : Flag} (hf : f.IsNamed) (place : String) (around : List Datum) :
    flagOf place around (flagDatum f) = .ok f := by
  have hmap : ((flagDatum f).meant around).1 =
      .map [entry "name" f.name, entry "type" f.type, entry "help" f.help] := rfl
  have hname := String.isEmpty_eq_false_iff.mpr hf.1
  have htype := String.isEmpty_eq_false_iff.mpr hf.2
  rw [flagOf_map hmap]
  simp [field, lookup, isText, entry, textOf, bind, Except.bind, flagAt, hname, htype, pure, Except.pure]

/-- **A tree with names is read back from its data.** -/
theorem treeOf_datumOf {t : CommandTree} (ht : t.IsNamed) (place : String) (around : List Datum) :
    treeOf place around (datumOf t) = .ok t := by
  induction t using CommandTree.induction generalizing place around with
  | node info commands ih =>
    obtain ⟨⟨hname, hflags⟩, hcommands⟩ := ht
    have hinfos (place : String) (around : List Datum) :
        (info.flags.map flagDatum).mapM (flagOf place around) = .ok info.flags := by
      rw [mapM_eq_ok_iff, List.forall₂_map_left_iff, List.forall₂_same]
      exact fun f hf => flagOf_flagDatum (hflags f hf) place around
    have htrees (place : String) (around : List Datum) :
        (commands.map datumOf).mapM (treeOf place around) = .ok commands := by
      rw [mapM_eq_ok_iff, List.forall₂_map_left_iff, List.forall₂_same]
      exact fun c hc => ih c hc (hcommands c hc) place around
    obtain ⟨aroundFlags, hitems⟩ := itemsOf_listOrNull (.map (entriesOf info commands) :: around)
      (info.flags.map flagDatum)
    obtain ⟨aroundCommands, hdata⟩ := itemsOf_listOrNull (.map (entriesOf info commands) :: around)
      (commands.map datumOf)
    rw [datumOf_node, treeOf_map, field_name, textOf, bind_ok, String.isEmpty_eq_false_iff.mpr hname, if_neg Bool.false_ne_true,
      treeAt, field_flags, field_commands, field_usage, field_short, hitems, hdata]
    dsimp only
    rw [textOf, bind_ok, textOf, bind_ok, hinfos, bind_ok, isAgain_listOrNull, if_neg Bool.false_ne_true,
      htrees, bind_ok]
    rfl

end TreeReader

namespace CommandTree

/-- **Trees and their data.**  A tree with names is read back from its data.  Whatever data a tree is read from,
the tree has names, is read below every place, and is read again from its own data. -/
theorem data_roundTrip :
    (∀ (t : CommandTree) (parent : String), t.IsNamed → ofDatum parent t.toDatum = .ok t) ∧
      ∀ (d : Datum) (parent : String) (t : CommandTree), ofDatum parent d = .ok t →
        t.IsNamed ∧ (∀ other, ofDatum other d = .ok t) ∧ ofDatum parent t.toDatum = .ok t := by
  constructor
  · intro t parent ht
    exact TreeReader.treeOf_datumOf ht parent []
  · intro d parent t h
    have ht := TreeReader.named_of_treeOf h
    refine ⟨ht, fun other => ?_, TreeReader.treeOf_datumOf ht parent []⟩
    rw [← toOption_eq_some_iff, ofDatum, TreeReader.toOption_treeOf other parent]
    exact toOption_eq_some_iff.mpr h

/-- Data with a number in place of a text, keys without values and keys that mean nothing. -/
def looseData : Datum :=
  .map [(.text "commands", .list [.map [(.text "flags", .text ""), (.text "name", .text "run")]]),
    (.text "name", .text "old"), (.text "aliases", .list []), (.int 1, .bool true), (.text "usage", .null),
    (.text "name", .int 7)]

/-- The tree that the data describes. -/
def looseTree : CommandTree :=
  .node { name := "7" } [.node { name := "run" } []]

theorem data_roundTrip_loose : ofDatum "" looseData = .ok looseTree ∧
    looseTree.IsNamed ∧ ofDatum "tool" looseData = .ok looseTree ∧
      ofDatum "" looseTree.toDatum = .ok looseTree := by
  have hseven (place : String) : TreeReader.textOf place "name" (.int 7) = .ok "7" := by
    have hshort : Datum.hasText (.int 7) = true := by decide +kernel
    rw [TreeReader.textOf, if_pos hshort]
    rfl
  have hchildren (place : String) (around : List Datum) : List.mapM (TreeReader.treeOf place around)
      [.map [(.text "flags", .text ""), (.text "name", .text "run")]] = .ok [.node { name := "run" } []] := by
    rw [List.mapM_cons, TreeReader.treeOf_map]
    rfl
  have hread : ofDatum "" looseData = .ok looseTree := by
    rw [ofDatum, looseData, TreeReader.treeOf_map]
    refine (congrArg (· >>= _) (hseven _)).trans ?_
    rw [bind_ok, if_neg (by decide)]
    exact congrArg (· >>= fun trees => .ok (CommandTree.node { name := "7" } trees)) (hchildren _ _)
  obtain ⟨hnamed, hplace, hagain⟩ := data_roundTrip.2 looseData "" looseTree hread
  exact ⟨hread, hnamed, hplace "tool", hagain⟩

end CommandTree

end CommandWrap
