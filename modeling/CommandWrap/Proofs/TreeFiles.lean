import CommandWrap.Proofs.BlockTokens
import CommandWrap.Proofs.BlockValues
import CommandWrap.Proofs.TreeData
import CommandWrap.Proofs.TreeFaults

/-!
# Written trees

A tree that is written to a file is always read again, and all its names, lists and nested commands are kept.
Its texts are kept unless they are among those that do not survive a file, so the tree that is read is the one
that was written exactly if all of its texts survive (`load_written`).  Texts that hold no line break
`U+0085` and are not nested too deep survive (`load_ordinary`).
-/
namespace CommandWrap

namespace Yaml

open Lexer (LexesEntries LexesItems IsKey)
open NodeReader (ReadsEntries ReadsItems ReadsValue readsEntries_nil readsItems_nil readsValue_text)
open ScalarStyle (isSpecial)

variable {schema : Schema} {m : Nat}

/-! ## Entries and items -/

namespace Writer

/-- The text of one entry behind its indentation. -/
def entryText (schema : Schema) (m : Nat) (e : Datum × Datum) : List Char :=
  let key := keyText schema e.1
  key ++ ':' :: valueText schema m (m + key.length + 1) e.2

theorem entriesText_cons (e : Datum × Datum) (es : List (Datum × Datum)) :
    entriesText schema m false (e :: es) = entryText schema m e ++ entriesText schema m true es := by
  rw [entriesText]
  simp [entryText]

theorem entriesText_true {es : List (Datum × Datum)} (h : es ≠ []) :
    entriesText schema m true es = List.replicate m ' ' ++ entriesText schema m false es := by
  obtain ⟨e, es, rfl⟩ := List.exists_cons_of_ne_nil h
  rw [entriesText, entriesText]
  simp [spaces]

theorem itemsText_cons (d : Datum) (ds : List Datum) :
    itemsText schema m false (d :: ds) = '-' :: itemText schema m d ++ itemsText schema m true ds := by
  rw [itemsText]
  simp

theorem itemsText_true {ds : List Datum} (h : ds ≠ []) :
    itemsText schema m true ds = List.replicate m ' ' ++ itemsText schema m false ds := by
  obtain ⟨d, ds, rfl⟩ := List.exists_cons_of_ne_nil h
  rw [itemsText, itemsText]
  simp [spaces]

end Writer

/-- A key that is written as it is. -/
structure IsPlainKey (schema : Schema) (k : String) : Prop where
  isKey : IsKey k.toList
  isText : schema.kindOf k = .text
  written : Writer.keyText schema (.text k) = k.toList

/-- **An entry is read** as another one from the line it is written on. -/
def EntryReads (schema : Schema) (m : Nat) (e p : Datum × Datum) : Prop :=
  ∃ k ts, p.1 = .text k ∧ schema.kindOf k = .text ∧
    LexesEntries m (Writer.entryText schema m e) (.key :: .scalar k true :: .value :: ts) ∧ ReadsValue schema ts p.2 ∧
    ∀ c ∈ Writer.entryText schema m e, isSpecial c = false

/-- **Entries are read** as others. -/
def EntriesRead (schema : Schema) (m : Nat) (es ps : List (Datum × Datum)) : Prop :=
  ∃ ts, LexesEntries m (Writer.entriesText schema m false es) (.key :: ts) ∧ ReadsEntries schema (.key :: ts) ps ∧
    ∀ c ∈ Writer.entriesText schema m false es, isSpecial c = false

/-- **An item is read** as another one; both are maps. -/
def ItemReads (schema : Schema) (m : Nat) (d d' : Datum) : Prop :=
  ∃ ts ps, d' = .map ps ∧ IsRecord ps ∧
    LexesItems m ('-' :: Writer.itemText schema m d) (.blockEntry :: .blockMappingStart :: ts ++ [.blockEnd]) ∧
    ReadsEntries schema ts ps ∧ ∀ c ∈ Writer.itemText schema m d, isSpecial c = false

/-- **Items are read** as others. -/
def ItemsRead (schema : Schema) (m : Nat) (ds ds' : List Datum) : Prop :=
  ∃ ts, LexesItems m (Writer.itemsText schema m false ds) (.blockEntry :: ts) ∧
    ReadsItems schema (.blockEntry :: ts) ds' ∧ ∀ c ∈ Writer.itemsText schema m false ds, isSpecial c = false

theorem not_special_spaces (m : Nat) : ∀ c ∈ List.replicate m ' ', isSpecial c = false := by
  intro c hc
  rw [List.eq_of_mem_replicate hc]
  rfl

theorem not_special_key {k : String} (hk : IsPlainKey schema k) : ∀ c ∈ k.toList, isSpecial c = false := by
  rw [← hk.written]
  exact ScalarStyle.not_special_write 0 0

theorem entryReads_text {k : String} (hk : IsPlainKey schema k) (s : String) :
    EntryReads schema m (.text k, .text s) (.text k, .text (ScalarStyle.readBack schema (m + 2) s)) := by
  have htext : Writer.entryText schema m (.text k, .text s) = k.toList ++ ':' :: ' ' ::
      (ScalarStyle.write (ScalarStyle.choose schema s) (m + 2) (m + k.toList.length + 2) s.toList ++ ['\n']) := by
    rw [Writer.entryText, hk.written]
    simp [Writer.valueText, Writer.scalarText]
  refine ⟨k, [Lexer.textToken schema (m + 2) s], rfl, hk.isText, ?_, readsValue_text fun hplain => ?_, ?_⟩
  · rw [htext]
    have hlexes := Lexer.lexesEntries_text (m := m) hk.isKey schema s
    rwa [String.ofList_toList] at hlexes
  · have hstyle := beq_iff_eq.mp hplain
    have hback : ScalarStyle.readBack schema (m + 2) s = s := by rw [ScalarStyle.readBack, hstyle]
    rw [hback]
    exact (ScalarStyle.plain_spec hstyle).1
  · rw [htext]
    simp only [List.forall_mem_append, List.forall_mem_cons]
    exact ⟨not_special_key hk, rfl, rfl, ScalarStyle.not_special_write _ _, rfl, List.forall_mem_nil _⟩

/-- Entries that are read one by one. -/
theorem entriesRead {es ps : List (Datum × Datum)} (h : List.Forall₂ (EntryReads schema m) es ps) (hne : es ≠ []) :
    EntriesRead schema m es ps := by
  induction h with
  | nil => exact absurd rfl hne
  | @cons e p es ps hentry hentries ih =>
    obtain ⟨k, ts, hkey, hkind, hlexes, hreads, hplain⟩ := hentry
    obtain ⟨_, d⟩ := p
    cases hkey
    by_cases hmore : es = []
    · subst hmore
      cases hentries
      refine ⟨.scalar k true :: .value :: ts, ?_, ?_, ?_⟩
      · rw [Writer.entriesText_cons, Writer.entriesText, List.append_nil]
        exact hlexes
      · rw [← List.append_nil ts]
        exact hreads.entry hkind readsEntries_nil (.inl rfl)
      · rw [Writer.entriesText_cons, Writer.entriesText, List.append_nil]
        exact hplain
    · obtain ⟨us, hlexes', hreads', hplain'⟩ := ih hmore
      refine ⟨.scalar k true :: .value :: (ts ++ .key :: us), ?_, hreads.entry hkind hreads' (.inr ⟨us, rfl⟩), ?_⟩
      · rw [Writer.entriesText_cons, Writer.entriesText_true hmore]
        exact hlexes.append hlexes'
      · rw [Writer.entriesText_cons, Writer.entriesText_true hmore, List.forall_mem_append, List.forall_mem_append]
        exact ⟨hplain, not_special_spaces m, hplain'⟩

/-- An item whose entries are read. -/
theorem EntriesRead.item {es ps : List (Datum × Datum)} (h : EntriesRead schema (m + 2) es ps) (hne : es ≠ [])
    (hps : IsRecord ps) : ItemReads schema m (.map es) (.map ps) := by
  obtain ⟨ts, hlexes, hreads, hplain⟩ := h
  have htext : Writer.itemText schema m (.map es) = ' ' :: Writer.entriesText schema (m + 2) false es := by
    obtain ⟨e, es, rfl⟩ := List.exists_cons_of_ne_nil hne
    rw [Writer.itemText]
  refine ⟨.key :: ts, ps, rfl, hps, ?_, hreads, ?_⟩
  · rw [htext]
    exact hlexes.item
  · rw [htext, List.forall_mem_cons]
    exact ⟨rfl, hplain⟩

/-- Items that are read one by one. -/
theorem itemsRead {ds ds' : List Datum} (h : List.Forall₂ (ItemReads schema m) ds ds') (hne : ds ≠ []) :
    ItemsRead schema m ds ds' := by
  induction h with
  | nil => exact absurd rfl hne
  | @cons d d' ds ds' hitem hitems ih =>
    obtain ⟨ts, ps, rfl, hps, hlexes, hreads, hplain⟩ := hitem
    by_cases hmore : ds = []
    · subst hmore
      cases hitems
      refine ⟨.blockMappingStart :: (ts ++ [.blockEnd]), ?_, hreads.item hps readsItems_nil, ?_⟩
      · rw [Writer.itemsText_cons, Writer.itemsText, List.append_nil]
        exact hlexes
      · rw [Writer.itemsText_cons, Writer.itemsText, List.append_nil, List.forall_mem_cons]
        exact ⟨rfl, hplain⟩
    · obtain ⟨us, hlexes', hreads', hplain'⟩ := ih hmore
      refine ⟨.blockMappingStart :: (ts ++ .blockEnd :: .blockEntry :: us), ?_, hreads.item hps hreads', ?_⟩
      · rw [Writer.itemsText_cons, Writer.itemsText_true hmore]
        simpa using hlexes.append hlexes'
      · rw [Writer.itemsText_cons, Writer.itemsText_true hmore, List.cons_append, List.forall_mem_cons,
          List.forall_mem_append, List.forall_mem_append]
        exact ⟨rfl, hplain, not_special_spaces m, hplain'⟩

/-- A list whose items are read. -/
theorem entryReads_list {k : String} (hk : IsPlainKey schema k) {ds ds' : List Datum}
    (h : List.Forall₂ (ItemReads schema m) ds ds') (hne : ds ≠ []) :
    EntryReads schema m (.text k, .list ds) (.text k, .list ds') := by
  obtain ⟨ts, hlexes, hreads, hplain⟩ := itemsRead h hne
  have htext : Writer.entryText schema m (.text k, .list ds) = k.toList ++ ':' :: '\n' ::
      (List.replicate m ' ' ++ Writer.itemsText schema m false ds) := by
    rw [← Writer.itemsText_true hne]
    obtain ⟨d, ds, rfl⟩ := List.exists_cons_of_ne_nil hne
    rw [Writer.entryText, hk.written, Writer.valueText]
  refine ⟨k, .blockEntry :: ts, rfl, hk.isText, ?_, hreads.value, ?_⟩
  · rw [htext]
    have hentry := hlexes.entry hk.isKey
    rwa [String.ofList_toList] at hentry
  · rw [htext]
    simp only [List.forall_mem_append, List.forall_mem_cons]
    exact ⟨not_special_key hk, rfl, rfl, not_special_spaces m, hplain⟩

/-- **The data of a document** whose entries are read. -/
theorem ofYaml_document (hunique : schema.hasUniqueKeys = false) {es ps : List (Datum × Datum)}
    (h : EntriesRead schema 0 es ps) (hne : es ≠ []) (hps : IsRecord ps) :
    (∀ c ∈ Writer.document schema (.map es), isSpecial c = false) ∧
      Datum.ofYaml schema (Writer.document schema (.map es)) = .ok (.map ps) := by
  obtain ⟨ts, hlexes, hreads, hplain⟩ := h
  have htext : Writer.document schema (.map es) = Writer.entriesText schema 0 false es := by
    obtain ⟨e, es, rfl⟩ := List.exists_cons_of_ne_nil hne
    exact Writer.entriesText_true hne
  obtain ⟨nodes, hnodes, hmeans⟩ := NodeReader.ofText_eq hreads hps (Lexer.tokenize_eq hlexes hplain)
  rw [htext, Datum.ofYaml, hnodes, bind_ok]
  exact ⟨hplain, data_eq hunique hmeans⟩

end Yaml

/-! ## What is read back of trees -/

/-- What is read back of a flag whose map has the given indentation. -/
def Flag.reread (m : Nat) (f : Flag) : Flag :=
  let back := Yaml.ScalarStyle.readBack TreeFile.schema (m + 2)
  { name := back f.name, type := back f.type, help := back f.help }

/-- What is read back of what is said of a command; the maps of its flags are indented further. -/
def CommandInfo.reread (m : Nat) (i : CommandInfo) : CommandInfo :=
  let back := Yaml.ScalarStyle.readBack TreeFile.schema (m + 2)
  { name := back i.name, usage := back i.usage, short := back i.short, flags := i.flags.map (Flag.reread (m + 2)) }

namespace CommandTree

mutual

/-- What is read back of a tree whose map has the given indentation. -/
def reread (m : Nat) : CommandTree → CommandTree
  | .node info commands => .node (info.reread m) (rereadAll (m + 2) commands)

/-- What is read back of a row of trees. -/
def rereadAll (m : Nat) : List CommandTree → List CommandTree
  | [] => []
  | t :: ts => reread m t :: rereadAll m ts

end

theorem reread_node (m : Nat) (info : CommandInfo) (commands : List CommandTree) :
    reread m (.node info commands) = .node (info.reread m) (commands.map (reread (m + 2))) := by
  have hall (m : Nat) (ts : List CommandTree) : rereadAll m ts = ts.map (reread m) := by
    induction ts with
    | nil => rfl
    | cons t ts ih => rw [rereadAll, ih, List.map_cons]
  rw [reread, hall]

end CommandTree

/-- The texts of the flag survive. -/
def Flag.Survives (m : Nat) (f : Flag) : Prop :=
  ∀ s ∈ [f.name, f.type, f.help], Yaml.ScalarStyle.Survives TreeFile.schema (m + 2) s

/-- The texts of the command and of its flags survive. -/
def CommandInfo.Survives (m : Nat) (i : CommandInfo) : Prop :=
  (∀ s ∈ [i.name, i.usage, i.short], Yaml.ScalarStyle.Survives TreeFile.schema (m + 2) s) ∧
    ∀ f ∈ i.flags, f.Survives (m + 2)

/-- **All texts of the tree survive**, each with the indentation of its map. -/
inductive CommandTree.Survives : Nat → CommandTree → Prop
  | node {m : Nat} {info : CommandInfo} {commands : List CommandTree} (hinfo : info.Survives m)
      (hcommands : ∀ c ∈ commands, Survives (m + 2) c) : Survives m (.node info commands)

theorem map_eq_self_iff {α : Type} {f : α → α} {xs : List α} : xs.map f = xs ↔ ∀ x ∈ xs, f x = x := by
  simpa using List.map_inj_left (l := xs) (f := f) (g := id)

theorem Flag.reread_eq_iff (m : Nat) (f : Flag) : f.reread m = f ↔ f.Survives m := by
  obtain ⟨name, type, help⟩ := f
  simp [reread, Survives, Yaml.ScalarStyle.readBack_eq_iff]

theorem CommandInfo.reread_eq_iff (m : Nat) (i : CommandInfo) : i.reread m = i ↔ i.Survives m := by
  obtain ⟨name, usage, short, flags⟩ := i
  simp [reread, Survives, Yaml.ScalarStyle.readBack_eq_iff, map_eq_self_iff, Flag.reread_eq_iff, and_assoc]

namespace CommandTree

theorem reread_eq_iff (t : CommandTree) (m : Nat) : t.reread m = t ↔ t.Survives m := by
  induction t using CommandTree.induction generalizing m with
  | node info commands ih =>
    rw [reread_node, node.injEq, CommandInfo.reread_eq_iff, map_eq_self_iff]
    constructor
    · rintro ⟨hinfo, hcommands⟩
      exact .node hinfo fun c hc => (ih c hc _).mp (hcommands c hc)
    · rintro ⟨hinfo, hcommands⟩
      exact ⟨hinfo, fun c hc => (ih c hc _).mpr (hcommands c hc)⟩

/-- **An ordinary tree**: no text holds the line break `U+0085`, and commands are nested in at most so many
levels. -/
inductive IsOrdinary : Nat → CommandTree → Prop
  | node {levels : Nat} {info : CommandInfo} {commands : List CommandTree}
      (htexts : ∀ s ∈ [info.name, info.usage, info.short], '\u0085' ∉ s.toList)
      (hflags : ∀ f ∈ info.flags, ∀ s ∈ [f.name, f.type, f.help], '\u0085' ∉ s.toList)
      (hcommands : ∀ c ∈ commands, IsOrdinary levels c) : IsOrdinary (levels + 1) (.node info commands)

theorem IsOrdinary.survives {t : CommandTree} {levels m : Nat} (h : t.IsOrdinary levels) (hlevels : m + 2 * levels < 78) :
    t.Survives m := by
  have htext {s : String} {indent : Nat} (hbreak : '\u0085' ∉ s.toList) (hindent : indent < 80) :
      Yaml.ScalarStyle.Survives TreeFile.schema indent s := by
    rw [Yaml.ScalarStyle.Survives]
    split
    · trivial
    · exact hbreak
    · exact .inl hindent
  induction h generalizing m with
  | node htexts hflags hcommands ih =>
    refine .node ⟨fun s hs => htext (htexts s hs) (by omega), fun f hf s hs => ?_⟩ fun c hc => ih c hc (by omega)
    exact htext (hflags f hf s hs) (by omega)

/-- Names stay names. -/
theorem IsNamed.reread {t : CommandTree} (h : t.IsNamed) (m : Nat) : (t.reread m).IsNamed := by
  induction t using CommandTree.induction generalizing m with
  | node info commands ih =>
    obtain ⟨⟨hname, hflags⟩, hcommands⟩ := h
    rw [reread_node]
    refine .node ⟨Yaml.ScalarStyle.readBack_ne_empty hname, fun f hf => ?_⟩ fun c hc => ?_
    · obtain ⟨f, hmem, rfl⟩ := List.mem_map.mp hf
      obtain ⟨hname, htype⟩ := hflags f hmem
      exact ⟨Yaml.ScalarStyle.readBack_ne_empty hname, Yaml.ScalarStyle.readBack_ne_empty htype⟩
    · obtain ⟨c, hmem, rfl⟩ := List.mem_map.mp hc
      exact ih c hmem (hcommands c hmem) _

end CommandTree

namespace TreeReader

open Yaml (EntriesRead EntryReads IsRecord IsPlainKey ItemReads entriesRead entryReads_list entryReads_text)
open TreeFile (schema)

theorem isPlainKey {k : String} (hk : k ∈ ["name", "usage", "short", "flags", "commands", "type", "help"]) :
    IsPlainKey schema k := by
  simp only [List.mem_cons, List.not_mem_nil, or_false] at hk
  rcases hk with rfl | rfl | rfl | rfl | rfl | rfl | rfl
  all_goals exact ⟨⟨by decide, List.all_eq_true.mp rfl, by decide⟩, by decide, by decide⟩

theorem isRecord_of_keys {ps : List (Datum × Datum)} (ks : List String) (hks : ks.Nodup)
    (h : (ps.map Prod.fst).Sublist (ks.map Datum.text)) : IsRecord ps := by
  refine ⟨fun p hp => ?_, ?_⟩
  · obtain ⟨k, -, hk⟩ := List.mem_map.mp (h.subset (List.mem_map_of_mem hp))
    exact ⟨k, hk.symm⟩
  · have hnodup : (ks.map Datum.text).Nodup := hks.map fun _ _ => Datum.text.inj
    exact List.pairwise_map.mp (hnodup.sublist h)

theorem isRecord_flag (f : Flag) : IsRecord [entry "name" f.name, entry "type" f.type, entry "help" f.help] :=
  isRecord_of_keys ["name", "type", "help"] (by decide) (List.Sublist.refl _)

theorem isRecord_entriesOf (info : CommandInfo) (commands : List CommandTree) : IsRecord (entriesOf info commands) := by
  have hlist (key : String) (items : List Datum) : ((listEntry key items).map Prod.fst).Sublist [.text key] := by
    rw [listEntry]
    split
    · exact List.nil_sublist _
    · exact List.Sublist.refl _
  refine isRecord_of_keys ["name", "usage", "short", "flags", "commands"] (by decide) ?_
  rw [entriesOf, List.map_append, List.map_append, List.append_assoc]
  exact .append (.refl _) (.append (hlist _ _) (hlist _ _))

/-- A flag is read as what is read back of it. -/
theorem itemReads_flag (m : Nat) (f : Flag) : ItemReads schema m (flagDatum f) (flagDatum (f.reread (m + 2))) := by
  have hentry {k : String} (hk : k ∈ ["name", "type", "help"]) (s : String) :
      EntryReads schema (m + 2) (entry k s) (entry k (Yaml.ScalarStyle.readBack schema (m + 2 + 2) s)) :=
    entryReads_text (isPlainKey (by revert k; decide)) s
  refine (entriesRead ?_ (List.cons_ne_nil _ _)).item (List.cons_ne_nil _ _) (isRecord_flag _)
  exact .cons (hentry (by simp) _) (.cons (hentry (by simp) _) (.cons (hentry (by simp) _) .nil))

theorem listReads {m : Nat} {k : String} (hk : IsPlainKey schema k) {ds ds' : List Datum}
    (h : List.Forall₂ (ItemReads schema m) ds ds') :
    List.Forall₂ (EntryReads schema m) (listEntry k ds) (listEntry k ds') := by
  cases h with
  | nil => exact .nil
  | cons hitem hitems => exact .cons (entryReads_list hk (.cons hitem hitems) (List.cons_ne_nil _ _)) .nil

theorem datumOf_eq (t : CommandTree) : datumOf t = .map (entriesOf t.info t.commands) := by
  cases t with
  | node info commands => exact datumOf_node info commands

/-- **The entries of a command** are read as what is read back of them. -/
theorem entriesRead_tree (t : CommandTree) (m : Nat) :
    EntriesRead schema m (entriesOf t.info t.commands) (entriesOf (t.reread m).info (t.reread m).commands) := by
  induction t using CommandTree.induction generalizing m with
  | node info commands ih =>
    rw [CommandTree.reread_node]
    -- texts stand in the lines of the command itself, flags and subcommands in maps two columns further in
    have hentry {k : String} (hk : k ∈ ["name", "usage", "short"]) (s : String) :
        EntryReads schema m (entry k s) (entry k (Yaml.ScalarStyle.readBack schema (m + 2) s)) :=
      entryReads_text (isPlainKey (by revert k; decide)) s
    have hflags : List.Forall₂ (ItemReads schema m) (info.flags.map flagDatum)
        ((info.reread m).flags.map flagDatum) := by
      rw [List.forall₂_map_left_iff, CommandInfo.reread, List.map_map, List.forall₂_map_right_iff, List.forall₂_same]
      exact fun f _ => itemReads_flag m f
    have hcommands : List.Forall₂ (ItemReads schema m) (commands.map datumOf)
        ((commands.map (CommandTree.reread (m + 2))).map datumOf) := by
      rw [List.forall₂_map_left_iff, List.map_map, List.forall₂_map_right_iff, List.forall₂_same]
      intro c hc
      rw [Function.comp_apply, datumOf_eq, datumOf_eq]
      exact (ih c hc (m + 2)).item (List.cons_ne_nil _ _) (isRecord_entriesOf _ _)
    refine entriesRead (.cons (hentry (by simp) _) (.cons (hentry (by simp) _) (.cons (hentry (by simp) _) ?_)))
      (List.cons_ne_nil _ _)
    exact List.rel_append (listReads (isPlainKey (by simp)) hflags) (listReads (isPlainKey (by simp)) hcommands)

end TreeReader

namespace TreeFile

open Text (Utf8.decode Utf8.encode Utf8.normalizeNewlines)
open Yaml (EntriesRead)

theorem normalizeNewlines_eq {text : List Char} (h : '\r' ∉ text) : Utf8.normalizeNewlines text = text := by
  induction text with
  | nil => rfl
  | cons c text ih =>
    rw [List.mem_cons, not_or] at h
    rw [Utf8.normalizeNewlines, if_neg (Ne.symm h.1), ih h.2]
    rintro text rfl
    exact absurd rfl h.1

/-- **A written tree is read again**, as what is read back of it. -/
theorem parse_write {t : CommandTree} (ht : t.IsNamed) (path : String) :
    '\r' ∉ (write t).toList ∧ parse path (write t).toList = .ok (t.reread 0) := by
  have hwritten : (write t).toList =
      Yaml.Writer.document schema (.map (TreeReader.entriesOf t.info t.commands)) := by
    rw [write, String.toList_ofList, CommandTree.toDatum, TreeReader.datumOf_eq]
  have htree : CommandTree.ofDatum "" (.map (TreeReader.entriesOf (t.reread 0).info (t.reread 0).commands)) =
      .ok (t.reread 0) := by
    rw [← TreeReader.datumOf_eq]
    exact TreeReader.treeOf_datumOf (ht.reread 0) "" []
  obtain ⟨hplain, hdata⟩ := Yaml.ofYaml_document rfl (TreeReader.entriesRead_tree t 0) (List.cons_ne_nil _ _)
    (TreeReader.isRecord_entriesOf _ _)
  rw [hwritten]
  refine ⟨fun hreturn => absurd (hplain _ hreturn) (by decide), ?_⟩
  rw [parse, hdata]
  exact congrArg (Except.mapError TreeFileError.noTree) htree

section load

variable {f : Folder} {path : Path} {t : CommandTree}

theorem load_reread (ht : t.IsNamed) (hread : f.read path = .ok (write t).toUTF8.toList) :
    load f path = .ok (t.reread 0) := by
  obtain ⟨hreturn, hparse⟩ := parse_write ht path.text
  rw [load_of_read hread, (Text.Utf8.decode_eq_ok_iff _ (write t).toList).mpr (Text.Utf8.toList_toUTF8 _)]
  exact (congrArg (parse path.text) (normalizeNewlines_eq hreturn)).trans hparse

/-- An ordinary tree of at most 38 levels is read as it was written. -/
theorem load_ordinary (ht : t.IsNamed) {levels : Nat} (hordinary : t.IsOrdinary levels) (hlevels : levels ≤ 38)
    (hread : f.read path = .ok (write t).toUTF8.toList) : load f path = .ok t := by
  have hsame := (t.reread_eq_iff 0).mpr (hordinary.survives (by omega))
  rw [load_reread ht hread, hsame]

/-- **A tree that is written to a file** is read again, as what is read back of it: the same tree exactly if all
its texts survive. -/
theorem load_written (ht : t.IsNamed) (hread : f.read path = .ok (write t).toUTF8.toList) :
    load f path = .ok (t.reread 0) ∧ (t.reread 0 = t ↔ t.Survives 0) :=
  ⟨load_reread ht hread, t.reread_eq_iff 0⟩

end load

/-- The line break `U+0085` between two letters is read back as a space. -/
theorem load_written_break :
    let t : CommandTree := .node { name := "t", short := "a\u0085b" } []
    let f : Folder := { items := [(["tree.yaml"], .file (write t).toUTF8.toList)] }
    let path : Path := { names := ["tree.yaml"] }
    t.IsNamed ∧ f.read path = .ok (write t).toUTF8.toList ∧
      load f path = .ok (.node { name := "t", short := "a b" } []) ∧ ¬ t.Survives 0 := by
  intro t f path
  have ht : t.IsNamed := .node ⟨by decide, List.forall_mem_nil _⟩ (List.forall_mem_nil _)
  have hread : f.read path = .ok (write t).toUTF8.toList := rfl
  have hback : t.reread 0 = .node { name := "t", short := "a b" } [] := by rfl
  obtain ⟨hload, hiff⟩ := load_written ht hread
  rw [hback] at hload hiff
  refine ⟨ht, hread, hload, fun hsurvives => ?_⟩
  have hshort : "a b" = "a\u0085b" := congrArg (fun u => u.info.short) (hiff.mpr hsurvives)
  exact absurd hshort (by decide)

end TreeFile

end CommandWrap
