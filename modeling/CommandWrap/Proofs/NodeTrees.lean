import CommandWrap.Proofs.NodeData
import CommandWrap.Proofs.NodeTexts

/-!
# Trees that nodes write

A map of nodes writes a tree: its texts are read of the nodes of their keys, and its flags and commands are written by
the items of its lists, which may be aliases of nodes elsewhere (`Writes`).  Data that holds itself is resolved on the
way: the nodes around a node show the data around its datum (`Stacked`).  The root of a file writes the tree that is
loaded from it (`TreeFile.writes_of_parse`), so every text of the tree is traced to the scalar that is written for it,
and plain scalars are kept exactly if each number or time among them is spelled as its value is written
(`TreeFile.plain_texts_kept_iff`).
-/
namespace CommandWrap

open TreeReader (Describes DescribesFlag Lists describesAll_iff)
open Datum (field lookup)

namespace Yaml

namespace Builder

variable {schema : Schema} {nodes : Array Node} {b : Builder}

/-! ## Trees that nodes write -/

/-- The node of the last value of a key that is a text. -/
def valueAt? (b : Builder) (key : String) : List (Nat × Nat) → Option Nat
  | [] => none
  | (k, v) :: rest =>
    match valueAt? b key rest with
    | some w => some w
    | none => if (b.scalars.getD k none).any (·.isText key) then some v else none

/-- The items of a list; other nodes have none. -/
def itemsAt (schema : Schema) (b : Builder) : Option Nat → List Nat
  | none => []
  | some n =>
    match (b.nodeAt n).kind schema, (b.nodeAt n).body with
    | .list, .sequence items => items
    | _, _ => []

/-- **How a text is read** of the node that is written for it, if one is: `missing` stands for the empty text. -/
abbrev Reading := (missing : String) → Option Nat → String → Prop

/-- **The flag that a map of nodes writes.** -/
inductive WritesFlag (schema : Schema) (b : Builder) (R : Reading) : Nat → Flag → Prop
  | map {n : Nat} {es : List (Nat × Nat)} {f : Flag} (hmap : IsMap schema b n es)
    (hname : R "" (b.valueAt? "name" es) f.name) (htype : R "string" (b.valueAt? "type" es) f.type)
    (hhelp : R "" (b.valueAt? "help" es) f.help) : WritesFlag schema b R n f

/-- **The tree that a map of nodes writes.** -/
inductive Writes (schema : Schema) (b : Builder) (R : Reading) : Nat → CommandTree → Prop
  | node {n : Nat} {es : List (Nat × Nat)} {info : CommandInfo} {trees : List CommandTree} (hmap : IsMap schema b n es)
    (hname : R "" (b.valueAt? "name" es) info.name) (husage : R "" (b.valueAt? "usage" es) info.usage)
    (hshort : R "" (b.valueAt? "short" es) info.short)
    (hflags : List.Forall₂ (WritesFlag schema b R) (itemsAt schema b (b.valueAt? "flags" es)) info.flags)
    (hcommands : List.Forall₂ (Writes schema b R) (itemsAt schema b (b.valueAt? "commands" es)) trees) :
    Writes schema b R n (.node info trees)

/-- The datum of a value. -/
theorem lookup_of_valueAt? (key : String) {es : List (Nat × Nat)} {ps : List (Datum × Datum)}
    (hlength : es.length = ps.length) (hkeys : ∀ p ∈ es.zip ps, b.scalars[p.1.1]? = some (some p.2.1)) :
    (b.valueAt? key es = none ∧ lookup key ps = none) ∨
      ∃ p ∈ es.zip ps, b.valueAt? key es = some p.1.2 ∧ lookup key ps = some p.2.2 := by
  induction es generalizing ps with
  | nil =>
    rw [List.length_eq_zero_iff.mp hlength.symm]
    exact .inl ⟨rfl, rfl⟩
  | cons e es ih =>
    obtain ⟨q, ps, rfl⟩ := List.exists_cons_of_length_eq_add_one hlength.symm
    rw [List.zip_cons_cons, List.forall_mem_cons] at hkeys
    obtain ⟨k, v⟩ := e
    obtain ⟨l, d⟩ := q
    rw [valueAt?, lookup, List.zip_cons_cons]
    rcases ih (Nat.succ.inj hlength) hkeys.2 with ⟨hnone, hnone'⟩ | ⟨p, hp, hvalue, hdatum⟩
    · have hkey : b.scalars.getD k none = some l := by
        rw [Array.getD_eq_getD_getElem?, hkeys.1]
        rfl
      rw [hnone, hnone', hkey]
      cases htext : l.isText key with
      | false => simp [htext]
      | true => exact .inr ⟨((k, v), (l, d)), List.mem_cons_self, by simp [htext], by simp⟩
    · rw [hvalue, hdatum]
      exact .inr ⟨p, List.mem_cons_of_mem _ hp, rfl, rfl⟩

/-- The value of a scalar is no container, and no reference back to one. -/
theorem containerKind?_of_isValue {d : Datum} (h : IsValue d) : d.containerKind? = none := by
  rcases h with ⟨kind, text, h⟩ | ⟨text, h⟩
  · cases valueOf_of_scalarOf h <;> rfl
  · obtain ⟨bytes, rfl⟩ := exists_of_bytesOf h
    rfl

section Shows

variable {ns : List Nat} {n : Nat} (hvalues : b.HasValues)

include hvalues

/-- A node that shows a map is a map, and shows the values of its texts. -/
theorem isMap_of_shows {entries : List (Datum × Datum)} (h : Shows schema b ns n (.map entries)) :
    ∃ es, IsMap schema b n es ∧ ∀ key, (b.valueAt? key es = none ∧ lookup key entries = none) ∨
      ∃ v d, b.valueAt? key es = some v ∧ lookup key entries = some d ∧ Shows schema b (n :: ns) v d := by
  generalize hd : Datum.map entries = d at h
  cases h with
  | scalar hvalue =>
    subst hd
    cases containerKind?_of_isValue (hvalues n _ hvalue)
  | map hmap hlength hkeys hshows =>
    refine ⟨_, hmap, fun key => ?_⟩
    rw [Datum.lookup_ofEntries hd.symm key]
    rcases lookup_of_valueAt? key hlength hkeys with hnone | ⟨p, hp, hvalue, hdatum⟩
    · exact .inl hnone
    · exact .inr ⟨p.1.2, p.2.2, hvalue, hdatum, hshows p hp⟩
  | sealed _ htexts =>
    subst hd
    cases htexts
  | _ => cases hd

/-- A node that shows a list is a list and shows its items, or the items are texts. -/
theorem isList_of_shows {ds : List Datum} (h : Shows schema b ns n (.list ds)) :
    (∃ items, IsList schema b n items ∧ List.Forall₂ (Shows schema b (n :: ns)) items ds) ∨
      IsSealed schema b n ∧ ∀ d ∈ ds, ∃ text isEmpty, d = .other text isEmpty := by
  cases h with
  | scalar hvalue => cases containerKind?_of_isValue (hvalues n _ hvalue)
  | list hlist hlength hitems =>
    exact .inl ⟨_, hlist, List.forall₂_iff_zip.mpr ⟨hlength, fun hp => hitems _ hp⟩⟩
  | sealed hsealed htexts =>
    cases htexts with
    | list htexts => exact .inr ⟨hsealed, htexts⟩

end Shows

/-- A list shows a list or a reference back to one. -/
theorem shows_isList (hsound : Sound schema nodes [] b) {ns items : List Nat} {n : Nat} {d : Datum}
    (hlist : IsList schema b n items) (h : Shows schema b ns n d) :
    (∃ ds, d = .list ds) ∨ ∃ up, d = .listAgain up ∨ d = .mapAgain up := by
  cases h with
  | scalar hvalue => exact absurd (hlist.kind ▸ .list) (hsound.simple n _ hvalue)
  | outside hn => exact absurd (lt_of_body hlist.body (by simp)) (Nat.not_lt.mpr hn)
  | listAgain => exact .inr ⟨_, .inl rfl⟩
  | mapAgain => exact .inr ⟨_, .inr rfl⟩
  | list => exact .inl ⟨_, rfl⟩
  | map hmap => cases hlist.kind.symm.trans hmap.kind
  | sealed hsealed =>
    rcases hsealed with hpairs | hset
    · cases hlist.kind.symm.trans hpairs
    · cases hlist.kind.symm.trans hset

/-! ## References back -/

/-- **The nodes around a node and the data that they show.** -/
inductive Stacked (schema : Schema) (b : Builder) : List Nat → List Datum → Prop
  | nil : Stacked schema b [] []
  | cons {ns : List Nat} {around : List Datum} {n : Nat} {d : Datum} (h : Shows schema b ns n d)
    (hs : Stacked schema b ns around) : Stacked schema b (n :: ns) (d :: around)

theorem Stacked.get {ns : List Nat} {around : List Datum} {n : Nat} (hs : Stacked schema b ns around) (hn : n ∈ ns) :
    ∃ ns', Shows schema b ns' n (around.getD (ns.idxOf n) .null) ∧
      Stacked schema b ns' (around.drop (ns.idxOf n + 1)) := by
  induction hs with
  | nil => cases hn
  | @cons ns around m d h hs ih =>
    by_cases hmn : m = n
    · subst hmn
      rw [List.idxOf_cons_self]
      exact ⟨ns, h, hs⟩
    · obtain ⟨ns', hshows, hrest⟩ := ih ((List.mem_cons.mp hn).resolve_left (Ne.symm hmn))
      rw [List.idxOf_cons_ne _ hmn]
      exact ⟨ns', hshows, hrest⟩

/-- What a datum means is shown by the same node. -/
theorem shows_meant (hvalues : b.HasValues) {ns : List Nat} {around : List Datum} {n : Nat} {d : Datum}
    (hs : Stacked schema b ns around) (h : Shows schema b ns n d) :
    ∃ ns', Shows schema b ns' n (d.meant around).1 ∧ Stacked schema b ns' (d.meant around).2 := by
  cases hagain : TreeReader.isAgain d with
  | false =>
    rw [TreeReader.meant_of_not_isAgain hagain]
    exact ⟨ns, h, hs⟩
  | true =>
    cases h with
    | listAgain hn => exact hs.get hn
    | mapAgain hn => exact hs.get hn
    | scalar hvalue =>
      have hkind := containerKind?_of_isValue (hvalues n d hvalue)
      cases d <;> simp [TreeReader.isAgain, Datum.containerKind?] at hagain hkind
    | sealed _ htexts => cases htexts <;> cases hagain
    | _ => cases hagain

/-- **The items of a value where a list is wanted**: a list holds them, or they are texts, or there are none. -/
theorem items_shown (hvalues : b.HasValues) (hsound : Sound schema nodes [] b) {ns : List Nat} {n : Nat}
    {around items outer : List Datum} {d : Datum} (hs : Stacked schema b ns around) (h : Shows schema b ns n d)
    (hlists : Lists around d items outer) :
    (∃ ns', Stacked schema b ns' outer ∧ List.Forall₂ (Shows schema b ns') (itemsAt schema b (some n)) items) ∨
      itemsAt schema b (some n) = [] ∧ ∀ d ∈ items, ∃ text isEmpty, d = .other text isEmpty := by
  obtain ⟨ns', hmeant, hs'⟩ := shows_meant hvalues hs h
  cases hlists with
  | list hlist =>
    rw [hlist] at hmeant hs'
    -- a list is shown by a sequence, or it is sealed and holds texts only
    rcases isList_of_shows hvalues hmeant with ⟨is, hnode, hitems⟩ | ⟨hsealed, htexts⟩
    · refine .inl ⟨n :: ns', .cons hmeant hs', ?_⟩
      rw [itemsAt, hnode.kind, hnode.body]
      exact hitems
    · refine .inr ⟨?_, htexts⟩
      rw [itemsAt]
      rcases hsealed with hpairs | hset
      · rw [hpairs]
      · rw [hset]
  | empty hempty hno =>
    refine .inr ⟨?_, List.forall_mem_nil _⟩
    rw [itemsAt]
    split
    · rename_i is hkind hbody
      rcases shows_isList hsound ⟨hkind, hbody⟩ hmeant with ⟨ds, hds⟩ | ⟨up, hup | hup⟩
      · exact absurd hds (hno ds)
      · rw [hup] at hempty
        cases hempty
      · rw [hup] at hempty
        cases hempty
    · rfl

/-! ## Reading the texts -/

/-- A scalar without a tag that shows a text has its value. -/
theorem scalar_of_shows (hsound : Sound schema nodes [] b) {ns : List Nat} {v : Nat} {isImplicit : Bool}
    (hnode : nodes[v]? = some { body := .scalar s isImplicit }) (h : Shows schema b ns v d) (htext : d.StandsFor text) :
    b.scalars[v]? = some (some d) := by
  cases h with
  | scalar hvalue => exact hvalue
  | outside hv =>
    rw [Array.getElem?_eq_none (hsound.size ▸ hv)] at hnode
    cases hnode
  | sealed hsealed =>
    have hbecomes := hsound.becomes v
    rw [Array.getD_eq_getD_getElem?, hnode, Option.getD_some] at hbecomes
    obtain ⟨kind, hkind⟩ : ∃ kind, (b.nodeAt v).kind schema = .scalar kind := by
      rcases hbecomes.kind with hsame | ⟨-, htext⟩
      · cases isImplicit with
        | true => exact ⟨_, hsame⟩
        | false => exact ⟨_, hsame⟩
      · exact ⟨_, htext⟩
    rcases hsealed with hpairs | hset
    · cases hkind.symm.trans hpairs
    · cases hkind.symm.trans hset
  | _ => cases htext

/-- **The text of a key** is read of the node of its value. -/
theorem readAs_of_standsFor (hsound : Sound schema nodes [] b) {ns : List Nat} {es : List (Nat × Nat)}
    {entries : List (Datum × Datum)} {key : String}
    (hkey : (b.valueAt? key es = none ∧ lookup key entries = none) ∨
      ∃ v d, b.valueAt? key es = some v ∧ lookup key entries = some d ∧ Shows schema b ns v d)
    (htext : (field key entries).StandsFor text) (missing : String) :
    ReadAs schema nodes missing (b.valueAt? key es) (filled missing text) := by
  rw [field] at htext
  rcases hkey with ⟨hnone, hlookup⟩ | ⟨v, d, hsome, hlookup, hshows⟩
  · rw [hlookup] at htext
    cases htext
    rw [hnone]
    exact ⟨fun _ => rfl, fun v _ hv => absurd hv.symm (Option.some_ne_none v),
      fun v _ hv => absurd hv.symm (Option.some_ne_none v)⟩
  · rw [hlookup, Option.getD_some] at htext
    have hreads {isImplicit : Bool} {s : String} (hnode : nodes[v]? = some { body := .scalar s isImplicit }) :
        Node.Reads schema { body := .scalar s isImplicit } d := by
      have hreads := hsound.reads v d (scalar_of_shows hsound hnode hshows htext)
      rwa [Array.getD_eq_getD_getElem?, hnode, Option.getD_some] at hreads
    rw [hsome]
    refine ⟨fun hv => absurd hv (Option.some_ne_none v), fun w s hv hnode => ?_, fun w s hv hnode => ?_⟩
    · cases hv
      rw [(hreads hnode).quoted s rfl] at htext
      cases htext
      rfl
    · cases hv
      exact plainText_of_reads ((hreads hnode).plain s rfl) htext

theorem filled_empty (text : String) : filled "" text = text := by
  rw [filled]
  split
  · exact Eq.symm ‹_›
  · rfl

section describes

variable (hvalues : b.HasValues) (hsound : Sound schema nodes [] b) {ns : List Nat} {n : Nat} {around : List Datum}

include hvalues hsound

theorem writesFlag_of_describesFlag (hs : Stacked schema b ns around) (h : Shows schema b ns n d) {f : Flag}
    (hf : DescribesFlag around d f) : WritesFlag schema b (ReadAs schema nodes) n f := by
  obtain ⟨hmap, hname, -, htype, hdefault, hhelp⟩ := hf
  obtain ⟨ns', h', -⟩ := shows_meant hvalues hs h
  rw [hmap] at h'
  obtain ⟨es, hnode, hkeys⟩ := isMap_of_shows hvalues h'
  have hread {key text : String} (htext : (field key _).StandsFor text) (missing : String) :=
    readAs_of_standsFor hsound (hkeys key) htext missing
  refine .map hnode ?_ ?_ ?_
  · exact filled_empty f.name ▸ hread hname ""
  · rw [hdefault]
    exact hread htype "string"
  · exact filled_empty f.help ▸ hread hhelp ""

/-- What is read of the items of a list is written by the nodes of the items. -/
theorem forall₂_of_items {β : Type} {P : Datum → β → Prop} {W : Nat → β → Prop} {es : List (Nat × Nat)}
    {entries : List (Datum × Datum)} {key : String} {items outer : List Datum} {ys : List β}
    (hkey : (b.valueAt? key es = none ∧ lookup key entries = none) ∨
      ∃ v d, b.valueAt? key es = some v ∧ lookup key entries = some d ∧ Shows schema b ns v d)
    (hs : Stacked schema b ns around) (hlists : Lists around (field key entries) items outer)
    (hread : List.Forall₂ P items ys) (hother : ∀ text isEmpty y, ¬ P (.other text isEmpty) y)
    (hstep : ∀ ns' i d, Stacked schema b ns' outer → Shows schema b ns' i d → ∀ y ∈ ys, P d y → W i y) :
    List.Forall₂ W (itemsAt schema b (b.valueAt? key es)) ys := by
  have hnone (hempty : itemsAt schema b (b.valueAt? key es) = [])
      (htexts : ∀ d ∈ items, ∃ text isEmpty, d = .other text isEmpty) :
      List.Forall₂ W (itemsAt schema b (b.valueAt? key es)) ys := by
    rw [hempty]
    cases hread with
    | nil => exact .nil
    | cons hd =>
      obtain ⟨text, isEmpty, rfl⟩ := htexts _ List.mem_cons_self
      exact absurd hd (hother text isEmpty _)
  rcases hkey with ⟨hmissing, hlookup⟩ | ⟨v, d, hsome, hlookup, hshows⟩
  · rw [field, hlookup] at hlists
    cases hlists with
    | list hlist => cases hlist
    | empty => exact hnone (by rw [hmissing, itemsAt]) (List.forall_mem_nil _)
  · rw [field, hlookup, Option.getD_some] at hlists
    rcases items_shown hvalues hsound hs hshows hlists with ⟨ns', hs', hitems⟩ | ⟨hempty, htexts⟩
    · rw [hsome]
      exact forall₂_trans hitems hread fun i d y hy hi hd => hstep ns' i d hs' hi y hy hd
    · exact hnone (hsome ▸ hempty) htexts

/-- **The tree that data describes** is written by the node that shows the data. -/
theorem writes_of_describes (hs : Stacked schema b ns around) {d : Datum} (h : Shows schema b ns n d) {t : CommandTree}
    (ht : Describes around d t) : Writes schema b (ReadAs schema nodes) n t := by
  induction t using CommandTree.induction generalizing ns n around d with
  | node info trees ih =>
    cases ht with
    | node hname _ hlists husage hshort hflags _ hcommands =>
      obtain ⟨es, hnode, hkeys⟩ := isMap_of_shows hvalues h
      have hread {key text : String} (htext : (field key _).StandsFor text) :
          ReadAs schema nodes "" (b.valueAt? key es) text :=
        filled_empty text ▸ readAs_of_standsFor hsound (hkeys key) htext ""
      refine .node hnode (hread hname) (hread husage) (hread hshort) ?_ ?_
      · refine forall₂_of_items hvalues hsound (hkeys "flags") (.cons h hs) hlists.flags hflags ?_ ?_
        · rintro text isEmpty f ⟨hmap⟩
          cases hmap
        · intro ns' i d hs' hi f _ hf
          exact writesFlag_of_describesFlag hvalues hsound hs' hi hf
      · refine forall₂_of_items hvalues hsound (hkeys "commands") (.cons h hs) hlists.commands
          (describesAll_iff.mp hcommands) ?_ ?_
        · rintro text isEmpty t ⟨⟩
        · intro ns' i d hs' hi t ht hd
          exact ih t ht hs' hi hd

end describes

/-! ## Readings of the same nodes -/

section mp

variable {Q R S : Reading} (himp : ∀ missing v? text, Q missing v? text → R missing v? text → S missing v? text)
  {n : Nat}

include himp

theorem WritesFlag.mp {f : Flag} (hQ : WritesFlag schema b Q n f) (hR : WritesFlag schema b R n f) :
    WritesFlag schema b S n f := by
  obtain ⟨hmap, hname, htype, hhelp⟩ := hQ
  obtain ⟨hmap', hname', htype', hhelp'⟩ := hR
  cases hmap.body.symm.trans hmap'.body
  exact .map hmap (himp _ _ _ hname hname') (himp _ _ _ htype htype') (himp _ _ _ hhelp hhelp')

/-- A tree that is written in two readings. -/
theorem Writes.mp {t : CommandTree} (hQ : Writes schema b Q n t) (hR : Writes schema b R n t) :
    Writes schema b S n t := by
  induction t using CommandTree.induction generalizing n with
  | node info trees ih =>
    cases hQ with
    | node hmap hname husage hshort hflags hcommands =>
      cases hR with
      | node hmap' hname' husage' hshort' hflags' hcommands' =>
        cases hmap.body.symm.trans hmap'.body
        refine .node hmap (himp _ _ _ hname hname') (himp _ _ _ husage husage') (himp _ _ _ hshort hshort')
          (hflags.mp (fun _ _ => WritesFlag.mp himp) hflags') ?_
        exact forall₂_and_imp hcommands hcommands' fun n t ht hQ hR => ih t ht hQ hR

end mp

end Builder

end Yaml

namespace TreeFile

open Yaml Builder

/-- The text of a file that is loaded. -/
theorem parse_of_load {f : Folder} {path : Path} {t : CommandTree} (h : load f path = .ok t) :
    ∃ bytes text, f.read path = .ok bytes ∧ Text.Utf8.decode bytes = .ok text ∧
      parse path.text (Text.Utf8.normalizeNewlines text) = .ok t := by
  cases hread : f.read path with
  | error fault =>
    rw [load, hread] at h
    split at h <;> cases h
  | ok bytes =>
    rw [load_of_read hread] at h
    obtain ⟨text, hdecode, hparse⟩ := bind_eq_ok_iff.mp h
    exact ⟨bytes, text, rfl, mapError_eq_ok_iff.mp hdecode, hparse⟩

theorem parse_of_data {path : String} {text : List Char} {entries : List (Datum × Datum)} {t : CommandTree}
    (hdata : Datum.ofYaml schema text = .ok (.map entries)) (htree : CommandTree.ofDatum "" (.map entries) = .ok t) :
    parse path text = .ok t := by
  rw [parse, hdata]
  exact congrArg (Except.mapError TreeFileError.noTree) htree

/-- **A text that holds a tree** has a root node that writes it. -/
theorem writes_of_parse {path : String} {text : List Char} {t : CommandTree} (h : parse path text = .ok t) :
    ∃ g root b, NodeGraph.ofText text = .ok g ∧ g.root? = some root ∧ Builds schema g.nodes root b ∧
      Writes schema b (ReadAs schema g.nodes) root t := by
  rw [parse] at h
  split at h
  · cases h
  · cases h
  · rename_i entries hdata
    obtain ⟨g, hg, hdata⟩ := bind_eq_ok_iff.mp hdata
    have ht : Describes [] (.map entries) t := TreeReader.treeOf_eq_ok_iff.mp (mapError_eq_ok_iff.mp h)
    cases hroot : g.root? with
    | none =>
      rw [NodeGraph.data, hroot] at hdata
      cases hdata
    | some root =>
      obtain ⟨b, hbuilds, hshows⟩ := shows_of_data hroot hdata
      have hvalues : b.HasValues :=
        post_of_triple (safe_build schema root (g.nodes.size + 1)) (hasValues_start _ _ _) hbuilds
      exact ⟨g, root, b, hg, hroot, hbuilds, writes_of_describes hvalues hbuilds.sound.1 .nil hshows ht⟩
  · cases h

/-- **Which plain texts are kept.**  The texts of a tree that is loaded are read of the nodes of its file: a plain
scalar is read as no text for a form of null, as the text of its value for a number or time, and otherwise as itself,
and it is no truth value.  So plain scalars are kept exactly if each number or time among them is spelled as its value
is written. -/
theorem plain_texts_kept_iff {f : Folder} {path : Path} {t : CommandTree} (h : load f path = .ok t) :
    ∃ bytes text g root b, f.read path = .ok bytes ∧ Text.Utf8.decode bytes = .ok text ∧
      NodeGraph.ofText (Text.Utf8.normalizeNewlines text) = .ok g ∧ g.root? = some root ∧
      Builds schema g.nodes root b ∧ Writes schema b (ReadAs schema g.nodes) root t ∧
      (Writes schema b (Keeps schema g.nodes) root t ↔
        Writes schema b (fun _ v? _ => IsSpelled schema g.nodes v?) root t) := by
  obtain ⟨bytes, text, hread, hdecode, hparse⟩ := parse_of_load h
  obtain ⟨g, root, b, hg, hroot, hbuilds, hwrites⟩ := writes_of_parse hparse
  refine ⟨bytes, text, g, root, b, hread, hdecode, hg, hroot, hbuilds, hwrites, ?_, ?_⟩
  · exact hwrites.mp fun _ _ _ hreads => (keeps_iff_isSpelled hreads).mp
  · exact hwrites.mp fun _ _ _ hreads => (keeps_iff_isSpelled hreads).mpr

/-- A name that is written as a hexadecimal number becomes a decimal one. -/
theorem plain_texts_hexName :
    let f : Folder := { items := [(["tree.yaml"], .file "name: 0x10\n".toUTF8.toList)] }
    let path : Path := { names := ["tree.yaml"] }
    let t : CommandTree := .node { name := "16" } []
    load f path = .ok t ∧ ∃ bytes text g root b, f.read path = .ok bytes ∧ Text.Utf8.decode bytes = .ok text ∧
      NodeGraph.ofText (Text.Utf8.normalizeNewlines text) = .ok g ∧ g.root? = some root ∧
      Builds schema g.nodes root b ∧ Writes schema b (ReadAs schema g.nodes) root t ∧
      ¬ Writes schema b (Keeps schema g.nodes) root t := by
  intro f path t
  let nodes : Array Node :=
    #[{ body := .mapping [(1, 2)] }, { body := .scalar "name" true }, { body := .scalar "0x10" true }]
  have hread : f.read path = .ok "name: 0x10\n".toUTF8.toList := by rfl
  have hdecode : Text.Utf8.decode "name: 0x10\n".toUTF8.toList = .ok "name: 0x10\n".toList := by cbv
  have hlines : Text.Utf8.normalizeNewlines "name: 0x10\n".toList = "name: 0x10\n".toList := by cbv
  have hgraph : NodeGraph.ofText "name: 0x10\n".toList = .ok { nodes, root? := some 0 } := by cbv
  have hbuilds : Builds schema nodes 0
      ⟨nodes, #[none, some (.text "name"), some (.int 16)], #[true, true, true], []⟩ := by
    rw [Builds]
    cbv
  have hload : load f path = .ok t := by
    have hdata : Datum.ofYaml schema "name: 0x10\n".toList = .ok (.map [(.text "name", .int 16)]) := by
      have hnodes : NodeGraph.data schema { nodes, root? := some 0 } = .ok (.map [(.text "name", .int 16)]) := by cbv
      rw [Datum.ofYaml, hgraph, bind_ok, hnodes]
    have hname : field "name" [(.text "name", .int 16)] = .int 16 := by cbv
    have hother (key : String) (hkey : "name" ≠ key) : field key [(.text "name", .int 16)] = .null := by
      simp [field, lookup, Datum.isText, hkey]
    have hnone (key : String) (hkey : "name" ≠ key) (around : List Datum) :
        Lists around (field key [(.text "name", .int 16)]) [] [] := by
      rw [hother key hkey]
      exact .empty rfl (by simp [Datum.meant])
    rw [load_of_read hread, hdecode, Except.mapError, bind_ok, hlines]
    refine parse_of_data hdata (TreeReader.treeOf_eq_ok_iff.mpr ?_)
    refine .node (hname ▸ .int (by decide +kernel)) (by decide)
      ⟨hnone "flags" (by decide) _, hnone "commands" (by decide) _⟩ ?_ ?_ .nil ?_ .nil
    · exact hother "usage" (by decide) ▸ .null
    · exact hother "short" (by decide) ▸ .null
    · rw [hother "commands" (by decide)]
      rfl
  obtain ⟨bytes, text, g, root, b, hread', hdecode', hgraph', hroot, hbuilds', hwrites, hkept⟩ :=
    plain_texts_kept_iff hload
  refine ⟨hload, bytes, text, g, root, b, hread', hdecode', hgraph', hroot, hbuilds', hwrites, fun hkeeps => ?_⟩
  cases hread.symm.trans hread'
  cases hdecode.symm.trans hdecode'
  rw [hlines] at hgraph'
  cases hgraph.symm.trans hgraph'
  cases hroot
  cases hbuilds.symm.trans hbuilds'
  change Writes schema _ (Keeps schema nodes) 0 (.node { name := "16" } []) at hkeeps
  cases hkeeps with
  | node hmap hname =>
    cases hmap.body
    rcases hname 2 "0x10" (by cbv) rfl with hsame | ⟨hnull, -⟩
    · revert hsame
      decide
    · revert hnull
      decide +kernel

end TreeFile

end CommandWrap
