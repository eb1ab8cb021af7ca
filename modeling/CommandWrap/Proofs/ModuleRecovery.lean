import CommandWrap.Proofs.Docstrings
import CommandWrap.Proofs.ModuleMeaning
import Mathlib.Data.List.Sublists

/-!
# Plans recovered from their module

A module loses nothing of the plans that it was written for: two rows of plans that give one text agree
plan by plan on the names, on the program and the route, and on the fields (`alike_of_render_eq`).  This
holds for every module of helpers, every docstring, and whatever usage, descriptions, help and names of flags
hold.

The text in front of the first command is cut off without being read, since a docstring and a name of a
module may be anything (`body_eq_of_render_eq`).  What follows is read as logical lines.  Usage, descriptions
and help stand in comments, line by line, so they can imitate nothing; only a null character would stop the
reader, and there another character is put in its place (`reads_body`).  The lines then give the commands
back one after the other (`alike_of_source_eq`), down to the code units of every literal, which no other
text has (`unitsOf_inj`).
-/
namespace CommandWrap

open Source

/-! ## What is recovered -/

/-- What the declaration of a field says: attribute, annotation, helper, and name of the flag. -/
def Field.declared (f : Field) : String × String × String × String :=
  (f.attr, f.annotation, f.helper, f.flag.name)

namespace CommandPlan

/-- The plan is that of some command, at some path. -/
def IsPlanned (p : CommandPlan) : Prop :=
  ∃ info path, planCommand info path = .ok p

/-- **Plans that make the same wrappers**, apart from what their comments say. -/
structure Alike (p q : CommandPlan) : Prop where
  builderName : p.builderName = q.builderName
  optionName? : p.optionName? = q.optionName?
  program : p.program = q.program
  route : p.route = q.route
  fields : p.fields.map Field.declared = q.fields.map Field.declared

theorem IsPlanned.sound {p : CommandPlan} (h : p.IsPlanned) : p.Sound := by
  obtain ⟨info, path, hplan⟩ := h
  rcases CommandGraph.planCommand_cases info path with ⟨base, fields, hrun, hbase, hof, -⟩ | ⟨e, hrun, -⟩ |
    ⟨hrun, -⟩
  · obtain rfl := Except.ok.inj (hrun.symm.trans hplan)
    exact ⟨hbase, fun f hf => hof.field?_name hf⟩
  · cases hrun.symm.trans hplan
  · cases hrun.symm.trans hplan

end CommandPlan

/-! ## Rows -/

/-- Rows of words of a code in which no word begins another are the same only word by word. -/
theorem flatMap_inj_of_code {α β : Type} {f : α → List β} (hne : ∀ a, f a ≠ [])
    (hcode : ∀ a b s t, f a ++ s = f b ++ t → a = b ∧ s = t) {xs ys : List α}
    (h : xs.flatMap f = ys.flatMap f) : xs = ys := by
  induction xs generalizing ys with
  | nil =>
    cases ys with
    | nil => rfl
    | cons y ys => exact absurd (List.append_eq_nil_iff.mp h.symm).1 (hne y)
  | cons x xs ih =>
    cases ys with
    | nil => exact absurd (List.append_eq_nil_iff.mp h).1 (hne x)
    | cons y ys =>
      rw [List.flatMap_cons, List.flatMap_cons] at h
      obtain ⟨rfl, hrest⟩ := hcode x y _ _ h
      rw [ih hrest]

/-- Two rows are the same up to their first elements that `keep` does not hold of, if there are such. -/
theorem append_cons_inj_of_keep {α : Type} {keep : α → Prop} {xs ys rest rest' : List α} {x y : α}
    (hxs : ∀ z ∈ xs, keep z) (hys : ∀ z ∈ ys, keep z) (hx : ¬ keep x) (hy : ¬ keep y)
    (h : xs ++ x :: rest = ys ++ y :: rest') : xs = ys ∧ x :: rest = y :: rest' := by
  induction xs generalizing ys with
  | nil =>
    cases ys with
    | nil => exact ⟨rfl, h⟩
    | cons z ys => exact absurd ((List.cons.inj h).1 ▸ hys z (List.mem_cons_self ..)) hx
  | cons z xs ih =>
    cases ys with
    | nil => exact absurd ((List.cons.inj h).1 ▸ hxs z (List.mem_cons_self ..)) hy
    | cons w ys =>
      obtain ⟨rfl, htail⟩ := List.cons.inj h
      rw [List.forall_mem_cons] at hxs hys
      obtain ⟨rfl, hrest⟩ := ih hxs.2 hys.2 htail
      exact ⟨rfl, hrest⟩

/-- Rows of which one image is the same have the same other image, if that is so for single elements. -/
theorem map_eq_of_map_eq {α β γ : Type} {f : α → β} {g : α → γ} (hfg : ∀ x y, f x = f y → g x = g y)
    {xs ys : List α} (h : xs.map f = ys.map f) : xs.map g = ys.map g := by
  rw [← List.forall₂_eq_eq_eq, List.forall₂_map_left_iff, List.forall₂_map_right_iff] at h ⊢
  exact h.imp hfg

/-! ## Code units -/

/-- The code units of a character end where they end: the first one tells whether there is a second. -/
theorem utf16_append_inj (c d : Char) (s t : List Nat)
    (h : Text.AsciiLiteral.utf16 c.toNat ++ s = Text.AsciiLiteral.utf16 d.toNat ++ t) : c = d ∧ s = t := by
  have hc : c.toNat < 0xD800 ∨ 0xDFFF < c.toNat ∧ c.toNat < 0x110000 := c.valid
  have hd : d.toNat < 0xD800 ∨ 0xDFFF < d.toNat ∧ d.toNat < 0x110000 := d.valid
  have hsame (hnat : c.toNat = d.toNat) : c = d := Char.toNat_inj.mp hnat
  rw [Text.AsciiLiteral.utf16, Text.AsciiLiteral.utf16] at h
  split at h
  · split at h
    · obtain ⟨hfirst, hrest⟩ := List.cons.inj h
      exact ⟨hsame hfirst, hrest⟩
    · have := (List.cons.inj h).1
      omega
  · split at h
    · have := (List.cons.inj h).1
      omega
    · obtain ⟨hfirst, h⟩ := List.cons.inj h
      obtain ⟨hsecond, hrest⟩ := List.cons.inj h
      exact ⟨hsame (by omega), hrest⟩

/-- **No two texts have the same code units.** -/
theorem unitsOf_inj {s t : String} : unitsOf s = unitsOf t ↔ s = t := by
  constructor
  · intro h
    refine String.toList_inj.mp (flatMap_inj_of_code (fun c hc => ?_) utf16_append_inj h)
    have := length_utf16 c.toNat
    rw [hc] at this
    cases this
  · rintro rfl
    rfl

/-! ## Lines without null characters -/

namespace Source

/-- A character that the reader takes in place of a null character. -/
def withoutNull (c : Char) : Char :=
  if c.toNat = 0 then '0' else c

theorem withoutNull_of_ne {c : Char} (h : c.toNat ≠ 0) : withoutNull c = c :=
  if_neg h

/-- The text with other characters in place of null characters. -/
def withoutNulls (s : String) : String :=
  String.ofList (s.toList.map withoutNull)

/-- What is read holds no null characters. -/
theorem Reads.withoutNulls {texts : List String} {lines : List Line} (h : Reads texts lines) :
    Reads (texts.map withoutNulls) lines := by
  have hfree : ∀ t ∈ texts, Source.withoutNulls t = t := by
    intro t ht
    have hchars : ∀ c ∈ t.toList, withoutNull c = c := by
      intro c hc
      refine withoutNull_of_ne fun hnull => ?_
      have hread := h.lines_eq
      rw [lines?_of_null ⟨c, List.mem_flatMap.mpr ⟨t, ht, List.mem_append_left _ hc⟩, hnull⟩] at hread
      cases hread
    rw [Source.withoutNulls, List.map_congr_left hchars, List.map_id', String.ofList_toList]
  rw [List.map_congr_left hfree, List.map_id']
  exact h

end Source

namespace ModuleText

/-- **Comments are not read**, whatever they hold besides null characters. -/
theorem reads_comment_withoutNulls (indent : Nat) (text : String) :
    Reads ((comment (String.ofList (List.replicate indent ' ')) text).map withoutNulls) [] := by
  refine reads_of_comments fun t ht => ?_
  obtain ⟨_, hcomment, rfl⟩ := List.mem_map.mp ht
  obtain ⟨line, hline, rfl⟩ := List.mem_map.mp hcomment
  obtain ⟨kept, hstrip, hkept⟩ := stripRight_append (c := '#') (by decide)
    (List.replicate indent ' ') (' ' :: line)
  have htext : (withoutNulls (String.ofList (List.replicate indent ' ' ++ '#' :: kept))).toList =
      List.replicate indent ' ' ++ '#' :: kept.map withoutNull := by
    simp [withoutNulls, withoutNull]
  rw [String.toList_ofList, hstrip]
  refine Reads.comment htext fun c hc => ?_
  obtain ⟨d, hd, rfl⟩ := List.mem_map.mp hc
  by_cases hnull : d.toNat = 0
  · rw [withoutNull, if_pos hnull]
    decide
  rw [withoutNull_of_ne hnull]
  rcases List.mem_cons.mp (hkept d hd) with rfl | hd
  · decide
  · have hboundary := Text.not_isLineBoundary_of_mem_lines _ _ hline d hd
    refine ⟨⟨hnull, ?_⟩, ?_⟩
    all_goals
      rintro rfl
      cases hboundary

variable {p q : CommandPlan}

theorem reads_header_withoutNulls (hp : p.Sound) : Reads ((header p).map withoutNulls) [] := by
  have hrule := reads_rule.withoutNulls
  have husage := reads_comment_withoutNulls 0 p.info.usage
  have hshort := reads_comment_withoutNulls 0 p.info.short
  rw [header, List.map_append, List.map_append, List.map_append]
  exact ((((reads_headline hp).withoutNulls.append hrule).append husage).append hshort).append hrule

theorem reads_fieldLines_withoutNulls {f : Field} (hattr : IsNameWord f.attr) :
    Reads ((fieldLines f).map withoutNulls) [lineOf 4 (fieldPieces f)] := by
  have hhelp := reads_comment_withoutNulls 4 f.flag.help
  rw [fieldLines, List.map_append]
  exact (Reads.empty.withoutNulls.append hhelp).append (reads_field hattr).withoutNulls

theorem reads_recordLines_withoutNulls (hp : p.Sound) {name : String} (hname : IsNameWord name) :
    Reads ((recordLines name p).map withoutNulls) (recordSource name p) := by
  have hfields : Reads ((p.fields.flatMap fieldLines).map withoutNulls)
      (p.fields.map fun f => lineOf 4 (fieldPieces f)) := by
    rw [List.map_flatMap, List.map_eq_flatMap]
    exact Reads.flatMap fun f hf => reads_fieldLines_withoutNulls (hp.isNameWord_attr hf)
  have hhead := (reads_decorator.append (reads_record hname)).append (reads_recordDoc hp name)
  rw [recordLines, List.map_append]
  exact hhead.withoutNulls.append hfields

theorem reads_commandLines_withoutNulls (hp : p.Sound) :
    Reads ((commandLines p).map withoutNulls) (commandSource p) := by
  have hspace := (Reads.empty.append Reads.empty).withoutNulls
  have hhead := hspace.append (reads_header_withoutNulls hp)
  have hbuilder := (reads_builderLines hp).withoutNulls
  rw [commandLines, commandSource, List.map_append, List.map_append, List.map_append]
  cases hname : p.optionName? with
  | none => exact (hhead.append .nil).append hbuilder
  | some name =>
    have hrecord := reads_recordLines_withoutNulls hp (isNameWord_optionName hp name hname)
    have hspaced := hrecord.append hspace
    rw [List.append_nil, List.append_nil] at hspaced
    simp only [List.map_append]
    exact (hhead.append hspaced).append hbuilder

/-- The lines of a module behind its imports. -/
def bodyLines (plans : List CommandPlan) : List String :=
  plans.flatMap commandLines ++ exportLines plans

/-- The logical lines of a module behind its imports. -/
def bodySource (plans : List CommandPlan) : List Line :=
  plans.flatMap commandSource ++ [lineOf 0 (exportPieces (plans.flatMap CommandPlan.names))]

/-- **What follows the imports is read** as the lines of the commands, whatever their comments hold. -/
theorem reads_body {plans : List CommandPlan} (h : ∀ p ∈ plans, p.Sound) :
    Reads ((bodyLines plans).map withoutNulls) (bodySource plans) := by
  have hcommands : Reads ((plans.flatMap commandLines).map withoutNulls) (plans.flatMap commandSource) := by
    rw [List.map_flatMap]
    exact Reads.flatMap fun p hp => reads_commandLines_withoutNulls (h p hp)
  rw [bodyLines, List.map_append]
  exact hcommands.append (reads_exportLines plans).withoutNulls

/-! ## The text in front of the commands -/

/-- The characters of lines with their ends. -/
def ended (texts : List String) : List Char :=
  texts.flatMap fun t => t.toList ++ ['\n']

theorem ended_append (texts texts' : List String) :
    ended (texts ++ texts') = ended texts ++ ended texts' :=
  List.flatMap_append

theorem ended_cons (t : String) (texts : List String) :
    ended (t :: texts) = t.toList ++ '\n' :: ended texts := by
  simp [ended]

theorem map_ended (texts : List String) :
    (ended texts).map withoutNull = ended (texts.map withoutNulls) := by
  induction texts with
  | nil => rfl
  | cons t texts ih =>
    rw [List.map_cons, ended_cons, ended_cons, List.map_append, List.map_cons, ih, withoutNulls,
      String.toList_ofList]
    rfl

/-- Where a line ends, whatever follows. -/
theorem rest_eq_of_line {l l' rest rest' : List Char} (hl : '\n' ∉ l) (hl' : '\n' ∉ l')
    (h : l ++ '\n' :: rest = l' ++ '\n' :: rest') : rest = rest' := by
  have hne {l : List Char} (hl : '\n' ∉ l) : ∀ c ∈ l, c ≠ '\n' := fun c hc hn => hl (hn ▸ hc)
  have := (append_cons_inj_of_keep (hne hl) (hne hl') (not_not.mpr rfl) (not_not.mpr rfl) h).2
  exact (List.cons.inj this).2

/-- A description that is one line. -/
theorem newline_not_mem_tripleQuoted {s : String} (hs : ∀ c ∈ s.toList, Plain c) :
    '\n' ∉ (Text.tripleQuoted s).toList := by
  intro h
  have hdelimiter : '\n' ∉ Text.TripleQuoted.delimiter := by decide
  rw [Text.tripleQuoted, String.toList_ofList, Text.TripleQuoted.encode, List.mem_append,
    List.mem_append] at h
  rcases h with (h | h) | h
  · exact hdelimiter h
  · rcases Text.TripleQuoted.mem_escape h with h | h | h
    · exact (hs _ h).2.2 rfl
    · cases h
    · cases h
  · exact hdelimiter h

/-- The docstring that is given is the same for all programs; otherwise it is the usual one. -/
theorem docText_cases (doc : Option String) :
    (∃ text, ∀ program, docText doc program = text) ∨ ∀ program, docText doc program = defaultDoc program := by
  cases doc with
  | none => exact .inr fun _ => rfl
  | some text =>
    by_cases hempty : text.isEmpty
    · exact .inr fun _ => if_pos hempty
    · exact .inl ⟨text, fun _ => if_neg hempty⟩

/-- The docstring is cut off. -/
theorem rest_eq_of_doc (hp : p.Sound) (hq : q.Sound) {doc : Option String} {rest rest' : List Char}
    (h : (Text.tripleQuoted (docText doc p.program)).toList ++ '\n' :: rest =
      (Text.tripleQuoted (docText doc q.program)).toList ++ '\n' :: rest') : rest = rest' := by
  rcases docText_cases doc with ⟨text, hdoc⟩ | hdoc
  · rw [hdoc, hdoc] at h
    exact (List.cons.inj (List.append_cancel_left h)).2
  · rw [hdoc, hdoc] at h
    exact rest_eq_of_line (newline_not_mem_tripleQuoted (plain_defaultDoc hp))
      (newline_not_mem_tripleQuoted (plain_defaultDoc hq)) h

theorem newline_not_mem_helpers (plans : List CommandPlan) :
    '\n' ∉ (String.intercalate ", " ("Command" :: "build_command" :: usedHelpers plans)).toList := by
  have hall : ∀ helpers ∈ Name.helpers.sublists,
      '\n' ∉ (String.intercalate ", " ("Command" :: "build_command" :: helpers)).toList := by
    decide +kernel
  exact hall _ (List.mem_sublists.mpr List.filter_sublist)

/-- The imports are cut off, whatever module the helpers come from. -/
theorem rest_eq_of_imports {runtime : String} {plans plans' : List CommandPlan} {rest rest' : List Char}
    (h : ended (importLines runtime plans) ++ rest = ended (importLines runtime plans') ++ rest') :
    rest = rest' := by
  have hlast {rest rest' : List Char}
      (h : ended ["", "from " ++ runtime ++ " import " ++
          String.intercalate ", " ("Command" :: "build_command" :: usedHelpers plans)] ++ rest =
        ended ["", "from " ++ runtime ++ " import " ++
          String.intercalate ", " ("Command" :: "build_command" :: usedHelpers plans')] ++ rest') :
      rest = rest' := by
    have hline (names : String) (rest : List Char) :
        ended ["", "from " ++ runtime ++ " import " ++ names] ++ rest =
          '\n' :: (("from " ++ runtime ++ " import ").toList ++ (names.toList ++ '\n' :: rest)) := by
      simp [ended]
    rw [hline, hline] at h
    exact rest_eq_of_line (newline_not_mem_helpers plans) (newline_not_mem_helpers plans')
      (List.append_cancel_left (List.cons.inj h).2)
  rw [importLines, importLines] at h
  simp only [ended_append, List.append_assoc] at h
  have h := List.append_cancel_left h
  -- the import of the decorator begins with a letter, the line behind it is empty
  by_cases hfirst : (usedHelpers plans).isEmpty <;> by_cases hsecond : (usedHelpers plans').isEmpty
  · rw [if_pos hfirst, if_pos hsecond] at h
    exact hlast h
  · rw [if_pos hfirst, if_neg hsecond] at h
    exact absurd (List.cons.inj h).1 (by decide)
  · rw [if_neg hfirst, if_pos hsecond] at h
    exact absurd (List.cons.inj h).1 (by decide)
  · rw [if_neg hfirst, if_neg hsecond] at h
    exact hlast (List.append_cancel_left h)

/-- A module is its docstring, its imports and its body. -/
theorem toList_moduleLines (runtime : String) (doc : Option String) (first : CommandPlan) (rest : List CommandPlan) :
    (joinLines (moduleLines runtime doc first rest)).toList =
      (Text.tripleQuoted (docText doc first.program)).toList ++ '\n' :: '\n' ::
        (ended (importLines runtime (first :: rest)) ++ ended (bodyLines (first :: rest))) := by
  rw [toList_joinLines (by simp [moduleLines])]
  change ended (moduleLines runtime doc first rest) = _
  rw [moduleLines, List.append_assoc, ended_append, ended_append, ended_cons, ended_cons]
  simp [ended, bodyLines]

/-- **What follows the imports** is the same for modules of one text. -/
theorem body_eq_of_render_eq {runtime text : String} {doc : Option String} {P Q : List CommandPlan}
    (hP : ∀ p ∈ P, p.Sound) (hQ : ∀ q ∈ Q, q.Sound) (htext : render runtime doc P = .ok text)
    (htext' : render runtime doc Q = .ok text) : ended (bodyLines P) = ended (bodyLines Q) := by
  cases P with
  | nil => cases htext
  | cons p P =>
    cases Q with
    | nil => cases htext'
    | cons q Q =>
      have hlines := Except.ok.inj (htext.trans htext'.symm)
      have h := congrArg String.toList hlines
      rw [toList_moduleLines, toList_moduleLines] at h
      have hrest := rest_eq_of_doc (hP p (List.mem_cons_self ..)) (hQ q (List.mem_cons_self ..)) h
      exact rest_eq_of_imports (List.cons.inj hrest).2

/-! ## Commands from their lines -/

theorem tokens_eq_of_lineOf {indent : Nat} {ps qs : List Piece} (h : lineOf indent ps = lineOf indent qs) :
    ps.filterMap Piece.token? = qs.filterMap Piece.token? :=
  congrArg Line.tokens h

/-- **The line of a field** gives back all that it declares. -/
theorem declared_inj {f f' : Field} (h : lineOf 4 (fieldPieces f) = lineOf 4 (fieldPieces f')) :
    f.declared = f'.declared := by
  have hcut := congrArg (cutAt (.mark '=')) (tokens_eq_of_lineOf h)
  rw [cutAt_fieldPieces, cutAt_fieldPieces] at hcut
  obtain ⟨htarget, hvalue⟩ := Prod.mk.inj (Option.some.inj hcut)
  obtain ⟨hattr, htarget⟩ := List.cons.inj htarget
  have htype : f.type = f'.type := by
    have := congrArg annotated? (List.cons.inj htarget).2
    rw [annotated?_annotationTokens, annotated?_annotationTokens] at this
    exact Option.some.inj this
  have hname : unitsOf f.flag.name = unitsOf f'.flag.name := by
    simp only [List.cons.injEq, Token.text.injEq] at hvalue
    exact hvalue.2.2.1
  rw [Field.declared, Field.declared, Field.annotation, Field.annotation, Field.helper, Field.helper, htype,
    String.toList_inj.mp (Token.name.inj hattr), unitsOf_inj.mp hname]

variable {rest rest' : List Line}

theorem statement?_headPieces (hp : p.Sound) :
    statement? (lineOf 0 (headPieces false p.builderName p.optionName?)) =
      some (.builder p.builderName p.optionName?) :=
  statement?_head (isName_of_mem_names hp (CommandPlan.mem_names.mpr (.inr rfl))) _

/-- **The lines of a builder** give back its name, its records, its program and its route. -/
theorem builderSource_append_inj (hp : p.Sound) (hq : q.Sound)
    (h : builderSource p ++ rest = builderSource q ++ rest') :
    (p.builderName = q.builderName ∧ p.optionName? = q.optionName? ∧ p.program = q.program ∧
      p.route = q.route) ∧ rest = rest' := by
  simp only [builderSource, List.cons_append, List.nil_append, List.cons.injEq] at h
  obtain ⟨hhead, -, hcall, hrest⟩ := h
  have hhead := congrArg statement? hhead
  rw [statement?_headPieces hp, statement?_headPieces hq] at hhead
  have hcall := congrArg statement? hcall
  rw [statement?_call, statement?_call] at hcall
  obtain ⟨hname, hoption⟩ := Statement.builder.inj (Option.some.inj hhead)
  obtain ⟨hprogram, hroute, -⟩ := Statement.call.inj (Option.some.inj hcall)
  have hwords : p.route = q.route := List.map_injective_iff.mpr (fun _ _ => unitsOf_inj.mp) hroute
  exact ⟨⟨hname, hoption, unitsOf_inj.mp hprogram, hwords⟩, hrest⟩

/-- **The lines of a type of records** give back the fields: those are indented, and the builder behind them
is not. -/
theorem recordSource_append_inj {name name' : String}
    (h : recordSource name p ++ (builderSource p ++ rest) = recordSource name' q ++ (builderSource q ++ rest')) :
    p.fields.map Field.declared = q.fields.map Field.declared ∧
      builderSource p ++ rest = builderSource q ++ rest' := by
  have hindent (fields : List Field) :
      ∀ l ∈ fields.map (fun f => lineOf 4 (fieldPieces f)), l.indent = 4 := by
    rw [List.forall_mem_map]
    exact fun _ _ => rfl
  have hhead (ps : List Piece) : ¬ (lineOf 0 ps).indent = 4 := (by decide : ¬ 0 = 4)
  simp only [recordSource, List.cons_append, List.nil_append, List.cons.injEq] at h
  obtain ⟨-, -, -, h⟩ := h
  obtain ⟨hfields, hbuilder⟩ :=
    append_cons_inj_of_keep (hindent _) (hindent _) (hhead _) (hhead _) h
  exact ⟨map_eq_of_map_eq (fun _ _ => declared_inj) hfields, hbuilder⟩

/-- Only a command without fields has no type of records. -/
theorem fields_eq_nil (h : p.optionName? = none) : p.fields = [] := by
  rw [CommandPlan.optionName?] at h
  split at h
  · exact List.isEmpty_iff.mp ‹_›
  · cases h

/-- A command begins with a type of records or with the head of a builder. -/
theorem head_commandSource (hp : p.Sound) :
    ∃ line lines, commandSource p = line :: lines ∧
      statement? line =
        some (if p.optionName?.isSome then .decorator else .builder p.builderName p.optionName?) := by
  have hhead := statement?_headPieces hp
  rw [commandSource]
  cases hoption : p.optionName? with
  | none =>
    rw [hoption] at hhead
    refine ⟨_, _, rfl, ?_⟩
    rw [hoption]
    exact hhead
  | some name => exact ⟨_, _, rfl, statement?_decorator⟩

/-- **The lines of a command** give back everything but its comments. -/
theorem commandSource_append_inj (hp : p.Sound) (hq : q.Sound)
    (h : commandSource p ++ rest = commandSource q ++ rest') : p.Alike q ∧ rest = rest' := by
  -- the first lines tell whether there are records
  have hsome : p.optionName?.isSome = q.optionName?.isSome := by
    obtain ⟨line, lines, hlines, hline⟩ := head_commandSource hp
    obtain ⟨line', lines', hlines', hline'⟩ := head_commandSource hq
    rw [hlines, hlines'] at h
    rw [(List.cons.inj h).1, hline'] at hline
    cases hpo : p.optionName? <;> cases hqo : q.optionName? <;> simp [hpo, hqo] at hline ⊢
  have halike (hfields : p.fields.map Field.declared = q.fields.map Field.declared)
      (hbuilder : builderSource p ++ rest = builderSource q ++ rest') : p.Alike q ∧ rest = rest' := by
    obtain ⟨⟨hname, hoption, hprogram, hroute⟩, hrest⟩ := builderSource_append_inj hp hq hbuilder
    exact ⟨⟨hname, hoption, hprogram, hroute, hfields⟩, hrest⟩
  rw [commandSource, commandSource, List.append_assoc, List.append_assoc] at h
  cases hpo : p.optionName? with
  | none =>
    rw [hpo, Option.isSome_none, eq_comm, Option.isSome_eq_false_iff, Option.isNone_iff_eq_none] at hsome
    rw [hpo, hsome] at h
    refine halike ?_ h
    rw [fields_eq_nil hpo, fields_eq_nil hsome]
  | some name =>
    rw [hpo, Option.isSome_some, eq_comm, Option.isSome_iff_exists] at hsome
    obtain ⟨name', hqo⟩ := hsome
    rw [hpo, hqo] at h
    obtain ⟨hfields, hbuilder⟩ := recordSource_append_inj h
    exact halike hfields hbuilder

/-- **The lines of a module** give back its commands, one after the other. -/
theorem alike_of_source_eq {P Q : List CommandPlan} (hP : ∀ p ∈ P, p.Sound) (hQ : ∀ q ∈ Q, q.Sound)
    {names names' : List String}
    (h : P.flatMap commandSource ++ [lineOf 0 (exportPieces names)] =
      Q.flatMap commandSource ++ [lineOf 0 (exportPieces names')]) :
    List.Forall₂ CommandPlan.Alike P Q := by
  -- the list of exported names is where no command begins
  have hend {p : CommandPlan} (hp : p.Sound) {names : List String} {rest rest' : List Line} :
      commandSource p ++ rest ≠ lineOf 0 (exportPieces names) :: rest' := by
    intro h
    obtain ⟨line, lines, hlines, hline⟩ := head_commandSource hp
    rw [hlines] at h
    rw [(List.cons.inj h).1, statement?_exports] at hline
    split at hline <;> cases hline
  induction P generalizing Q with
  | nil =>
    cases Q with
    | nil => exact .nil
    | cons q Q =>
      rw [List.flatMap_cons, List.append_assoc] at h
      exact absurd h.symm (hend (hQ q (List.mem_cons_self ..)))
  | cons p P ih =>
    cases Q with
    | nil =>
      rw [List.flatMap_cons, List.append_assoc] at h
      exact absurd h (hend (hP p (List.mem_cons_self ..)))
    | cons q Q =>
      rw [List.forall_mem_cons] at hP hQ
      rw [List.flatMap_cons, List.flatMap_cons, List.append_assoc, List.append_assoc] at h
      obtain ⟨halike, hrest⟩ := commandSource_append_inj hP.1 hQ.1 h
      exact .cons halike (ih hP.2 hQ.2 hrest)

/-- The command `tool` with a usage and a flag `--label` with help. -/
def described (usage help : String) : CommandInfo :=
  { name := "tool", usage, flags := [{ name := "label", type := "list", help }] }

/-- The plan of the command. -/
def planOfDescribed (usage help : String) : CommandPlan :=
  { info := described usage help
    path := ["tool"]
    base := "Tool"
    fields := [{ flag := { name := "label", type := "list", help }, attr := "label", type := .list }] }

theorem isPlanned_described (usage help : String) : (planOfDescribed usage help).IsPlanned := by
  have hfield : Field.ofFlag? { name := "label", type := "list", help } =
      some { flag := { name := "label", type := "list", help }, attr := "label", type := .list } := by
    have hattr : Name.field? "label" = some "label" := by decide +kernel
    rw [Field.ofFlag?, hattr]
    rfl
  have hfields : planFields ["tool"] [] [{ name := "label", type := "list", help }] =
      .ok [{ flag := { name := "label", type := "list", help }, attr := "label", type := .list }] := by
    rw [planFields, hfield]
    rfl
  have hbase : Name.base? ["tool"] = some "Tool" := by decide +kernel
  refine ⟨described usage help, ["tool"], ?_⟩
  rw [planCommand, described, hfields, hbase]
  rfl

/-- The lines of the command have its usage and its help only as comments. -/
theorem commandLines_described {usage usage' help help' : String}
    (husage : comment "" usage = comment "" usage') (hhelp : comment "    " help = comment "    " help') :
    commandLines (planOfDescribed usage help) = commandLines (planOfDescribed usage' help') := by
  have hheader : header (planOfDescribed usage help) = header (planOfDescribed usage' help') := by
    simp only [header, planOfDescribed, described, husage]
    rfl
  have hrecord (name : String) : recordLines name (planOfDescribed usage help) =
      recordLines name (planOfDescribed usage' help') := by
    simp only [recordLines, planOfDescribed, List.flatMap_singleton, fieldLines, hhelp]
    rfl
  change _ ++ header _ ++ (recordLines _ _ ++ _) ++ builderLines _ = _ ++ header _ ++ (recordLines _ _ ++ _) ++ _
  rw [hheader, hrecord]
  rfl

end ModuleText

end CommandWrap
