import CommandWrap.Proofs.ModuleReading

/-!
# Attributes as names of fields

A flag's name becomes an attribute when every character that is no word character is replaced by a low line.  Word
characters are the letters and numbers of every script; those of an identifier are fewer.  A number such as `²` or `½`
is kept, and then the attribute is no identifier (`field?_usable`).

A type of records is put together from attributes only if they are identifiers in the spelling in which the language
knows them and none of them is a name that the type needs for itself (`Attribute.Declarable`); the declaration of a field
in the text of a module is a statement only if its attribute takes a value.  So planned attributes are usable under
conditions that planning does not check (`planned_attributes_usable_iff`).
-/
namespace CommandWrap

/-! ## Which flags have identifiers for attributes -/

namespace Name

/-- The characters of a flag's name that are kept are those of an identifier: the first one begins an identifier, or it
is a digit, in front of which `flag_` is put. -/
def KeepsName (cs : List Char) : Prop :=
  (∀ c ∈ cs.head?, Unicode.isWord c = true →
    if Unicode.isDigit c = true then Unicode.isIdentifierContinue c = true
    else Unicode.isIdentifierStart c = true) ∧
  ∀ c ∈ cs.tail, Unicode.isWord c = true → Unicode.isIdentifierContinue c = true

instance (cs : List Char) : Decidable (KeepsName cs) :=
  inferInstanceAs (Decidable (_ ∧ _))

theorem isIdentifierContinue_fieldChar (c : Char) :
    Unicode.isIdentifierContinue (fieldChar c) = true ↔
      (Unicode.isWord c = true → Unicode.isIdentifierContinue c = true) := by
  by_cases hword : Unicode.isWord c = true
  · rw [fieldChar, if_pos hword]
    exact ⟨fun h _ => h, fun h => h hword⟩
  · rw [fieldChar, if_neg hword]
    exact ⟨fun _ h => absurd h hword, fun _ => by decide +kernel⟩

theorem all_map_fieldChar (cs : List Char) :
    (cs.map fieldChar).all Unicode.isIdentifierContinue = true ↔
      ∀ c ∈ cs, Unicode.isWord c = true → Unicode.isIdentifierContinue c = true := by
  rw [List.all_eq_true, List.forall_mem_map]
  simp only [isIdentifierContinue_fieldChar]

/-- What stands in front of a digit begins an identifier, so the digit need only go on with it. -/
theorem isIdentifier_guardDigit {cs : List Char} (hne : cs ≠ []) :
    Unicode.isIdentifier (guardDigit (cs.map fieldChar)) = true ↔ KeepsName cs := by
  cases cs with
  | nil => exact absurd rfl hne
  | cons c cs =>
    have hflag : Unicode.isIdentifier ("flag_".toList ++ (c :: cs).map fieldChar) =
        ((c :: cs).map fieldChar).all Unicode.isIdentifierContinue := by
      have hstart : Unicode.isIdentifierStart 'f' = true := by decide +kernel
      have hgoesOn : ['l', 'a', 'g', '_'].all Unicode.isIdentifierContinue = true := by decide +kernel
      change (Unicode.isIdentifierStart 'f' &&
        (['l', 'a', 'g', '_'] ++ (c :: cs).map fieldChar).all Unicode.isIdentifierContinue) = _
      rw [hstart, List.all_append, hgoesOn, Bool.true_and, Bool.true_and]
    rw [KeepsName, List.head?_cons, List.tail_cons, ← all_map_fieldChar cs, List.map_cons, guardDigit]
    simp only [Option.mem_def, Option.some.injEq, forall_eq']
    by_cases hword : Unicode.isWord c = true
    · have hkept : fieldChar c = c := by rw [fieldChar, if_pos hword]
      rw [hkept]
      by_cases hdigit : Unicode.isDigit c = true
      · rw [List.map_cons, hkept] at hflag
        rw [if_pos hdigit, if_pos hdigit, hflag, List.all_cons, Bool.and_eq_true]
        exact and_congr_left fun _ => ⟨fun h _ => h, fun h => h hword⟩
      · rw [if_neg hdigit, if_neg hdigit, Unicode.isIdentifier, Bool.and_eq_true]
        exact and_congr_left fun _ => ⟨fun h _ => h, fun h => h hword⟩
    · -- a low line is no digit and begins an identifier
      have hline : fieldChar c = '_' := by rw [fieldChar, if_neg hword]
      have hstart : Unicode.isIdentifierStart '_' = true := by decide +kernel
      have hnodigit : ¬ Unicode.isDigit '_' = true := by decide +kernel
      rw [hline, if_neg hnodigit, Unicode.isIdentifier, hstart, Bool.true_and]
      exact ⟨fun h => ⟨fun hc => absurd hc hword, h⟩, fun h => h.2⟩

/-- A low line behind an identifier changes nothing. -/
theorem isIdentifier_guardTaken (s : String) :
    Unicode.isIdentifier (guardTaken s).toList = Unicode.isIdentifier s.toList := by
  obtain h | ⟨h, -⟩ := guardTaken_cases s
  · rw [h, String.toList_append]
    have hline : Unicode.isIdentifierContinue '_' = true := by decide +kernel
    have htaken : s ≠ "" := by
      rintro rfl
      rw [guardTaken] at h
      exact absurd h (by decide)
    cases hs : s.toList with
    | nil => exact absurd (String.toList_eq_nil_iff.mp hs) htaken
    | cons c cs =>
      change (Unicode.isIdentifierStart c && (cs ++ ['_']).all Unicode.isIdentifierContinue) = _
      rw [List.all_append, List.all_cons, hline, List.all_nil, Bool.and_true, Bool.and_true]
      rfl
  · rw [h]

/-- **The attribute of a flag** is no word of the language and no helper.  It is an identifier exactly if the characters
that are kept are those of one. -/
theorem field?_usable {flagName : String} (hne : flagName ≠ "") :
    ∃ attr, field? flagName = some attr ∧ attr ∉ keywords ∧ attr ∉ helpers ∧
      (Unicode.isIdentifier attr.toList = true ↔ KeepsName flagName.toList) := by
  have hchars : flagName.toList ≠ [] := fun h => hne (String.toList_eq_nil_iff.mp h)
  have hsome : ¬ flagName.isEmpty = true := fun h => hne (String.isEmpty_iff.mp h)
  refine ⟨_, if_neg hsome, (guardTaken_free _).1, (guardTaken_free _).2, ?_⟩
  rw [isIdentifier_guardTaken, String.toList_ofList, isIdentifier_guardDigit hchars]

end Name

/-! ## Which attributes can be declared -/

namespace Attribute

/-- Names that a type of records needs for itself, and a constant of the language. -/
def needed : List String :=
  ["__slots__", "__qualname__", "__classcell__", "__annotations__", "__dict__", "__debug__"]

/-- **A type of records can be put together from the attributes.** -/
structure Declarable (attrs : List String) : Prop where
  /-- Every attribute is an identifier. -/
  identifier : ∀ attr ∈ attrs, Unicode.isIdentifier attr.toList = true
  /-- Every attribute is spelled as the language knows it. -/
  spelled : ∀ attr ∈ attrs, known attr = attr
  /-- No attribute is needed by the type. -/
  free : ∀ attr ∈ attrs, attr ∉ needed
  /-- Some name is left for the record itself. -/
  selfLeft : selfParameter attrs ∉ attrs

theorem firstRepeated?_eq_none {earlier ws : List String} (hnodup : ws.Nodup) (h : ∀ w ∈ ws, w ∉ earlier) :
    firstRepeated? earlier ws = none := by
  induction ws generalizing earlier with
  | nil => rfl
  | cons w ws ih =>
    rw [List.nodup_cons] at hnodup
    rw [List.forall_mem_cons] at h
    rw [firstRepeated?, if_neg (by rw [List.contains_iff_mem]; exact h.1)]
    refine ih hnodup.2 fun v hv hmem => ?_
    rcases List.mem_cons.mp hmem with rfl | hmem
    · exact hnodup.1 hv
    · exact h.2 v hv hmem

theorem map_known {attrs : List String} (h : ∀ attr ∈ attrs, known attr = attr) : attrs.map known = attrs :=
  (List.map_congr_left h).trans (List.map_id _)

theorem checkTypeNames_eq_none_iff (attrs : List String) :
    checkTypeNames attrs = none ↔ "__slots__" ∉ attrs ∧ "__qualname__" ∉ attrs ∧ "__classcell__" ∉ attrs := by
  simp only [checkTypeNames, List.contains_iff_mem]
  split_ifs with hslots hname hcell
  · exact ⟨nofun, fun h => absurd hslots h.1⟩
  · exact ⟨nofun, fun h => absurd hname h.2.1⟩
  · exact ⟨nofun, fun h => absurd hcell h.2.2⟩
  · exact ⟨fun _ => ⟨hslots, hname, hcell⟩, fun _ => rfl⟩

theorem checkDefaults_eq_none_iff (attrs : List String) :
    checkDefaults attrs = none ↔ "__annotations__" ∉ attrs ∧ "__dict__" ∉ attrs := by
  have hshared (attr : String) :
      sharedKinds.lookup attr = none ↔ attr ≠ "__annotations__" ∧ attr ≠ "__dict__" := by
    rw [List.lookup_eq_none_iff]
    simp [sharedKinds]
  rw [checkDefaults, List.findSome?_eq_none_iff]
  simp only [Option.map_eq_none_iff, hshared]
  constructor
  · intro h
    exact ⟨fun hmem => (h _ hmem).1 rfl, fun hmem => (h _ hmem).2 rfl⟩
  · rintro ⟨hannotations, hdict⟩ attr hmem
    exact ⟨fun h => hannotations (h ▸ hmem), fun h => hdict (h ▸ hmem)⟩

/-- **A declaration has no fault** exactly if its attributes can be declared. -/
theorem fault?_eq_none_iff {attrs : List String} (hnodup : attrs.Nodup) :
    fault? attrs = none ↔ Declarable attrs := by
  have hchecks : fault? attrs = none ↔ checkIdentifiers attrs = none ∧ checkTypeNames attrs = none ∧
      checkDefaults attrs = none ∧ checkRepeated attrs = none ∧ checkSelf attrs = none ∧
      checkConstant attrs = none ∧ checkSpelling attrs = none := by
    rw [fault?, List.findSome?_eq_none_iff]
    simp only [List.forall_mem_cons, List.not_mem_nil, false_implies, implies_true, and_true]
  have hidentifiers : checkIdentifiers attrs = none ↔
      ∀ attr ∈ attrs, Unicode.isIdentifier attr.toList = true := by
    simp [checkIdentifiers]
  have hspelling : checkSpelling attrs = none ↔ ∀ attr ∈ attrs, known attr = attr := by
    simp [checkSpelling]
  rw [hchecks, hidentifiers, checkTypeNames_eq_none_iff, checkDefaults_eq_none_iff, hspelling]
  -- with the attributes in their spelling the other checks are about the attributes themselves
  constructor
  · rintro ⟨hidentifier, ⟨hslots, hname, hcell⟩, ⟨hannotations, hdict⟩, -, hself, hconstant, hspelled⟩
    rw [checkSelf, map_known hspelled, ite_eq_right_iff, List.contains_iff_mem] at hself
    rw [checkConstant, map_known hspelled, ite_eq_right_iff, List.contains_iff_mem] at hconstant
    refine ⟨hidentifier, hspelled, ?_, fun hmem => Option.some_ne_none _ (hself hmem)⟩
    have hdebug : "__debug__" ∉ attrs := fun hmem => Option.some_ne_none _ (hconstant hmem)
    intro attr hmem hneeded
    simp only [needed, List.mem_cons, List.not_mem_nil, or_false] at hneeded
    rcases hneeded with rfl | rfl | rfl | rfl | rfl | rfl
    · exact hslots hmem
    · exact hname hmem
    · exact hcell hmem
    · exact hannotations hmem
    · exact hdict hmem
    · exact hdebug hmem
  · rintro ⟨hidentifier, hspelled, hfree, hself⟩
    have hneeded {attr : String} (h : attr ∈ needed) : attr ∉ attrs := fun hmem => hfree attr hmem h
    refine ⟨hidentifier, ⟨hneeded (by decide), hneeded (by decide), hneeded (by decide)⟩,
      ⟨hneeded (by decide), hneeded (by decide)⟩, ?_, ?_, ?_, hspelled⟩
    · rw [checkRepeated, map_known hspelled, firstRepeated?_eq_none hnodup (by simp)]
      rfl
    · rw [checkSelf, map_known hspelled, if_neg (by rwa [List.contains_iff_mem])]
    · rw [checkConstant, map_known hspelled, if_neg]
      rw [List.contains_iff_mem]
      exact hneeded (by decide)

end Attribute

/-! ## The lines of fields -/

/-- The statement of a text that is one line. -/
def Source.statementOf? (text : String) : Option Statement := do
  let lines ← lines? (text.toList ++ ['\n'])
  match lines with
  | [line] => statement? line
  | _ => none

/-- **The declaration of a field** is a statement exactly if its attribute is an identifier and not another spelling of the
constant that takes no value. -/
theorem ModuleText.statementOf?_fieldLines {f : Field} (hf : Name.field? f.flag.name = some f.attr) :
    ∃ line, (fieldLines f).getLast? = some line ∧ (Source.statementOf? line =
      if Unicode.isIdentifier f.attr.toList = true ∧ Attribute.known f.attr ≠ "__debug__" then
        some (.field f.source) else none) := by
  obtain ⟨hne, hname, hkeyword, -⟩ := Name.field?_spec hf
  refine ⟨_, List.getLast?_concat .., ?_⟩
  have hlines := (reads_field (f := f) ⟨hne, hname⟩).lines_eq
  rw [List.flatMap_singleton] at hlines
  have htarget : Source.isTarget f.attr.toList = true ↔
      Unicode.isIdentifier f.attr.toList = true ∧ Attribute.known f.attr ≠ "__debug__" := by
    have hknown : Attribute.known f.attr = "__debug__" ↔ Unicode.normalForm f.attr.toList = "__debug__".toList := by
      constructor
      · intro h
        rw [← h, Attribute.known, String.toList_ofList]
      · intro h
        rw [Attribute.known, h, String.ofList_toList]
    rw [Ne, hknown, Source.isTarget, Source.isName, String.ofList_toList]
    simp [hkeyword]
  rw [Source.statementOf?, hlines, Option.bind_eq_bind, Option.bind_some]
  change Source.statement? (lineOf 4 (fieldPieces f)) = _
  rw [statement?_field hkeyword]
  simp only [htarget]

namespace CommandGraph

/-- **Planned attributes are usable under conditions** that planning does not check.  The attribute of a flag is never a
word of the language or a helper, but it is an identifier only if the characters that are kept are those of one.  The
wrappers of a graph that is planned can be made exactly if the attributes of every command can be declared.  And the line
that declares a field is a statement exactly if its attribute is an identifier that takes a value. -/
theorem planned_attributes_usable_iff (flagName : String) (g : CommandGraph) (exclude : List String) :
    (flagName ≠ "" → ∃ attr, Name.field? flagName = some attr ∧ attr ∉ Name.keywords ∧ attr ∉ Name.helpers ∧
      (Unicode.isIdentifier attr.toList = true ↔ Name.KeepsName flagName.toList)) ∧
    ∀ plans, g.plan exclude = .ok plans →
      ((∃ ws, g.wrappers exclude = .ok ws) ↔ ∀ p ∈ plans, Attribute.Declarable (p.fields.map Field.attr)) ∧
      ∀ p ∈ plans, ∀ f ∈ p.fields, ∃ line, (ModuleText.fieldLines f).getLast? = some line ∧
        ((∃ s, Source.statementOf? line = some s) ↔
          Unicode.isIdentifier f.attr.toList = true ∧ Attribute.known f.attr ≠ "__debug__") := by
  refine ⟨Name.field?_usable, fun plans hplan => ⟨?_, ?_⟩⟩
  · have hfault : (∀ p ∈ plans, p.declarationFault? = none) ↔
        ∀ p ∈ plans, Attribute.Declarable (p.fields.map Field.attr) :=
      forall₂_congr fun p hp => Attribute.fault?_eq_none_iff (plan_attr_nodup hplan hp)
    rw [← hfault]
    constructor
    · rintro ⟨ws, hws⟩
      exact ((wrappers_eq_ok hplan).mp hws).1
    · intro h
      exact ⟨_, (wrappers_eq_ok hplan).mpr ⟨h, rfl⟩⟩
  · intro p hp f hf
    obtain ⟨line, hline, hread⟩ := ModuleText.statementOf?_fieldLines ((sound_of_plan hplan hp).fields f hf)
    refine ⟨line, hline, ?_⟩
    rw [hread]
    split_ifs with h
    · exact ⟨fun _ => h, fun _ => ⟨_, rfl⟩⟩
    · constructor
      · rintro ⟨s, hs⟩
        cases hs
      · intro htarget
        exact absurd htarget h

/-- The flag `--x²` is planned, but no type of records can be made for it, and its field is no statement. -/
theorem superscript_not_usable : (ofFlag "x²").plan [] = .ok [planOfFlag "x²"] ∧
    ¬ (∃ ws, (ofFlag "x²").wrappers [] = .ok ws) ∧
    ∃ line, (ModuleText.fieldLines (planOfFlag "x²").fields.head!).getLast? = some line ∧
      ¬ ∃ s, Source.statementOf? line = some s := by
  have hplan : (ofFlag "x²").plan [] = .ok [planOfFlag "x²"] := by decide +kernel
  have hidentifier : ¬ Unicode.isIdentifier "x²".toList = true := by decide +kernel
  obtain ⟨hwrappers, hlines⟩ := (planned_attributes_usable_iff "x²" _ _).2 _ hplan
  refine ⟨hplan, fun h => ?_, ?_⟩
  · have hdeclarable := hwrappers.mp h _ (List.mem_singleton.mpr rfl)
    exact hidentifier (hdeclarable.identifier _ (List.mem_singleton.mpr rfl))
  · obtain ⟨line, hline, hread⟩ := hlines _ (List.mem_singleton.mpr rfl) _ (List.mem_singleton.mpr rfl)
    exact ⟨line, hline, fun h => hidentifier (hread.mp h).1⟩

end CommandGraph

end CommandWrap
