import CommandWrap.Plan.Field
import CommandWrap.Proofs.GroupTrees
import CommandWrap.Proofs.ParserTrees

/-!
# Which options are rendered once for each element

A value is rendered element by element if the tag of its flag is the one of lists or the one of maps
(`fansOut_iff`).  The options of parsers and groups get these tags because they may be repeated or take several
values, with one exception: where nothing else decides the tag, it is the name of what makes the value of a word,
and that may have any name.  An option with a single value has the shape of a list or a map exactly if it borrows
such a name (`repeatable_of_fansOut_iff`).  In a tree that accounts for a parser or a command without such options,
flags with these shapes belong to options that may be repeated.
-/
namespace CommandWrap

/-- **Values with the tag are rendered element by element.** -/
def FansOut (tag : String) : Prop :=
  (FieldType.ofTag tag).shape ≠ .single

theorem fansOut_iff {tag : String} : FansOut tag ↔ tag = "list" ∨ tag = "map" := by
  rw [FansOut, FieldType.ofTag, FieldType.ofTag?]
  by_cases hlist : tag = "list"
  · simp [hlist, FieldType.shape]
  by_cases hmap : tag = "map"
  · simp [hmap, FieldType.shape]
  rw [if_neg hlist, if_neg hmap]
  cases FieldType.scalarTags.lookup tag <;> simp [hlist, hmap, FieldType.shape]

instance (tag : String) : Decidable (FansOut tag) :=
  inferInstanceAs (Decidable (_ ≠ _))

/-! ## Options of parsers -/

namespace Parser

/-- **The option may be repeated or takes several values.** -/
def Argument.IsRepeatable (a : Argument) : Prop :=
  a.action = .append ∨ a.action = .extend ∨ a.action = .keyValue ∨ a.arity = .some ∨ a.arity = .any

/-- Does what the argument does decide its tag? -/
def Action.decidesTag : Action → Bool
  | .keyValue | .storeTrue | .storeFalse | .booleanOptional | .storeConst | .count | .append | .extend => true
  | .store | .appendConst | .help | .version | .subcommands => false

/-- **The option borrows the tag**: it takes a single value and the tag is the name of what makes it. -/
structure Argument.Borrows (a : Argument) (tag : String) : Prop where
  action : a.action.decidesTag = false
  arity : a.arity ≠ .some ∧ a.arity ≠ .any
  type : a.type? = some (.named tag)

theorem fansOut_converter_iff {c : Converter} : FansOut c.tag ↔ ∃ tag, FansOut tag ∧ c = .named tag := by
  cases c with
  | named name => simp [Converter.tag]
  | _ =>
    refine iff_of_false (by decide) ?_
    rintro ⟨_, -, h⟩
    cases h

/-- What an argument does decides for a list or a map only if it may be repeated. -/
theorem Argument.repeatable_of_decidesTag {a : Argument} (h : a.action.decidesTag = true) (hfans : FansOut a.tag) :
    a.IsRepeatable := by
  rw [Argument.tag] at hfans
  cases haction : a.action with
  | append => exact .inl haction
  | extend => exact .inr (.inl haction)
  | keyValue => exact .inr (.inr (.inl haction))
  | storeTrue | storeFalse | booleanOptional | storeConst | count =>
    rw [haction] at hfans
    simp [fansOut_iff] at hfans
  | store | appendConst | help | version | subcommands =>
    rw [haction] at h
    cases h

/-- Otherwise the tag of an option with a single value is the one of what makes the value. -/
theorem Argument.tag_of_single {a : Argument} (h : a.action.decidesTag = false)
    (harity : a.arity ≠ .some ∧ a.arity ≠ .any) : a.tag = (a.type?.map Converter.tag).getD "string" := by
  rw [Argument.tag]
  cases haction : a.action with
  | store | appendConst | help | version | subcommands => exact if_neg (not_or.mpr harity)
  | _ =>
    rw [haction] at h
    cases h

theorem Argument.fansOut_single_iff {a : Argument} (h : a.action.decidesTag = false)
    (harity : a.arity ≠ .some ∧ a.arity ≠ .any) : FansOut a.tag ↔ ∃ tag, FansOut tag ∧ a.Borrows tag := by
  rw [Argument.tag_of_single h harity]
  have hborrows (tag : String) : a.Borrows tag ↔ a.type? = some (.named tag) :=
    ⟨fun hb => hb.type, fun htype => ⟨h, harity, htype⟩⟩
  simp only [hborrows]
  cases a.type? with
  | none =>
    refine iff_of_false (by decide) ?_
    rintro ⟨_, -, htype⟩
    cases htype
  | some c => simpa using fansOut_converter_iff (c := c)

theorem Argument.repeatable_iff (a : Argument) :
    (FansOut a.tag → a.IsRepeatable) ↔ ¬ ∃ tag, FansOut tag ∧ a.Borrows tag := by
  cases hdecides : a.action.decidesTag with
  | true =>
    refine iff_of_true (repeatable_of_decidesTag hdecides) ?_
    rintro ⟨_, -, hborrows⟩
    exact Bool.eq_false_iff.mp hborrows.action hdecides
  | false =>
    by_cases hmany : a.arity = .some ∨ a.arity = .any
    · refine iff_of_true (fun _ => .inr (.inr (.inr hmany))) ?_
      rintro ⟨_, -, hborrows⟩
      exact hmany.elim hborrows.arity.1 hborrows.arity.2
    · have hno : ¬ a.IsRepeatable := by
        rintro (h | h | h | h)
        case inr.inr.inr => exact hmany h
        all_goals simp [h, Action.decidesTag] at hdecides
      rw [← fansOut_single_iff hdecides (not_or.mp hmany)]
      exact ⟨fun h hfans => hno (h hfans), fun h hfans => absurd hfans h⟩

/-- **A flag that is rendered element by element** belongs to an option that may be repeated, in every tree that
accounts for a parser none of whose options borrows such a tag. -/
theorem Accounted.exists_repeatable {p : Parser} {t : CommandTree} {notes : List Log.Note}
    (h : Accounted p t notes) (hborrows : ∀ a ∈ p.allArguments, ¬ ∃ tag, FansOut tag ∧ a.Borrows tag)
    {f : Flag} (hf : f ∈ t.allFlags) (hfans : FansOut f.type) :
    ∃ a ∈ p.allArguments, a.IsFlag f ∧ a.IsRepeatable := by
  obtain ⟨a, ha, -, hflag⟩ := h.exists_of_mem_allFlags hf
  rw [hflag.type] at hfans
  exact ⟨a, ha, hflag, a.repeatable_iff.mpr (hborrows a ha) hfans⟩

end Parser

/-! ## Options of groups -/

namespace Group

/-- **The option borrows the tag**: it takes a single value and the tag is the name of what makes it. -/
structure OptionInfo.Borrows (o : OptionInfo) (tag : String) : Prop where
  many : o.isMany = false
  counted : o.isCounted = false
  flag : o.isFlag = false
  type : o.type = .converted tag

/-- The name of a sequence begins with a bracket. -/
theorem not_fansOut_sequence (items : List ParameterType) : ¬ FansOut (ParameterType.sequence items).title := by
  rw [fansOut_iff, ParameterType.title]
  rintro (h | h)
  all_goals
    have hhead := congrArg (fun s => s.toList.head?) h
    simp at hhead

/-- An option that is counted or stands alone has no elements. -/
theorem OptionInfo.not_fansOut_alone {o : OptionInfo} (hmany : o.isMany = false)
    (halone : o.isCounted = true ∨ o.isFlag = true) : ¬ FansOut o.tag := by
  rw [OptionInfo.tag, hmany, fansOut_iff]
  -- an entry that is not given many times has the tag of a text, whatever else is said of it
  cases hcounted : o.isCounted with
  | true => cases o.type <;> simp
  | false =>
    have hflag : o.isFlag = true := halone.resolve_left (Bool.eq_false_iff.mp hcounted)
    rw [hflag]
    cases o.type <;> simp

/-- Otherwise the tag of an option with a single value depends on the type of the value only. -/
theorem OptionInfo.fansOut_single_iff {o : OptionInfo} (hmany : o.isMany = false) (hcounted : o.isCounted = false)
    (hflag : o.isFlag = false) : FansOut o.tag ↔ ∃ tag, FansOut tag ∧ o.Borrows tag := by
  have hborrows (tag : String) : o.Borrows tag ↔ o.type = .converted tag :=
    ⟨fun hb => hb.type, fun htype => ⟨hmany, hcounted, hflag, htype⟩⟩
  simp only [hborrows, OptionInfo.tag, hmany, hcounted, hflag]
  cases o.type with
  | converted name => simp [ParameterType.title]
  | sequence items =>
    refine iff_of_false (not_fansOut_sequence items) ?_
    rintro ⟨_, -, htype⟩
    cases htype
  | _ =>
    refine iff_of_false (by simp [fansOut_iff, ParameterType.title]) ?_
    rintro ⟨_, -, htype⟩
    cases htype

theorem OptionInfo.repeatable_iff (o : OptionInfo) :
    (FansOut o.tag → o.isMany = true) ↔ ¬ ∃ tag, FansOut tag ∧ o.Borrows tag := by
  cases hmany : o.isMany with
  | true =>
    refine iff_of_true (fun _ => rfl) ?_
    rintro ⟨_, -, hborrows⟩
    exact Bool.eq_false_iff.mp hborrows.many hmany
  | false =>
    by_cases halone : o.isCounted = true ∨ o.isFlag = true
    · refine iff_of_true (fun hfans => absurd hfans (not_fansOut_alone hmany halone)) ?_
      rintro ⟨_, -, hborrows⟩
      exact halone.elim (Bool.eq_false_iff.mp hborrows.counted) (Bool.eq_false_iff.mp hborrows.flag)
    · rw [not_or, Bool.not_eq_true, Bool.not_eq_true] at halone
      rw [← fansOut_single_iff hmany halone.1 halone.2]
      simp

/-- **A flag that is rendered element by element** belongs to an option that may be given many times, in every
tree that accounts for a command if none of the options that are reached borrows such a tag. -/
theorem Accounted.exists_many {due : OptionInfo → Bool} {path : String → String} {name? : Option String}
    {c : Command} {t : CommandTree} {notes : List Log.Note} (h : Accounted due path name? c t notes)
    (hborrows : ∀ o ∈ reachedOptions c, ¬ ∃ tag, FansOut tag ∧ o.Borrows tag) {f : Flag} (hf : f ∈ t.allFlags)
    (hfans : FansOut f.type) : ∃ o ∈ reachedOptions c, o.IsFlag f ∧ o.isMany = true := by
  obtain ⟨o, ho, -, hflag⟩ := h.exists_of_mem_allFlags hf
  rw [hflag.type] at hfans
  exact ⟨o, ho, hflag, o.repeatable_iff.mpr (hborrows o ho) hfans⟩

end Group

/-- **An option is rendered element by element only if it may be repeated or takes several values**, exactly unless
it borrows the tag of lists or the one of maps. -/
theorem repeatable_of_fansOut_iff (a : Parser.Argument) (o : Group.OptionInfo) :
    ((FansOut a.tag → a.IsRepeatable) ↔ ¬ ∃ tag, FansOut tag ∧ a.Borrows tag) ∧
      ((FansOut o.tag → o.isMany = true) ↔ ¬ ∃ tag, FansOut tag ∧ o.Borrows tag) :=
  ⟨a.repeatable_iff, o.repeatable_iff⟩

/-- An option with one value whose type is called `list` is rendered like a list. -/
example :
    (({ names := ["--x"], settings := [("type", .text "list")] } : Parser.ArgumentDraft).build "-").toOption.map
      (fun a => (FieldType.ofTag a.tag).shape) = some .list := by
  decide +kernel

end CommandWrap
