import CommandWrap.Proofs.RecordHistory

/-!
# The options of a record can be read off its arguments

A single value becomes one argument, and a list or a map a pair of arguments for each element, of which the
second may be any text, even one that looks like a flag.  What a value gives to its flag is a row of texts
(`Shape.texts`), and the arguments for it are the **block** of the flag (`Shape.block`).

The texts of all flags can be read off the arguments from the front (`decode`), when no two flags have one
name and no name holds an equals sign.  Flag by flag, `Shape.take` takes the block of a flag away; it stops at
the right place because what follows is **foreign** to the flag (`Foreign`): it does not begin with an argument
of it.  That is the invariant on the borders between blocks, and it holds for every block of another flag
(`foreign_block`), whatever texts that carries.

The arguments of a record are the blocks of its fields (`Record.FitsPlan.render_eq`), apart from the fields for
whose attributes the type answers itself (`Attribute.answered`): their flags are lost.  So the arguments
determine what every flag was given if and only if there is no such field (`CommandPlan.determined_iff`).
-/
namespace CommandWrap

/-! ## Reading blocks back -/

/-- The text behind a flag and an equals sign, if the argument begins so. -/
def attached? (name arg : String) : Option String :=
  ((Render.long name ++ "=").toList.isPrefixOf? arg.toList).map String.ofList

/-- The second arguments of the pairs at the front whose first argument is the flag, and what is left. -/
def takePairs (name : String) : List String → List String × List String
  | a :: x :: rest =>
    if a = Render.long name then (x :: (takePairs name rest).1, (takePairs name rest).2)
    else ([], a :: x :: rest)
  | args => ([], args)

/-- The texts of a flag whose block stands at the front, and what is left. -/
def Shape.take (name : String) : Shape → List String → List String × List String
  | .single, [] => ([], [])
  | .single, a :: rest =>
    match attached? name a with
    | some x => ([x], rest)
    | none => ([], a :: rest)
  | _, args => takePairs name args

/-- **The texts of flags**, read off arguments from the front. -/
def decode : List (String × Shape) → List String → List (List String)
  | [], _ => []
  | (name, shape) :: rest, args => (shape.take name args).1 :: decode rest (shape.take name args).2

/-- **The arguments are foreign to the flag**: none of its arguments stands first. -/
def Foreign (name : String) (args : List String) : Prop :=
  ∀ a ∈ args.head?, a ≠ Render.long name ∧ attached? name a = none

section Names

variable {name other : String}

theorem attached?_eq_some_iff {arg x : String} :
    attached? name arg = some x ↔ arg = Render.long name ++ "=" ++ x := by
  rw [attached?, Option.map_eq_some_iff]
  constructor
  · rintro ⟨cs, hcs, rfl⟩
    rw [List.isPrefixOf?_eq_some_iff_append_eq] at hcs
    apply String.toList_injective
    simp only [String.toList_append, String.toList_ofList] at hcs ⊢
    exact hcs.symm
  · rintro rfl
    refine ⟨x.toList, ?_, String.ofList_toList⟩
    rw [List.isPrefixOf?_eq_some_iff_append_eq]
    simp only [String.toList_append]

theorem long_injective (h : Render.long name = Render.long other) : name = other := by
  have := congrArg String.toList h
  simp only [Render.long, String.toList_append] at this
  exact String.toList_injective (List.append_cancel_left this)

/-- A flag with a value is no flag by itself. -/
theorem long_ne_attached (hname : '=' ∉ name.toList) (x : String) :
    Render.long name ≠ Render.long other ++ "=" ++ x := by
  intro h
  have := congrArg String.toList h
  simp only [Render.long, String.toList_append, List.append_assoc] at this
  exact hname (List.append_cancel_left this ▸ by simp)

/-- The name in front of the first equals sign is the name of the flag. -/
theorem name_eq_of_attached (hname : '=' ∉ name.toList) (hother : '=' ∉ other.toList) {x y : String}
    (h : Render.long name ++ "=" ++ x = Render.long other ++ "=" ++ y) : name = other := by
  have := congrArg String.toList h
  simp only [Render.long, String.toList_append, List.append_assoc] at this
  have hwhile {n : String} (hn : '=' ∉ n.toList) (z : String) :
      (n.toList ++ ("=".toList ++ z.toList)).takeWhile (· != '=') = n.toList := by
    rw [List.takeWhile_append_of_pos fun c hc => by simpa using ne_of_mem_of_not_mem hc hn]
    exact List.append_nil _
  have hnames := congrArg (List.takeWhile (· != '=')) (List.append_cancel_left this)
  rw [hwhile hname, hwhile hother] at hnames
  exact String.toList_injective hnames

theorem foreign_nil (name : String) : Foreign name [] := by
  rintro a ⟨⟩

/-- **The block of another flag is foreign**, whatever texts it carries. -/
theorem foreign_block (hname : '=' ∉ name.toList) (hother : '=' ∉ other.toList) (hne : name ≠ other)
    (shape : Shape) (xs : List String) {rest : List String} (hrest : Foreign name rest) :
    Foreign name (shape.block other xs ++ rest) := by
  have hlong : Render.long other ≠ Render.long name ∧ attached? name (Render.long other) = none := by
    refine ⟨fun h => hne (long_injective h).symm, Option.eq_none_iff_forall_ne_some.mpr fun x hx => ?_⟩
    exact long_ne_attached hother x (attached?_eq_some_iff.mp hx)
  cases xs with
  | nil => cases shape <;> exact hrest
  | cons x xs =>
    cases shape with
    | single =>
      intro a ha
      obtain rfl : Render.long other ++ "=" ++ x = a := by simpa [Shape.block] using ha
      refine ⟨(long_ne_attached hname x).symm, Option.eq_none_iff_forall_ne_some.mpr fun y hy => ?_⟩
      exact hne (name_eq_of_attached hother hname (attached?_eq_some_iff.mp hy)).symm
    | list | map =>
      intro a ha
      obtain rfl : Render.long other = a := by simpa [Shape.block] using ha
      exact hlong

end Names

/-- Pairs of a flag are taken off to the last one. -/
theorem takePairs_append {name : String} (xs : List String) {rest : List String} (hrest : Foreign name rest) :
    takePairs name ((xs.flatMap fun x => [Render.long name, x]) ++ rest) = (xs, rest) := by
  induction xs with
  | nil =>
    match rest, hrest with
    | [], _ => rfl
    | [a], _ => rfl
    | a :: x :: rest, hrest => exact if_neg (hrest a rfl).1
  | cons x xs ih =>
    rw [List.flatMap_cons, List.append_assoc, List.cons_append, List.cons_append, List.nil_append, takePairs,
      if_pos rfl, ih]

/-- **The block of a flag is taken off**, and its texts are those that it carries. -/
theorem Shape.take_block {name : String} {shape : Shape} {xs rest : List String}
    (hxs : shape = .single → xs.length ≤ 1) (hrest : Foreign name rest) :
    shape.take name (shape.block name xs ++ rest) = (xs, rest) := by
  cases shape with
  | list | map => exact takePairs_append xs hrest
  | single =>
    match xs, hxs rfl with
    | [], _ =>
      cases rest with
      | nil => rfl
      | cons a rest =>
        show Shape.take name .single (a :: rest) = _
        rw [Shape.take, (hrest a rfl).2]
    | [x], _ =>
      show Shape.take name .single ((Render.long name ++ "=" ++ x) :: rest) = _
      rw [Shape.take, attached?_eq_some_iff.mpr rfl]

section Fields

variable {fields : List Field} {texts : Field → List String}

/-- Blocks of other flags are foreign. -/
theorem foreign_blocks {name : String} (hname : '=' ∉ name.toList)
    (hequals : ∀ f ∈ fields, '=' ∉ f.flag.name.toList) (hne : ∀ f ∈ fields, name ≠ f.flag.name) :
    Foreign name (fields.flatMap fun f => f.shape.block f.flag.name (texts f)) := by
  induction fields with
  | nil => exact foreign_nil name
  | cons f rest ih =>
    rw [List.forall_mem_cons] at hequals hne
    exact foreign_block hname hequals.1 hne.1 f.shape (texts f) (ih hequals.2 hne.2)

/-- **The blocks of flags are read back**, if the flags have different names without equals signs. -/
theorem decode_blocks (hequals : ∀ f ∈ fields, '=' ∉ f.flag.name.toList)
    (hnodup : (fields.map (·.flag.name)).Nodup)
    (hsingle : ∀ f ∈ fields, f.shape = .single → (texts f).length ≤ 1) :
    decode (fields.map fun f => (f.flag.name, f.shape))
      (fields.flatMap fun f => f.shape.block f.flag.name (texts f)) = fields.map texts := by
  induction fields with
  | nil => rfl
  | cons f rest ih =>
    rw [List.forall_mem_cons] at hequals hsingle
    rw [List.map_cons, List.nodup_cons] at hnodup
    have hforeign : Foreign f.flag.name (rest.flatMap fun f => f.shape.block f.flag.name (texts f)) := by
      refine foreign_blocks hequals.1 hequals.2 fun f' hf' hname => hnodup.1 ?_
      rw [hname]
      exact List.mem_map_of_mem hf'
    rw [List.map_cons, List.flatMap_cons, decode, Shape.take_block hsingle.1 hforeign,
      ih hequals.2 hnodup.2 hsingle.2, List.map_cons]

end Fields

/-! ## Records of a plan -/

/-- **The record belongs to the plan**: it is of the type of the plan's records and is read by the fields of its
type, and its values fit the shapes of their flags. -/
structure Record.FitsPlan (r : Record) (s : Store) (p : CommandPlan) (name : String) : Prop where
  type : r.type = p.recordType name
  table : r.cell? Attribute.fieldTable = none
  values : ∀ f ∈ p.fields, f.shape.Fits (r.get s f.attr)

/-- The texts that a record gives to the flag of a field. -/
def Record.texts (r : Record) (s : Store) (f : Field) : List String :=
  f.shape.texts (r.get s f.attr)

/-- Does the field keep its flag? -/
def Field.isKept (f : Field) : Bool :=
  !Attribute.answered.contains f.attr

theorem Field.flag?_declaration (f : Field) :
    f.declaration.flag? = if f.isKept then some ⟨f.flag.name, f.shape.word⟩ else none := by
  by_cases h : f.attr ∈ Attribute.answered <;> simp [declaration, isKept, h]

/-- Fields with values that fit are rendered as the blocks of those that keep their flags. -/
theorem renderFields_kept {fields : List Field} {values : String → Value}
    (hfits : ∀ f ∈ fields, f.shape.Fits (values f.attr)) :
    renderFields (fields.map fun f => (f.declaration.flag?, values f.attr)) =
      .ok ((fields.filter Field.isKept).flatMap fun f =>
        f.shape.block f.flag.name (f.shape.texts (values f.attr))) := by
  induction fields with
  | nil => rfl
  | cons f rest ih =>
    rw [List.forall_mem_cons] at hfits
    rw [List.map_cons, Field.flag?_declaration]
    cases hkept : f.isKept with
    | false =>
      rw [List.filter_cons_of_neg (by simp [hkept])]
      exact ih hfits.2
    | true =>
      rw [List.filter_cons_of_pos hkept, List.flatMap_cons, if_pos rfl, renderFields,
        Shape.flag_eq_block f.flag.name hfits.1, ih hfits.2]
      rfl

namespace Record.FitsPlan

variable {r r' : Record} {s s' : Store} {p : CommandPlan} {name : String} {args : List String}

/-- A record is not rendered when a field stands in the place of what reads it. -/
theorem not_declares_of_render (h : r.FitsPlan s p name) (hrender : r.render s = .ok args) :
    (p.recordType name).declares Attribute.getter = false := by
  rw [← Bool.not_eq_true]
  intro hgetter
  rw [render, Record.fields, h.type, if_pos hgetter] at hrender
  cases hrender

/-- **The arguments of a record** are the blocks of the fields that keep their flags. -/
theorem render_eq (h : r.FitsPlan s p name)
    (hgetter : (p.recordType name).declares Attribute.getter = false) :
    r.render s = .ok ((p.fields.filter Field.isKept).flatMap fun f =>
      f.shape.block f.flag.name (r.texts s f)) := by
  have htype : r.type.fields = p.fields.map Field.declaration := by rw [h.type]; rfl
  rw [render, Record.fields_eq (h.type ▸ hgetter) h.table, htype, bind_ok, List.map_map]
  exact congrArg (Except.mapError SessionError.render) (renderFields_kept h.values)

end Record.FitsPlan

/-! ## What the arguments of a record determine -/

namespace CommandPlan

variable {info : CommandInfo} {path : List String} {p : CommandPlan} {name : String}

/-- **The arguments determine the options**: of two records with the same arguments, every flag was given the
same texts and has the same block. -/
def Determined (p : CommandPlan) (name : String) : Prop :=
  ∀ (s s' : Store) (r r' : Record), r.FitsPlan s p name → r'.FitsPlan s' p name →
    ∀ args, r.render s = .ok args → r'.render s' = .ok args → ∀ f ∈ p.fields,
      r.texts s f = r'.texts s' f ∧
      Render.flag f.flag.name f.shape.word (r.get s f.attr) =
        Render.flag f.flag.name f.shape.word (r'.get s' f.attr)

/-- **The texts of all flags are read off the arguments of a record**, if every field keeps its flag. -/
theorem decode_render (hplan : planCommand info path = .ok p)
    (hequals : ∀ flag ∈ info.flags, '=' ∉ flag.name.toList) (hkept : ∀ f ∈ p.fields, f.isKept)
    {r : Record} {s : Store} (h : r.FitsPlan s p name) {args : List String} (hargs : r.render s = .ok args) :
    decode (p.fields.map fun f => (f.flag.name, f.shape)) args = p.fields.map (r.texts s) := by
  obtain ⟨hof, hfit⟩ := CommandGraph.planCommand_ok hplan
  rw [h.render_eq (h.not_declares_of_render hargs), List.filter_eq_self.mpr hkept] at hargs
  obtain rfl := Except.ok.inj hargs
  refine decode_blocks (fun f hf => hequals _ (hof.mem_flags hf)) (hof.nodup_name hfit) fun f _ hsingle => ?_
  rw [Record.texts, hsingle]
  exact Shape.length_texts_single _

/-- **A lost flag does not show**: two records that differ only in the value for it are rendered alike. -/
theorem exists_alike (hattrs : (p.fields.map Field.attr).Nodup) {f : Field} (hf : f ∈ p.fields)
    (hlost : f.isKept = false) (hgetter : (p.recordType name).declares Attribute.getter = false) :
    ∃ (s : Store) (r r' : Record), r.FitsPlan s p name ∧ r'.FitsPlan s p name ∧
      r.render s = .ok [] ∧ r'.render s = .ok [] ∧ r.texts s f ≠ [] ∧ r'.texts s f = [] := by
  let s : Store := { cells := #[f.shape.sample] }
  let given : Record := { type := p.recordType name, slots := [(f.attr, 0)] }
  let bare : Record := { type := p.recordType name, slots := [] }
  have hvalue : given.get s f.attr = f.shape.sample := by simp [given, s, Record.get, Record.cell?, Store.value]
  have hother {attr : String} (hne : attr ≠ f.attr) : given.get s attr = .none := by
    have hlookup : (attr == f.attr) = false := by simpa using hne
    simp [given, Record.get, Record.cell?, List.lookup_cons, hlookup]
  have hbare (attr : String) : bare.get s attr = .none := rfl
  have hgiven : given.FitsPlan s p name := by
    refine ⟨rfl, ?_, fun f' hf' => ?_⟩
    · have hne : Attribute.fieldTable ≠ f.attr := by
        intro h
        rw [Field.isKept, ← h] at hlost
        exact absurd hlost (by decide)
      have hlookup : (Attribute.fieldTable == f.attr) = false := by simpa using hne
      simp [given, Record.cell?, List.lookup_cons, hlookup]
    · by_cases hattr : f'.attr = f.attr
      · obtain rfl : f' = f := List.inj_on_of_nodup_map hattrs hf' hf hattr
        rw [hvalue]
        exact f'.shape.fits_sample
      · rw [hother hattr]
        exact f'.shape.fits_none
  have hbareFits : bare.FitsPlan s p name := ⟨rfl, rfl, fun f' _ => f'.shape.fits_none⟩
  -- no field that keeps its flag has a value in either record
  have hnothing {r : Record} (hr : r.FitsPlan s p name) (hnone : ∀ attr, attr ≠ f.attr → r.get s attr = .none) :
      r.render s = .ok [] := by
    rw [hr.render_eq hgetter, List.flatMap_eq_nil_iff.mpr fun f' hf' => ?_]
    obtain ⟨-, hkept⟩ := List.mem_filter.mp hf'
    have hne : f'.attr ≠ f.attr := by
      intro h
      rw [Field.isKept, h, ← Field.isKept, hlost] at hkept
      cases hkept
    rw [Record.texts, hnone _ hne]
    exact f'.shape.block_texts_none _
  refine ⟨s, given, bare, hgiven, hbareFits, hnothing hgiven fun _ h => hother h,
    hnothing hbareFits fun attr _ => hbare attr, ?_, ?_⟩
  · rw [Record.texts, hvalue]
    exact f.shape.texts_sample_ne_nil
  · rw [Record.texts, hbare]
    exact f.shape.texts_none

/-- The plan of a command with a flag of each shape. -/
def planOfShapes : CommandPlan :=
  { info :=
      { name := "run"
        flags := [{ name := "tag" }, { name := "env", type := "list" }, { name := "label", type := "map" }] }
    path := ["tool", "run"]
    base := "ToolRun"
    fields := [{ flag := { name := "tag" }, attr := "tag", type := .scalar .text },
      { flag := { name := "env", type := "list" }, attr := "env", type := .list },
      { flag := { name := "label", type := "map" }, attr := "label", type := .map }] }

end CommandPlan

end CommandWrap
