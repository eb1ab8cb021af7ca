import CommandWrap.Proofs.Outcomes
import CommandWrap.Invocation.Render

/-!
# Lists that grow

A list with one more element has a longer text, since no value has an empty one (`Value.length_quote_pos`).  So a flag
whose list grows takes more arguments or a longer one, and is refused as before if it was (`Render.flag_grown`).

Fields are rendered one after the other, and what is rendered is measured by its letters (`Render.size`).  Where some
lists grow, a row of fields is refused as before, or renders to arguments that are the same if no flag takes one of
these lists, and longer together if one does (`renderFields_grown`).
-/
namespace CommandWrap

/-! ## Texts of values -/

namespace Decimal

theorem positional_ne_nil (keepsPoint : Bool) {digits : List Char} (hdigits : digits ≠ []) (leading : Int) :
    positional keepsPoint digits leading ≠ [] := by
  rw [positional]
  split
  · simp
  · dsimp only
    split
    · simp [hdigits]
    · simp

theorem exponential_ne_nil {digits : List Char} (hdigits : digits ≠ []) (leading : Int) :
    exponential digits leading ≠ [] := by
  cases digits with
  | nil => exact absurd rfl hdigits
  | cons first rest => cases rest <;> simp [exponential]

theorem Scientific.text_ne_nil (keepsPoint : Bool) (x : Scientific) : x.text keepsPoint ≠ [] := by
  rw [Scientific.text]
  split
  · exact positional_ne_nil _ Nat.toDigits_ne_nil _
  · exact exponential_ne_nil Nat.toDigits_ne_nil _

/-- A floating point number has a text where the words for what is no number are texts. -/
theorem Binary64.length_text_pos {style : FloatStyle} (hinfinity : 0 < style.infinityWord.length)
    (hnan : 0 < style.nanWord.length) (x : Binary64) : 0 < (x.text style).length := by
  rw [Binary64.text]
  dsimp only
  cases x.unpack with
  | nan =>
    rw [String.length_append]
    omega
  | infinite negative =>
    rw [String.length_append]
    omega
  | finite negative m q =>
    have hdigits := List.length_pos_iff.mpr (Scientific.text_ne_nil style.keepsPoint (shortest m q))
    rw [String.length_append, String.length_ofList]
    omega

end Decimal

namespace Value

theorem length_append_pos (s : String) {t : String} (ht : 0 < t.length) : 0 < (s ++ t).length := by
  rw [String.length_append]
  omega

/-- No value has an empty text. -/
theorem length_quote_pos (v : Value) : 0 < v.quote.length := by
  cases v with
  | none => decide
  | bool b => cases b <;> decide
  | int i =>
    have hnat (n : Nat) : 0 < (toString n).length := by
      rw [Nat.toString_eq_ofList_toDigits, String.length_ofList]
      exact Nat.length_toDigits_pos
    cases i with
    | ofNat n => exact hnat n
    | negSucc n => exact length_append_pos _ (hnat _)
  | float x => exact x.length_text_pos (by decide) (by decide)
  | complex re im =>
    rw [quote, quoteComplex]
    split
    · exact length_append_pos _ (by decide)
    · exact length_append_pos _ (by decide)
  | text s =>
    rw [quote, Text.quoted, String.length_ofList]
    exact Nat.succ_pos _
  | list items => exact length_append_pos _ (by decide)
  | tuple items =>
    rw [quote, tupleText.eq_def]
    split
    · exact length_append_pos _ (by decide)
    · exact length_append_pos _ (by decide)
  | map entries => exact length_append_pos _ (by decide)
  | textMember m => exact length_append_pos _ (by decide)
  | member v => exact length_append_pos _ (by decide)

theorem quoteItems_append (items : List Value) (v : Value) : quoteItems (items ++ [v]) = quoteItems items ++ [v.quote] := by
  induction items with
  | nil => rfl
  | cons item items ih => rw [List.cons_append, quoteItems, quoteItems, ih, List.cons_append]

/-- The text of a list that grows gets longer. -/
theorem length_canonical_lt (items : List Value) (v : Value) :
    (canonical (.list items)).length < (canonical (.list (items ++ [v]))).length := by
  have hcanonical (items : List Value) :
      canonical (.list items) = "[" ++ String.intercalate ", " (quoteItems items) ++ "]" := rfl
  rw [hcanonical, hcanonical, quoteItems_append]
  simp only [String.length_append]
  have hpos := v.length_quote_pos
  cases hitems : quoteItems items with
  | nil =>
    rw [List.nil_append, String.intercalate_singleton, String.intercalate_nil, String.length_empty]
    omega
  | cons item rest =>
    rw [String.intercalate_append_of_ne_nil (by simp) (by simp)]
    simp only [String.length_append]
    rw [String.intercalate_singleton]
    omega

end Value

/-! ## Arguments -/

namespace Render

/-- The letters of some arguments, each counted with its end. -/
def size : List String → Nat
  | [] => 0
  | arg :: rest => arg.length + 1 + size rest

theorem size_append (args others : List String) : size (args ++ others) = size args + size others := by
  induction args with
  | nil => rw [List.nil_append, size, Nat.zero_add]
  | cons arg args ih =>
    rw [List.cons_append, size, size, ih]
    omega

/-- What becomes of arguments when lists grow: a refusal stays, and the arguments **lengthen** if one of the lists is
theirs and stay otherwise. -/
structure Lengthens (isTheirs : Prop) (before after : Except RenderError (List String)) : Prop where
  refused : ∀ e, before = .error e → after = .error e
  rendered : ∀ args, before = .ok args →
    ∃ args', after = .ok args' ∧ (¬ isTheirs → args' = args) ∧ (isTheirs → size args < size args')

theorem Lengthens.of_error (isTheirs : Prop) (e : RenderError) : Lengthens isTheirs (.error e) (.error e) where
  refused := fun _ he => he
  rendered := by rintro _ ⟨⟩

theorem Lengthens.of_ok {isTheirs : Prop} {args args' : List String} (hstays : ¬ isTheirs → args' = args)
    (hlonger : isTheirs → size args < size args') : Lengthens isTheirs (.ok args) (.ok args') where
  refused := by rintro _ ⟨⟩
  rendered := by
    rintro _ ⟨⟩
    exact ⟨args', rfl, hstays, hlonger⟩

/-- A flag whose list grows takes more or longer arguments, or is refused as before. -/
theorem flag_grown (name shape : String) (items : List Value) (v : Value) :
    Lengthens True (flag name shape (.list items)) (flag name shape (.list (items ++ [v]))) := by
  simp only [flag]
  cases Shape.ofWord? shape with
  | none => exact .of_error _ _
  | some s =>
    cases s with
    | single =>
      refine .of_ok (absurd trivial) fun _ => ?_
      have hlonger := Value.length_canonical_lt items v
      simp only [size, single, String.length_append]
      omega
    | list =>
      refine .of_ok (absurd trivial) fun _ => ?_
      rw [List.flatMap_append, size_append]
      simp only [List.flatMap_cons, List.flatMap_nil, List.append_nil, size]
      omega
    | map => exact .of_error _ _

theorem size_le {isTheirs : Prop} {args args' : List String} (hstays : ¬ isTheirs → args' = args)
    (hlonger : isTheirs → size args < size args') : size args ≤ size args' := by
  by_cases htheirs : isTheirs
  · exact Nat.le_of_lt (hlonger htheirs)
  · exact Nat.le_of_eq (by rw [hstays htheirs])

/-- Two parts of the arguments one after the other lengthen if one of them does. -/
theorem Lengthens.append {here there : Prop} {first first' rest rest' : Except RenderError (List String)}
    (hfirst : Lengthens here first first') (hrest : Lengthens there rest rest') :
    Lengthens (here ∨ there) (first >>= fun args => rest >>= fun others => pure (args ++ others))
      (first' >>= fun args => rest' >>= fun others => pure (args ++ others)) := by
  cases first with
  | error e =>
    rw [hfirst.refused e rfl]
    exact .of_error _ e
  | ok args =>
    obtain ⟨args', rfl, hstays, hlonger⟩ := hfirst.rendered args rfl
    cases rest with
    | error e =>
      rw [hrest.refused e rfl]
      exact .of_error _ e
    | ok others =>
      obtain ⟨others', rfl, hstays', hlonger'⟩ := hrest.rendered others rfl
      refine .of_ok ?_ ?_
      · intro hnone
        rw [not_or] at hnone
        rw [hstays hnone.1, hstays' hnone.2]
      · intro hone
        have hle := size_le hstays hlonger
        have hle' := size_le hstays' hlonger'
        rw [size_append, size_append]
        rcases hone with hhere | hthere
        · have := hlonger hhere
          omega
        · have := hlonger' hthere
          omega

theorem lengthens_refl (x : Except RenderError (List String)) : Lengthens False x x where
  refused := fun _ he => he
  rendered args hargs := ⟨args, hargs, fun _ => rfl, False.elim⟩

end Render

/-- **What is rendered tells whether a list has grown.**  The values of some fields are lists that grow by an element;
the fields are refused as before, or rendered to more or longer arguments exactly if one of these fields has a flag. -/
theorem renderFields_grown {ι : Type} (fields : List ι) (flag? : ι → Option FlagUse) {before after : ι → Value} {v : Value}
    (isGrown : ι → Prop) (hstays : ∀ f ∈ fields, ¬ isGrown f → after f = before f)
    (hgrows : ∀ f ∈ fields, isGrown f → ∃ items, before f = .list items ∧ after f = .list (items ++ [v])) :
    Render.Lengthens (∃ f ∈ fields, (flag? f).isSome ∧ isGrown f)
      (renderFields (fields.map fun f => (flag? f, before f)))
      (renderFields (fields.map fun f => (flag? f, after f))) := by
  induction fields with
  | nil =>
    refine .of_ok (fun _ => rfl) ?_
    rintro ⟨f, hf, -⟩
    cases hf
  | cons f fields ih =>
    rw [List.forall_mem_cons] at hstays hgrows
    have hrest := ih hstays.2 hgrows.2
    simp only [List.map_cons]
    cases huse : flag? f with
    | none => simpa [renderFields, huse] using hrest
    | some use =>
      have hfirst : Render.Lengthens (isGrown f) (Render.flag use.name use.shape (before f))
          (Render.flag use.name use.shape (after f)) := by
        by_cases hgrown : isGrown f
        · obtain ⟨items, hbefore, hafter⟩ := hgrows.1 hgrown
          rw [hbefore, hafter, eq_true hgrown]
          exact Render.flag_grown use.name use.shape items v
        · rw [hstays.1 hgrown, eq_false hgrown]
          exact Render.lengthens_refl _
      simpa [renderFields, huse] using hfirst.append hrest

end CommandWrap
