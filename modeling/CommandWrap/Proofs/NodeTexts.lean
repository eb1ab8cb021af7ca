import CommandWrap.Proofs.SoundData
import CommandWrap.Proofs.TreeGrammar

/-!
# The texts of plain scalars

A text of a tree is read of the node that is written for it (`ReadAs`).  A quoted scalar is read as itself.  A plain
scalar is read as no text if it is a form of null, as the text of its value if it is a number or time, and as itself
otherwise (`PlainText`); a truth value is read as no text at all.  So a plain scalar is kept exactly if it is no number
or time, or is spelled as its value is written (`keeps_iff_isSpelled`).
-/
namespace CommandWrap

namespace Datum

theorem StandsFor.unique {d : Datum} {s t : String} (h : d.StandsFor s) (h' : d.StandsFor t) : s = t := by
  have hread : TreeReader.textOf "" "" d = .ok s := TreeReader.textOf_eq_ok_iff.mpr h
  rw [TreeReader.textOf_eq_ok_iff.mpr h'] at hread
  exact (Except.ok.inj hread).symm

theorem StandsFor.eq_quote {d : Datum} {s : String} (h : d.StandsFor s) (hnull : d ≠ .null) (htext : ∀ t, d ≠ .text t) :
    s = d.quote := by
  cases h with
  | null => exact absurd rfl hnull
  | text => exact absurd rfl (htext _)
  | int | float | other | keySet => simp only [quote]

end Datum

namespace Yaml

variable {schema : Schema} {nodes : Array Node} {missing s text : String} {d : Datum}

/-- The scalar is a number or a time. -/
inductive IsMeasure : ScalarKind → Prop
  | int : IsMeasure .int
  | float : IsMeasure .float
  | timestamp : IsMeasure .timestamp

/-- The text, or what stands for it if it is empty. -/
def filled (missing text : String) : String :=
  if text = "" then missing else text

/-- **The text that a plain scalar is read as**: nothing for the forms of null, the text of its value for a number or
time, and itself otherwise.  Truth values, merge keys and indicators are read as no text. -/
inductive PlainText (schema : Schema) (missing s : String) : String → Prop
  | absent (hkind : schema.kindOf s = .null) : PlainText schema missing s missing
  | kept (hkind : schema.kindOf s = .text ∨ schema.kindOf s = .default) : PlainText schema missing s s
  | value {d : Datum} {text : String} (hkind : IsMeasure (schema.kindOf s))
    (hvalue : Builder.scalarOf (schema.kindOf s) s = .ok d) (htext : d.StandsFor text) : PlainText schema missing s text

/-- **How texts are read of the nodes of a document.** -/
structure ReadAs (schema : Schema) (nodes : Array Node) (missing : String) (v? : Option Nat) (text : String) :
    Prop where
  absent : v? = none → text = missing
  quoted : ∀ v s, v? = some v → nodes[v]? = some { body := .scalar s false } → text = filled missing s
  plain : ∀ v s, v? = some v → nodes[v]? = some { body := .scalar s true } → PlainText schema missing s text

/-- **A plain scalar is kept**, or it is a form of null. -/
def Keeps (schema : Schema) (nodes : Array Node) (missing : String) (v? : Option Nat) (text : String) : Prop :=
  ∀ v s, v? = some v → nodes[v]? = some { body := .scalar s true } →
    text = s ∨ schema.kindOf s = .null ∧ text = missing

/-- **A plain number or time is spelled** as its value is written. -/
def IsSpelled (schema : Schema) (nodes : Array Node) (v? : Option Nat) : Prop :=
  ∀ v s, v? = some v → nodes[v]? = some { body := .scalar s true } → IsMeasure (schema.kindOf s) →
    ∀ d, Builder.scalarOf (schema.kindOf s) s = .ok d → d.StandsFor s

theorem keeps_iff_isSpelled {v? : Option Nat} (h : ReadAs schema nodes missing v? text) :
    Keeps schema nodes missing v? text ↔ IsSpelled schema nodes v? := by
  constructor
  · intro hkeeps v s hv hnode hkind d hd
    cases h.plain v s hv hnode with
    | absent hnull =>
      rw [hnull] at hkind
      cases hkind
    | kept hkept =>
      rcases hkept with htext | hdefault
      · rw [htext] at hkind
        cases hkind
      · rw [hdefault] at hkind
        cases hkind
    | value _ hvalue htext =>
      cases hd.symm.trans hvalue
      rcases hkeeps v s hv hnode with rfl | ⟨hnull, -⟩
      · exact htext
      · rw [hnull] at hkind
        cases hkind
  · intro hspelled v s hv hnode
    cases h.plain v s hv hnode with
    | absent hnull => exact .inr ⟨hnull, rfl⟩
    | kept => exact .inl rfl
    | value hkind hvalue htext => exact .inl (htext.unique (hspelled v s hv hnode hkind _ hvalue))

/-- The value of a number or time has a text of its own. -/
theorem text_of_measure {kind : ScalarKind} (hkind : IsMeasure kind) (hvalue : Builder.scalarOf kind s = .ok d)
    (htext : d.StandsFor text) : text ≠ "" := by
  obtain ⟨hnull, hother⟩ : d ≠ .null ∧ ∀ t, d ≠ .text t := by
    cases hkind <;> cases valueOf_of_scalarOf hvalue <;> simp
  rw [htext.eq_quote hnull hother]
  exact (sound_of_isValue (.inl ⟨kind, s, hvalue⟩)).quote_ne_empty

/-- The text of a plain scalar whose value is known. -/
theorem plainText_of_reads
    (hreads : Builder.scalarOf (schema.kindOf s) s = .ok d ∨ schema.kindOf s = .default ∧ d = .text s)
    (htext : d.StandsFor text) : PlainText schema missing s (filled missing text) := by
  have hkept (hkind : schema.kindOf s = .text ∨ schema.kindOf s = .default) (hd : d = .text s) :
      PlainText schema missing s (filled missing text) := by
    subst hd
    cases htext
    have hne : s ≠ "" := by
      rintro rfl
      rcases hkind with hkind | hkind <;> cases hkind
    rw [filled, if_neg hne]
    exact .kept hkind
  rcases hreads with hvalue | ⟨hdefault, hd⟩
  · have hmeasure (hkind : IsMeasure (schema.kindOf s)) : PlainText schema missing s (filled missing text) := by
      rw [filled, if_neg (text_of_measure hkind hvalue htext)]
      exact .value hkind hvalue htext
    have hshape := valueOf_of_scalarOf hvalue
    generalize hkind : schema.kindOf s = kind at hshape
    cases hshape with
    | null =>
      cases htext
      exact .absent hkind
    | bool => cases htext
    | int => exact hmeasure (hkind ▸ .int)
    | float => exact hmeasure (hkind ▸ .float)
    | timestamp => exact hmeasure (hkind ▸ .timestamp)
    | text => exact hkept (.inl hkind) rfl
  · exact hkept (.inr hdefault) hd

end Yaml

end CommandWrap
