import CommandWrap.Session.Module
import Mathlib.Data.List.TakeWhile

/-!
# Names as the language knows them

The language knows a name in normal form, and a private attribute of a class under a longer name.  A name
that ends in ASCII characters keeps them (`known_append`), and no low line of a name is lost on the way to
the normal form (`count_normalForm`).  So an attribute is known as it is written in the body of a class
exactly if it is in normal form and not private (`target_eq_iff`): what stands for a private attribute has
more low lines than the attribute.
-/
namespace CommandWrap

namespace Unicode

/-! ## Characters in ASCII -/

theorem decompose_ascii {c : Char} (h : c.toNat < 128) : decompose c = [c] :=
  if_pos (by omega)

theorem markClass_ascii {c : Char} (h : c.toNat < 128) : markClass c = 0 :=
  if_pos (by omega)

theorem joined?_ascii {c : Char} (h : c.toNat < 128) (d : Char) : joined? d c = none :=
  if_pos (by omega)

theorem placeMark_ascii {c : Char} (h : c.toNat < 128) (cs : List Char) :
    placeMark c cs = c :: cs := by
  cases cs with
  | nil => rfl
  | cons d rest => rw [placeMark, markClass_ascii h, if_neg (fun h => h.1 rfl)]

theorem orderMarks_ascii {c : Char} (h : c.toNat < 128) (cs : List Char) :
    orderMarks (cs ++ [c]) = orderMarks cs ++ [c] := by
  rw [orderMarks, orderMarks, List.foldl_append, List.foldl_cons, List.foldl_nil, placeMark_ascii h,
    List.reverse_cons]

theorem take_ascii {c : Char} (h : c.toNat < 128) (j : Joining) : (j.take c).all = c :: j.all := by
  have hjoin : j.letter?.bind (joined? · c) = none := by
    cases j.letter? with
    | none => rfl
    | some d => exact joined?_ascii h d
  rw [Joining.take, hjoin]
  simp only [Joining.append, markClass_ascii h, if_true, Joining.all]
  rfl

theorem joinMarks_ascii {c : Char} (h : c.toNat < 128) (cs : List Char) :
    joinMarks (cs ++ [c]) = joinMarks cs ++ [c] := by
  rw [joinMarks, joinMarks, List.foldl_append, List.foldl_cons, List.foldl_nil, take_ascii h,
    List.reverse_cons]

theorem normalForm_ascii {c : Char} (h : c.toNat < 128) (cs : List Char) :
    normalForm (cs ++ [c]) = normalForm cs ++ [c] := by
  have hall : (cs ++ [c]).all (·.toNat < 128) = cs.all (·.toNat < 128) := by
    simp [h]
  rw [normalForm, normalForm, hall]
  split
  · rfl
  · rw [List.flatMap_append, List.flatMap_singleton, decompose_ascii h, orderMarks_ascii h,
      joinMarks_ascii h]

/-- **The end of a text in ASCII** stays as it is. -/
theorem normalForm_append (cs : List Char) {ds : List Char} (h : ∀ d ∈ ds, d.toNat < 128) :
    normalForm (cs ++ ds) = normalForm cs ++ ds := by
  induction ds generalizing cs with
  | nil => rw [List.append_nil, List.append_nil]
  | cons d ds ih =>
    rw [List.forall_mem_cons] at h
    rw [← List.singleton_append, ← List.append_assoc, ih _ h.2, normalForm_ascii h.1, List.append_assoc]

/-! ## Low lines -/

theorem count_flatMap_decompose (cs : List Char) :
    cs.count '_' ≤ (cs.flatMap decompose).count '_' := by
  induction cs with
  | nil => exact Nat.le_refl _
  | cons c cs ih =>
    rw [List.flatMap_cons, List.count_append]
    by_cases hc : c = '_'
    · have hdecompose : decompose c = [c] := decompose_ascii (by rw [hc]; decide)
      rw [hdecompose, hc, List.count_cons_self, List.count_singleton_self]
      omega
    · rw [List.count_cons_of_ne hc]
      omega

theorem count_placeMark (c : Char) (cs : List Char) :
    (placeMark c cs).count '_' = (c :: cs).count '_' := by
  induction cs with
  | nil => rfl
  | cons d rest ih =>
    rw [placeMark]
    split
    · rw [List.count_cons, ih, List.count_cons, List.count_cons, List.count_cons]
      omega
    · rfl

theorem count_orderMarks (cs : List Char) : (orderMarks cs).count '_' = cs.count '_' := by
  have hfold (placed : List Char) :
      (cs.foldl (fun placed c => placeMark c placed) placed).count '_' =
        placed.count '_' + cs.count '_' := by
    induction cs generalizing placed with
    | nil => rfl
    | cons c cs ih =>
      rw [List.foldl_cons, ih, count_placeMark, List.count_cons, List.count_cons]
      omega
  rw [orderMarks, List.count_reverse, hfold, List.count_nil, Nat.zero_add]

/-- No two characters of which one is a low line are joined. -/
theorem ne_of_joined {c d both : Char} (h : joined? c d = some both) : c ≠ '_' ∧ d ≠ '_' := by
  constructor
  · rintro rfl
    have hpairs : ∀ p ∈ joinedPairs, (p.1 == 95) = false := by decide +kernel
    have hfind : joinedPairs.find? (fun p => p.1 == 95 && p.2.1 == d.toNat) = none := by
      rw [List.find?_eq_none]
      intro p hp
      simp [hpairs p hp]
    have hletters (b : Nat) : joinedLetters 95 b = none := by
      rw [joinedLetters, if_neg (by omega), if_neg (by omega)]
    have hcode : '_'.toNat = 95 := rfl
    rw [joined?] at h
    simp only [hcode, hletters, hfind] at h
    split at h <;> cases h
  · rintro rfl
    rw [joined?_ascii (by decide)] at h
    cases h

theorem count_all (j : Joining) :
    j.all.count '_' = j.marks.count '_' + j.letter?.toList.count '_' + j.settled.count '_' := by
  rw [Joining.all, List.count_append, List.count_append]

theorem count_append (j : Joining) (c : Char) : (j.append c).all.count '_' = (c :: j.all).count '_' := by
  rw [Joining.append]
  split
  · rfl
  · simp only [List.count_cons, count_all]
    omega

/-- Taking a character keeps the low lines. -/
theorem count_take (j : Joining) (c : Char) : (c :: j.all).count '_' ≤ (j.take c).all.count '_' := by
  rw [Joining.take]
  split
  · rename_i both hboth
    split
    · exact Nat.le_of_eq (count_append j c).symm
    · obtain ⟨letter, hletter, hjoin⟩ := Option.bind_eq_some_iff.mp hboth
      obtain ⟨hne, hne'⟩ := ne_of_joined hjoin
      simp only [List.count_cons_of_ne hne', count_all, hletter]
      have hzero : (some letter).toList.count '_' = 0 := by
        simp [hne]
      omega
  · exact Nat.le_of_eq (count_append j c).symm

theorem count_joinMarks (cs : List Char) : cs.count '_' ≤ (joinMarks cs).count '_' := by
  have hfold (j : Joining) :
      j.all.count '_' + cs.count '_' ≤ (cs.foldl Joining.take j).all.count '_' := by
    induction cs generalizing j with
    | nil => exact Nat.le_refl _
    | cons c cs ih =>
      have htake := count_take j c
      have hrest := ih (j.take c)
      rw [List.foldl_cons]
      rw [List.count_cons] at htake ⊢
      omega
  have hempty := hfold {}
  rw [joinMarks, List.count_reverse]
  simpa [Joining.all] using hempty

/-- **No low line is lost** on the way to the normal form. -/
theorem count_normalForm (cs : List Char) : cs.count '_' ≤ (normalForm cs).count '_' := by
  rw [normalForm]
  split
  · exact Nat.le_refl _
  · refine Nat.le_trans (count_flatMap_decompose cs) ?_
    refine Nat.le_trans (Nat.le_of_eq (count_orderMarks _).symm) ?_
    exact count_joinMarks _

end Unicode

/-! ## Attributes of a class body -/

/-- An attribute that a class knows under a longer name. -/
def IsPrivate (attr : String) : Prop :=
  attr.startsWith "__" = true ∧ attr.endsWith "__" = false

instance (attr : String) : Decidable (IsPrivate attr) :=
  inferInstanceAs (Decidable (_ ∧ _))

theorem privateName_of_not {attr : String} (h : ¬ IsPrivate attr) (className : String) :
    privateName className attr = attr := by
  refine if_neg fun hprivate => h ?_
  rw [Bool.and_eq_true, Bool.and_eq_true, Bool.not_eq_true'] at hprivate
  exact hprivate.1

theorem privateName_of_private {attr className : String} (h : IsPrivate attr)
    (hclass : ∃ c ∈ className.toList, c ≠ '_') :
    privateName className attr =
      "_" ++ String.ofList (className.toList.dropWhile (· == '_')) ++ attr := by
  have hstem : (className.toList.dropWhile (· == '_')).isEmpty = false := by
    rw [Bool.eq_false_iff, Ne, List.isEmpty_iff, List.dropWhile_eq_nil_iff]
    obtain ⟨c, hc, hne⟩ := hclass
    intro hall
    exact hne (by simpa using hall c hc)
  refine if_pos ?_
  rw [h.1, h.2, hstem]
  rfl

namespace Attribute

theorem known_append (s : String) {suffix : String} (h : ∀ c ∈ suffix.toList, c.toNat < 128) :
    known (s ++ suffix) = known s ++ suffix := by
  rw [known, known, String.toList_append, Unicode.normalForm_append _ h]
  apply String.ext
  simp

theorem count_known (s : String) : s.toList.count '_' ≤ (known s).toList.count '_' := by
  rw [known, String.toList_ofList]
  exact Unicode.count_normalForm _

end Attribute

/-- **An attribute is known as it is written** exactly if it is in normal form and not private. -/
theorem target_eq_iff {className : String} (hclass : ∃ c ∈ className.toList, c ≠ '_')
    (f : Source.SourceField) :
    f.target className = f.attr ↔ Attribute.known f.attr = f.attr ∧ ¬ IsPrivate f.attr := by
  rw [Source.SourceField.target]
  by_cases hprivate : IsPrivate (Attribute.known f.attr)
  · -- the longer name has more low lines
    have hne : privateName className (Attribute.known f.attr) ≠ f.attr := by
      intro h
      have hcount := congrArg (fun s : String => s.toList.count '_') h
      have hknown := Attribute.count_known f.attr
      rw [privateName_of_private hprivate hclass] at hcount
      simp only [String.toList_append, List.count_append] at hcount
      have hline : "_".toList.count '_' = 1 := rfl
      omega
    constructor
    · exact fun h => absurd h hne
    · rintro ⟨hknown, hfree⟩
      rw [hknown] at hprivate
      exact absurd hprivate hfree
  · rw [privateName_of_not hprivate]
    constructor
    · intro h
      rw [h] at hprivate
      exact ⟨h, hprivate⟩
    · exact fun h => h.1

end CommandWrap
