import Mathlib.Data.List.Forall2

/-!
# Outcomes

A computation gives a result or a fault.  A chain of computations gives a result when each of them does, and so
does a row of them, whose results go together with it one by one.
-/
namespace CommandWrap

/-! ## Rows that go together -/

section Forall₂

variable {α β : Type} {R : α → β → Prop} {as : List α} {bs : List β}

theorem exists_left_of_mem (h : List.Forall₂ R as bs) {b : β} (hb : b ∈ bs) : ∃ a ∈ as, R a b := by
  induction h with
  | nil => cases hb
  | cons hab _ ih =>
    rcases List.mem_cons.mp hb with rfl | hb
    · exact ⟨_, List.mem_cons_self .., hab⟩
    · obtain ⟨a, ha, hr⟩ := ih hb
      exact ⟨a, List.mem_cons_of_mem _ ha, hr⟩

theorem exists_right_of_mem (h : List.Forall₂ R as bs) {a : α} (ha : a ∈ as) : ∃ b ∈ bs, R a b :=
  exists_left_of_mem (R := flip R) h.flip ha

theorem exists_forall₂ (h : ∀ a ∈ as, ∃ b, R a b) : ∃ bs, List.Forall₂ R as bs := by
  induction as with
  | nil => exact ⟨[], .nil⟩
  | cons a as ih =>
    obtain ⟨hfirst, hrest⟩ := List.forall_mem_cons.mp h
    obtain ⟨b, hb⟩ := hfirst
    obtain ⟨bs, hbs⟩ := ih hrest
    exact ⟨b :: bs, .cons hb hbs⟩

/-- What relates two rows may use that the left element is in its row. -/
theorem forall₂_imp_of_mem {S : α → β → Prop} (h : List.Forall₂ R as bs)
    (himp : ∀ a ∈ as, ∀ b, R a b → S a b) : List.Forall₂ S as bs := by
  induction h with
  | nil => exact .nil
  | cons hab _ ih =>
    refine .cons (himp _ (List.mem_cons_self ..) _ hab) (ih ?_)
    intro a ha
    exact himp a (List.mem_cons_of_mem _ ha)

/-- Rows that are related by way of a third one. -/
theorem forall₂_trans {γ : Type} {S : β → γ → Prop} {T : α → γ → Prop} {cs : List γ} (h : List.Forall₂ R as bs)
    (hS : List.Forall₂ S bs cs) (htrans : ∀ a b, ∀ c ∈ cs, R a b → S b c → T a c) : List.Forall₂ T as cs := by
  induction h generalizing cs with
  | nil =>
    cases hS
    exact .nil
  | cons hab _ ih =>
    cases hS with
    | cons hbc hS =>
      exact .cons (htrans _ _ _ (List.mem_cons_self ..) hab hbc)
        (ih hS fun a b c hc => htrans a b c (List.mem_cons_of_mem _ hc))

/-- Rows that are related in two ways. -/
theorem forall₂_and_imp {Q S : α → β → Prop} (h : List.Forall₂ R as bs) (hQ : List.Forall₂ Q as bs)
    (himp : ∀ a, ∀ b ∈ bs, R a b → Q a b → S a b) : List.Forall₂ S as bs := by
  induction h with
  | nil => exact .nil
  | cons hab _ ih =>
    cases hQ with
    | cons hab' hQ =>
      exact .cons (himp _ _ (List.mem_cons_self ..) hab hab') (ih hQ fun a b hb => himp a b (List.mem_cons_of_mem _ hb))

end Forall₂

/-! ## Computations -/

theorem mapError_eq_ok_iff {α ε ε' : Type} {f : ε → ε'} {x : Except ε α} {a : α} :
    x.mapError f = .ok a ↔ x = .ok a := by
  cases x <;> simp [Except.mapError]

theorem mapError_inj {α ε ε' : Type} {f : ε → ε'} (hf : ∀ e e', f e = f e' → e = e') {x y : Except ε α} :
    x.mapError f = y.mapError f ↔ x = y := by
  constructor
  · intro h
    cases x with
    | ok a => exact (mapError_eq_ok_iff.mp h.symm).symm
    | error e =>
      cases y with
      | ok a => cases h
      | error e' => rw [hf e e' (Except.error.inj h)]
  · rintro rfl
    rfl

theorem map_eq_ok_iff {α β ε : Type} {f : α → β} {x : Except ε α} {b : β} :
    x.map f = .ok b ↔ ∃ a, x = .ok a ∧ f a = b := by
  cases x <;> simp [Except.map]

theorem bind_ok {α β ε : Type} (a : α) (f : α → Except ε β) : Except.ok a >>= f = f a :=
  rfl

theorem bind_eq_ok_iff {α β ε : Type} {x : Except ε α} {f : α → Except ε β} {b : β} :
    x >>= f = .ok b ↔ ∃ a, x = .ok a ∧ f a = .ok b := by
  cases x <;> simp [bind, Except.bind]

theorem mapError_eq_error_iff {α ε ε' : Type} {f : ε → ε'} {x : Except ε α} {e' : ε'} :
    x.mapError f = .error e' ↔ ∃ e, x = .error e ∧ f e = e' := by
  cases x <;> simp [Except.mapError]

theorem bind_eq_error_iff {α β ε : Type} {x : Except ε α} {f : α → Except ε β} {e : ε} :
    x >>= f = .error e ↔ x = .error e ∨ ∃ a, x = .ok a ∧ f a = .error e := by
  cases x <;> simp [bind, Except.bind]

/-- A row of steps faults exactly if one of them does behind others that give a result. -/
theorem foldlM_eq_error_iff {α σ ε : Type} {f : σ → α → Except ε σ} {xs : List α} {start : σ} {e : ε} :
    xs.foldlM f start = .error e ↔ ∃ before x after state, xs = before ++ x :: after ∧
      before.foldlM f start = .ok state ∧ f state x = .error e := by
  induction xs generalizing start with
  | nil =>
    refine iff_of_false nofun ?_
    rintro ⟨before, x, after, state, h, -⟩
    cases before <;> cases h
  | cons x xs ih =>
    rw [List.foldlM_cons, bind_eq_error_iff]
    constructor
    · rintro (hx | ⟨next, hx, hxs⟩)
      · exact ⟨[], x, xs, start, rfl, rfl, hx⟩
      · obtain ⟨before, y, after, state, rfl, hbefore, hy⟩ := ih.mp hxs
        refine ⟨x :: before, y, after, state, rfl, ?_, hy⟩
        rw [List.foldlM_cons, hx, bind_ok, hbefore]
    · rintro ⟨before, y, after, state, heq, hbefore, hy⟩
      cases before with
      | nil =>
        obtain ⟨rfl, -⟩ := List.cons.inj heq
        cases hbefore
        exact .inl hy
      | cons z before =>
        obtain ⟨rfl, rfl⟩ := List.cons.inj heq
        rw [List.foldlM_cons] at hbefore
        obtain ⟨next, hx, hbefore⟩ := bind_eq_ok_iff.mp hbefore
        exact .inr ⟨next, hx, ih.mpr ⟨before, y, after, state, rfl, hbefore, hy⟩⟩

theorem mapM_eq_ok_iff {α β ε : Type} {f : α → Except ε β} {xs : List α} {ys : List β} :
    xs.mapM f = .ok ys ↔ List.Forall₂ (fun x y => f x = .ok y) xs ys := by
  induction xs generalizing ys with
  | nil =>
    rw [List.mapM_nil, List.forall₂_nil_left_iff]
    constructor
    · intro h
      exact (Except.ok.inj h).symm
    · rintro rfl
      rfl
  | cons x xs ih =>
    rw [List.mapM_cons, List.forall₂_cons_left_iff]
    constructor
    · intro h
      cases hx : f x with
      | error e =>
        rw [hx] at h
        cases h
      | ok y =>
        cases hxs : xs.mapM f with
        | error e =>
          rw [hx, hxs] at h
          cases h
        | ok rest =>
          rw [hx, hxs] at h
          exact ⟨y, rest, rfl, ih.mp hxs, (Except.ok.inj h).symm⟩
    · rintro ⟨y, rest, hx, hrest, rfl⟩
      rw [hx, ih.mpr hrest]
      rfl

/-- A row of computations faults exactly if one of them does behind others that give a result. -/
theorem mapM_eq_error_iff {α β ε : Type} {f : α → Except ε β} {xs : List α} {e : ε} :
    xs.mapM f = .error e ↔ ∃ before x after, xs = before ++ x :: after ∧ (∀ y ∈ before, ∃ b, f y = .ok b) ∧
      f x = .error e := by
  induction xs with
  | nil => exact iff_of_false nofun fun ⟨before, _, _, h, _⟩ => by cases before <;> cases h
  | cons x xs ih =>
    rw [List.mapM_cons, bind_eq_error_iff]
    constructor
    · rintro (hx | ⟨b, hx, hxs⟩)
      · exact ⟨[], x, xs, rfl, List.forall_mem_nil _, hx⟩
      · rcases bind_eq_error_iff.mp hxs with hxs | ⟨_, _, h⟩
        · obtain ⟨before, y, after, rfl, hbefore, hy⟩ := ih.mp hxs
          exact ⟨x :: before, y, after, rfl, List.forall_mem_cons.mpr ⟨⟨b, hx⟩, hbefore⟩, hy⟩
        · cases h
    · rintro ⟨before, y, after, heq, hbefore, hy⟩
      cases before with
      | nil =>
        obtain ⟨rfl, -⟩ := List.cons.inj heq
        exact .inl hy
      | cons z before =>
        obtain ⟨rfl, rfl⟩ := List.cons.inj heq
        obtain ⟨⟨b, hx⟩, hbefore⟩ := List.forall_mem_cons.mp hbefore
        exact .inr ⟨b, hx, bind_eq_error_iff.mpr (.inl (ih.mpr ⟨before, y, after, rfl, hbefore, hy⟩))⟩

theorem mapM_eq_some_iff {α β : Type} {f : α → Option β} {xs : List α} {ys : List β} :
    xs.mapM f = some ys ↔ List.Forall₂ (fun x y => f x = some y) xs ys := by
  induction xs generalizing ys with
  | nil => simp [eq_comm]
  | cons x xs ih =>
    simp only [List.mapM_cons, List.forall₂_cons_left_iff, Option.bind_eq_bind, Option.bind_eq_some_iff,
      Option.pure_def, Option.some.injEq, ih]
    constructor
    · rintro ⟨y, hy, rest, hrest, rfl⟩
      exact ⟨y, rest, hy, hrest, rfl⟩
    · rintro ⟨y, rest, hy, hrest, rfl⟩
      exact ⟨y, hy, rest, hrest, rfl⟩

/-! ## Results without their faults -/

theorem toOption_eq_some_iff {α ε : Type} {x : Except ε α} {a : α} : x.toOption = some a ↔ x = .ok a := by
  cases x <;> simp [Except.toOption]

theorem toOption_bind {α β ε : Type} (x : Except ε α) (f : α → Except ε β) :
    (x >>= f).toOption = x.toOption.bind fun a => (f a).toOption := by
  cases x <;> rfl

theorem toOption_mapM {α β ε : Type} (f : α → Except ε β) (xs : List α) :
    (xs.mapM f).toOption = xs.mapM fun x => (f x).toOption := by
  induction xs with
  | nil => rfl
  | cons x xs ih =>
    rw [List.mapM_cons, List.mapM_cons, toOption_bind, ← ih]
    cases f x with
    | error e => rfl
    | ok y => cases xs.mapM f <;> rfl

theorem mapM_congr_of_mem {α β : Type} {m : Type → Type} [Monad m] [LawfulMonad m]
    {f g : α → m β} {xs : List α}
    (h : ∀ x ∈ xs, f x = g x) : xs.mapM f = xs.mapM g := by
  induction xs with
  | nil => rfl
  | cons x xs ih =>
    rw [List.forall_mem_cons] at h
    rw [List.mapM_cons, List.mapM_cons, h.1, ih h.2]

/-! ## Faults -/

/-- **The fault of a computation**, if there is one, has the property. -/
def FaultsIn {ε α : Type} (P : ε → Prop) (x : Except ε α) : Prop :=
  ∀ fault, x = .error fault → P fault

section FaultsIn

variable {ε α β : Type} {P : ε → Prop}

@[simp] theorem faultsIn_ok (a : α) : FaultsIn P (.ok a) := by
  rintro _ ⟨⟩

@[simp] theorem faultsIn_pure (a : α) : FaultsIn P (pure a) :=
  faultsIn_ok a

@[simp] theorem faultsIn_error (fault : ε) : FaultsIn P (.error fault : Except ε α) ↔ P fault :=
  ⟨fun h => h fault rfl, fun h _ heq => Except.error.inj heq ▸ h⟩

@[simp] theorem faultsIn_bind (x : Except ε α) (f : α → Except ε β) :
    FaultsIn P (x >>= f) ↔ FaultsIn P x ∧ ∀ a, x = .ok a → FaultsIn P (f a) := by
  cases x with
  | ok a => simp [bind_ok]
  | error fault =>
    have hbind : (Except.error fault >>= f) = .error fault := rfl
    simp [hbind]

@[simp] theorem faultsIn_map (x : Except ε α) (f : α → β) : FaultsIn P (x.map f) ↔ FaultsIn P x := by
  cases x <;> simp [Except.map]

@[simp] theorem faultsIn_functor_map (x : Except ε α) (f : α → β) : FaultsIn P (f <$> x) ↔ FaultsIn P x :=
  faultsIn_map x f

@[simp] theorem faultsIn_ite (p : Prop) [Decidable p] (x y : Except ε α) :
    FaultsIn P (if p then x else y) ↔ (p → FaultsIn P x) ∧ (¬ p → FaultsIn P y) := by
  split <;> simp_all

theorem faultsIn_mapM {f : α → Except ε β} {xs : List α} (h : ∀ x ∈ xs, FaultsIn P (f x)) :
    FaultsIn P (xs.mapM f) := by
  induction xs with
  | nil => simp
  | cons x xs ih =>
    rw [List.forall_mem_cons] at h
    simp [List.mapM_cons, h.1, ih h.2]

end FaultsIn

end CommandWrap
