import Mathlib.Data.List.Forall2

set_option autoImplicit false

/-!
# Results that may be faults

A list is worked through from its start, and its first fault ends the work.  So
the whole succeeds exactly if every element does, with the values in order; and
two runs over one list whose steps agree, on faults as on values, agree on the
whole.
-/

namespace SizeFlags

variable {ε α β γ : Type}

/-- A result goes on to a value exactly if it is one itself. -/
theorem bind_eq_ok_iff {x : Except ε α} {f : α → Except ε β} {b : β} :
    x >>= f = .ok b ↔ ∃ a, x = .ok a ∧ f a = .ok b := by
  cases x with
  | error cause =>
    constructor
    · intro h
      cases h
    · rintro ⟨a, h, _⟩
      cases h
  | ok a =>
    constructor
    · intro h
      exact ⟨a, rfl, h⟩
    · rintro ⟨other, hother, h⟩
      rw [Except.ok.inj hother]
      exact h

/-- A fault is one of the result itself, or of what it goes on to. -/
theorem bind_eq_error_iff {x : Except ε α} {f : α → Except ε β} {cause : ε} :
    x >>= f = .error cause ↔ x = .error cause ∨ ∃ a, x = .ok a ∧ f a = .error cause := by
  cases x with
  | error other =>
    constructor
    · intro h
      exact Or.inl (congrArg Except.error (Except.error.inj h))
    · rintro (h | ⟨a, h, _⟩)
      · exact congrArg Except.error (Except.error.inj h)
      · cases h
  | ok a =>
    constructor
    · intro h
      exact Or.inr ⟨a, rfl, h⟩
    · rintro (h | ⟨other, hother, h⟩)
      · cases h
      · rw [Except.ok.inj hother]
        exact h

/-- A value that is only changed is one exactly if it was one before. -/
theorem map_eq_ok_iff {x : Except ε α} {f : α → β} {b : β} :
    x.map f = .ok b ↔ ∃ a, x = .ok a ∧ f a = b := by
  cases x with
  | error cause =>
    constructor
    · intro h
      cases h
    · rintro ⟨a, h, _⟩
      cases h
  | ok a =>
    constructor
    · intro h
      exact ⟨a, rfl, Except.ok.inj h⟩
    · rintro ⟨other, hother, h⟩
      rw [Except.ok.inj hother, ← h]
      rfl

theorem map_eq_error_iff {x : Except ε α} {f : α → β} {cause : ε} :
    x.map f = .error cause ↔ x = .error cause := by
  cases x with
  | error other =>
    constructor
    · intro h
      exact congrArg Except.error (Except.error.inj h)
    · intro h
      exact congrArg Except.error (Except.error.inj h)
  | ok a =>
    constructor
    · intro h
      cases h
    · intro h
      cases h

/-- Working through a list succeeds exactly if each element does. -/
theorem mapM_eq_ok_iff {f : α → Except ε β} {xs : List α} {ys : List β} :
    xs.mapM f = .ok ys ↔ List.Forall₂ (fun x y => f x = .ok y) xs ys := by
  induction xs generalizing ys with
  | nil =>
    rw [List.mapM_nil, List.forall₂_nil_left_iff]
    constructor
    · intro h
      exact (Except.ok.inj h).symm
    · rintro rfl
      rfl
  | cons x xs ih =>
    rw [List.mapM_cons, List.forall₂_cons_left_iff, bind_eq_ok_iff]
    constructor
    · rintro ⟨y, hy, h⟩
      obtain ⟨rest, hrest, h⟩ := bind_eq_ok_iff.mp h
      exact ⟨y, rest, hy, ih.mp hrest, (Except.ok.inj h).symm⟩
    · rintro ⟨y, rest, hy, hrest, rfl⟩
      exact ⟨y, hy, bind_eq_ok_iff.mpr ⟨rest, ih.mpr hrest, rfl⟩⟩

/-- Working through a list fails where the first element does that fails. -/
theorem mapM_eq_error_iff {f : α → Except ε β} {xs : List α} {cause : ε} :
    xs.mapM f = .error cause ↔
      ∃ before x after, xs = before ++ x :: after ∧ (∀ y ∈ before, ∃ b, f y = .ok b) ∧
        f x = .error cause := by
  induction xs with
  | nil =>
    constructor
    · intro h
      cases h
    · rintro ⟨before, x, after, h, _⟩
      exact absurd h.symm (by simp)
  | cons first rest ih =>
    rw [List.mapM_cons, bind_eq_error_iff]
    constructor
    · rintro (hfirst | ⟨y, hy, hrest⟩)
      · exact ⟨[], first, rest, rfl, by simp, hfirst⟩
      · rcases bind_eq_error_iff.mp hrest with hrest | ⟨_, _, hend⟩
        · obtain ⟨before, x, after, rfl, hbefore, hx⟩ := ih.mp hrest
          exact ⟨first :: before, x, after, rfl, List.forall_mem_cons.mpr ⟨⟨y, hy⟩, hbefore⟩, hx⟩
        · cases hend
    · rintro ⟨before, x, after, hsplit, hbefore, hx⟩
      cases before with
      | nil =>
        obtain ⟨rfl, rfl⟩ := List.cons.inj hsplit
        exact Or.inl hx
      | cons head before =>
        obtain ⟨rfl, rfl⟩ := List.cons.inj hsplit
        obtain ⟨⟨y, hy⟩, hbefore⟩ := List.forall_mem_cons.mp hbefore
        exact Or.inr ⟨y, hy, bind_eq_error_iff.mpr (.inl (ih.mpr ⟨before, x, after, rfl, hbefore, hx⟩))⟩

/-- Working through a list fails only where an element does. -/
theorem exists_mem_of_mapM_eq_error {f : α → Except ε β} {xs : List α} {cause : ε}
    (h : xs.mapM f = .error cause) : ∃ x ∈ xs, f x = .error cause := by
  obtain ⟨before, x, after, rfl, _, hx⟩ := mapM_eq_error_iff.mp h
  exact ⟨x, by simp, hx⟩

theorem exists_mem_of_forall₂ {R : α → β → Prop} {xs : List α} {ys : List β}
    (h : List.Forall₂ R xs ys) {y : β} (hy : y ∈ ys) : ∃ x ∈ xs, R x y := by
  induction h with
  | nil => exact absurd hy List.not_mem_nil
  | cons hfirst _ ih =>
    rcases List.mem_cons.mp hy with rfl | hrest
    · exact ⟨_, List.mem_cons_self, hfirst⟩
    · obtain ⟨x, hx, hR⟩ := ih hrest
      exact ⟨x, List.mem_cons_of_mem _ hx, hR⟩

/-- A list that is related to two lists one behind the other falls into two parts. -/
theorem exists_append_of_forall₂ {R : α → β → Prop} {xs ys : List α} {zs : List β}
    (h : List.Forall₂ R (xs ++ ys) zs) :
    ∃ front rest, zs = front ++ rest ∧ List.Forall₂ R xs front ∧ List.Forall₂ R ys rest :=
  ⟨zs.take xs.length, zs.drop xs.length, (List.take_append_drop _ _).symm,
    (List.forall₂_take_append zs xs ys h.flip).flip, (List.forall₂_drop_append zs xs ys h.flip).flip⟩

/-- Working through a list succeeds if no element fails. -/
theorem exists_mapM_eq_ok_iff {f : α → Except ε β} {xs : List α} :
    (∃ ys, xs.mapM f = .ok ys) ↔ ∀ x ∈ xs, ∃ y, f x = .ok y := by
  constructor
  · rintro ⟨ys, h⟩ x hx
    have hflip : List.Forall₂ (fun y x => f x = .ok y) ys xs := (mapM_eq_ok_iff.mp h).flip
    obtain ⟨y, _, hy⟩ := exists_mem_of_forall₂ hflip hx
    exact ⟨y, hy⟩
  · intro h
    cases hxs : xs.mapM f with
    | ok ys => exact ⟨ys, rfl⟩
    | error cause =>
      obtain ⟨x, hx, hfault⟩ := exists_mem_of_mapM_eq_error hxs
      obtain ⟨y, hy⟩ := h x hx
      rw [hfault] at hy
      cases hy

/-! ## Agreement -/

/-- Both results are the same fault, or both are values that are related. -/
inductive Agree (R : α → β → Prop) : Except ε α → Except ε β → Prop where
  | fault (cause : ε) : Agree R (.error cause) (.error cause)
  | value {a : α} {b : β} (h : R a b) : Agree R (.ok a) (.ok b)

namespace Agree

variable {δ : Type} {R : α → β → Prop} {S : γ → δ → Prop}

theorem refl (x : Except ε α) : Agree Eq x x := by
  cases x with
  | error cause => exact .fault cause
  | ok a => exact .value rfl

/-- Results that agree go on to results that agree. -/
theorem bind {x : Except ε α} {y : Except ε β} {f : α → Except ε γ}
    {g : β → Except ε δ} (h : Agree R x y) (hnext : ∀ a b, R a b → Agree S (f a) (g b)) :
    Agree S (x >>= f) (y >>= g) := by
  cases h with
  | fault cause => exact .fault cause
  | value h => exact hnext _ _ h

/-- Two runs over one list agree if they do at each element. -/
theorem mapM {f : γ → Except ε α} {g : γ → Except ε β} (xs : List γ)
    (h : ∀ x ∈ xs, Agree R (f x) (g x)) : Agree (List.Forall₂ R) (xs.mapM f) (xs.mapM g) := by
  induction xs with
  | nil => exact .value .nil
  | cons x xs ih =>
    rw [List.mapM_cons, List.mapM_cons]
    refine (h x List.mem_cons_self).bind ?_
    intro a b hab
    refine (ih fun y hy => h y (List.mem_cons_of_mem x hy)).bind ?_
    intro as bs hrest
    exact .value (.cons hab hrest)

end Agree

end SizeFlags
