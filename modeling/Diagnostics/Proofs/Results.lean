import Mathlib.Data.List.Forall2

/-!
# Results one after another

Work on a result goes on if the result is a success and ends with the first failure. This file says
so of two results and of those for the elements of a list, for all functions that work in this way.
-/

namespace Diagnostics

variable {ε α β : Type}

section Two

variable {x : Except ε α} {f : α → Except ε β}

/-- A result that is worked on was a success. -/
theorem exists_of_bind_eq_ok {b : β} (h : x >>= f = .ok b) : ∃ a, x = .ok a ∧ f a = .ok b := by
  cases x with
  | error failure => cases h
  | ok a => exact ⟨a, rfl, h⟩

/-- Working on a result fails if the result is a failure or the work fails. -/
theorem bind_eq_error_iff {e : ε} :
    x >>= f = .error e ↔ x = .error e ∨ ∃ a, x = .ok a ∧ f a = .error e := by
  cases x with
  | error failure => simp [bind, Except.bind]
  | ok a => simp [bind, Except.bind]

end Two

section Lists

variable {f : α → Except ε β}

/-- Results are collected one for each element, in the order of the elements. -/
theorem mapM_eq_ok_iff {xs : List α} {ys : List β} :
    xs.mapM f = .ok ys ↔ List.Forall₂ (fun x y => f x = .ok y) xs ys := by
  constructor
  · intro h
    induction xs generalizing ys with
    | nil =>
      cases h
      exact .nil
    | cons x xs ih =>
      rw [List.mapM_cons] at h
      obtain ⟨b, hb, h⟩ := exists_of_bind_eq_ok h
      obtain ⟨bs, hbs, h⟩ := exists_of_bind_eq_ok h
      cases h
      exact .cons hb (ih hbs)
  · intro h
    induction h with
    | nil => rfl
    | cons hfirst hrest ih =>
      rw [List.mapM_cons, hfirst, ih]
      rfl

/-- Collecting results fails with the first failure. -/
theorem mapM_eq_error_iff {xs : List α} {failure : ε} :
    xs.mapM f = .error failure ↔ ∃ front x back, xs = front ++ x :: back ∧
      (∀ a ∈ front, ∃ b, f a = .ok b) ∧ f x = .error failure := by
  constructor
  · intro h
    induction xs with
    | nil => cases h
    | cons x xs ih =>
      rw [List.mapM_cons] at h
      rcases bind_eq_error_iff.mp h with hfirst | ⟨b, hb, h⟩
      · exact ⟨[], x, xs, rfl, List.forall_mem_nil _, hfirst⟩
      · rcases bind_eq_error_iff.mp h with hrest | ⟨bs, -, h⟩
        · obtain ⟨front, y, back, rfl, hfront, hy⟩ := ih hrest
          exact ⟨x :: front, y, back, rfl, List.forall_mem_cons.mpr ⟨⟨b, hb⟩, hfront⟩, hy⟩
        · cases h
  · rintro ⟨front, x, back, rfl, hfront, hx⟩
    induction front with
    | nil =>
      rw [List.nil_append, List.mapM_cons, hx]
      rfl
    | cons a front ih =>
      obtain ⟨⟨b, hb⟩, hrest⟩ := List.forall_mem_cons.mp hfront
      rw [List.cons_append, List.mapM_cons, hb]
      exact bind_eq_error_iff.mpr (.inr ⟨b, rfl, bind_eq_error_iff.mpr (.inl (ih hrest))⟩)

/-- Each of some values can be related to another one exactly if they can all be at once. -/
theorem exists_forall₂_iff {r : α → β → Prop} {xs : List α} :
    (∃ ys, List.Forall₂ r xs ys) ↔ ∀ x ∈ xs, ∃ y, r x y := by
  induction xs with
  | nil => exact ⟨fun _ => List.forall_mem_nil _, fun _ => ⟨[], .nil⟩⟩
  | cons x xs ih =>
    rw [List.forall_mem_cons, ← ih]
    constructor
    · rintro ⟨ys, _ | ⟨hfirst, hrest⟩⟩
      exact ⟨⟨_, hfirst⟩, ⟨_, hrest⟩⟩
    · rintro ⟨⟨y, hfirst⟩, ys, hrest⟩
      exact ⟨y :: ys, .cons hfirst hrest⟩

/-- So all results are there exactly if each is a success. -/
theorem exists_mapM_eq_ok_iff {xs : List α} :
    (∃ ys, xs.mapM f = .ok ys) ↔ ∀ x ∈ xs, ∃ y, f x = .ok y := by
  simp only [mapM_eq_ok_iff, exists_forall₂_iff]

end Lists

end Diagnostics
