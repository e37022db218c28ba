import Mathlib.Data.List.Forall2
import Mathlib.Tactic.Common

/-!
# Traversals that stop at an error

What a traversal of a list in `Except` says of the single steps, both when it succeeds and
when it fails.
-/

namespace Framework

variable {α β ε : Type}

theorem bind_eq_ok {x : Except ε α} {f : α → Except ε β} {b : β} :
    x >>= f = .ok b ↔ ∃ a, x = .ok a ∧ f a = .ok b := by
  cases x with
  | error err =>
    constructor
    · intro h
      cases h
    · rintro ⟨a, ha, -⟩
      cases ha
  | ok a =>
    constructor
    · exact fun h => ⟨a, rfl, h⟩
    · rintro ⟨a', ha, h⟩
      cases ha
      exact h

theorem mapM_eq_ok {f : α → Except ε β} {xs : List α} {ys : List β} :
    xs.mapM f = .ok ys ↔ List.Forall₂ (fun x y => f x = .ok y) xs ys := by
  induction xs generalizing ys with
  | nil =>
    constructor
    · intro h
      cases h
      exact .nil
    · intro h
      cases h
      rfl
  | cons x xs ih =>
    rw [List.mapM_cons, bind_eq_ok]
    constructor
    · rintro ⟨y, hx, hrest⟩
      obtain ⟨rest, hxs, hys⟩ := bind_eq_ok.mp hrest
      cases hys
      exact .cons hx (ih.mp hxs)
    · intro h
      cases h with
      | cons hx hrest => exact ⟨_, hx, bind_eq_ok.mpr ⟨_, ih.mpr hrest, rfl⟩⟩

theorem forM_eq_ok {f : α → Except ε Unit} {xs : List α} :
    xs.forM f = .ok () ↔ ∀ x ∈ xs, f x = .ok () := by
  induction xs with
  | nil => exact ⟨fun _ x hx => absurd hx List.not_mem_nil, fun _ => rfl⟩
  | cons x xs ih =>
    have hstep : (x :: xs).forM f = f x >>= fun _ => xs.forM f := rfl
    rw [hstep, bind_eq_ok, List.forall_mem_cons]
    constructor
    · rintro ⟨u, hx, hrest⟩
      exact ⟨hx, ih.mp hrest⟩
    · rintro ⟨hx, hrest⟩
      exact ⟨(), hx, ih.mpr hrest⟩

theorem exists_mem_right {R : α → β → Prop} {xs : List α} {ys : List β}
    (h : List.Forall₂ R xs ys) : ∀ x ∈ xs, ∃ y ∈ ys, R x y := by
  induction h with
  | nil => exact fun x hx => absurd hx List.not_mem_nil
  | cons hxy _ ih =>
    intro x hx
    rcases List.mem_cons.mp hx with rfl | hx
    · exact ⟨_, List.mem_cons_self, hxy⟩
    · obtain ⟨y, hy, hR⟩ := ih x hx
      exact ⟨y, List.mem_cons_of_mem _ hy, hR⟩

theorem mapM_eq_error {f : α → Except ε β} {xs : List α} {err : ε} (h : xs.mapM f = .error err) :
    ∃ x ∈ xs, f x = .error err := by
  induction xs with
  | nil => cases h
  | cons x xs ih =>
    rw [List.mapM_cons] at h
    cases hx : f x with
    | error err' =>
      rw [hx] at h
      cases h
      exact ⟨x, List.mem_cons_self, hx⟩
    | ok y =>
      cases hxs : xs.mapM f with
      | error err' =>
        rw [hx, hxs] at h
        cases h
        obtain ⟨x', hmem, herr⟩ := ih hxs
        exact ⟨x', List.mem_cons_of_mem x hmem, herr⟩
      | ok ys =>
        rw [hx, hxs] at h
        cases h

theorem forM_eq_error {f : α → Except ε Unit} {xs : List α} {err : ε}
    (h : xs.forM f = .error err) : ∃ x ∈ xs, f x = .error err := by
  induction xs with
  | nil => cases h
  | cons x xs ih =>
    have hstep : (x :: xs).forM f = f x >>= fun _ => xs.forM f := rfl
    rw [hstep] at h
    cases hx : f x with
    | error err' =>
      rw [hx] at h
      cases h
      exact ⟨x, List.mem_cons_self, hx⟩
    | ok u =>
      rw [hx] at h
      obtain ⟨x', hmem, herr⟩ := ih h
      exact ⟨x', List.mem_cons_of_mem x hmem, herr⟩

theorem mapError_eq_ok {ε' : Type} {f : ε → ε'} {r : Except ε α} {a : α} :
    r.mapError f = .ok a ↔ r = .ok a := by
  cases r with
  | error err =>
    constructor
    · intro h
      cases h
    · intro h
      cases h
  | ok b =>
    constructor
    · intro h
      cases h
      rfl
    · intro h
      cases h
      rfl

theorem map_eq_error {f : α → β} {r : Except ε α} {err : ε} :
    r.map f = .error err ↔ r = .error err := by
  cases r with
  | error err' =>
    constructor
    · intro h
      cases h
      rfl
    · intro h
      cases h
      rfl
  | ok a =>
    constructor
    · intro h
      cases h
    · intro h
      cases h

end Framework
