import Mathlib.Data.List.Forall2
import Mathlib.Tactic.Common

/-!
# Journals behind a gate

A gate lets some of a sequence of elements through, and a journal gains one record for each
of them. Records are only ever added at the end.
-/

namespace Framework

variable {α β : Type}

theorem getElem?_snoc {xs : List α} {x y : α} {i : Nat}
    (h : (xs ++ [x])[i]? = some y) : xs[i]? = some y ∨ i = xs.length ∧ y = x := by
  by_cases hi : i < xs.length
  · rw [List.getElem?_append_left hi] at h
    exact .inl h
  · rw [List.getElem?_append_right (by omega)] at h
    obtain ⟨hlt, hx⟩ := List.getElem?_eq_some_iff.mp h
    rw [List.length_singleton] at hlt
    exact .inr ⟨by omega, by simpa using hx.symm⟩

/-- The elements that pass a gate, which is told how many passed before. -/
def admitted (gate : Nat → α → Bool) : Nat → List α → List α
  | _, [] => []
  | n, x :: xs => if gate n x then x :: admitted gate (n + 1) xs else admitted gate n xs

theorem admitted_snoc (gate : Nat → α → Bool) (n : Nat) (xs : List α) (x : α) :
    admitted gate n (xs ++ [x]) =
      admitted gate n xs ++ if gate (n + (admitted gate n xs).length) x then [x] else [] := by
  induction xs generalizing n with
  | nil => rfl
  | cons y ys ih =>
    by_cases hy : gate n y
    · have hcount : n + 1 + (admitted gate (n + 1) ys).length =
          n + ((admitted gate (n + 1) ys).length + 1) := by omega
      simp only [List.cons_append, admitted, if_pos hy, ih, List.length_cons, hcount]
    · simp only [List.cons_append, admitted, if_neg hy, ih]

@[simp] theorem admitted_all (n : Nat) (xs : List α) : admitted (fun _ _ => true) n xs = xs := by
  induction xs generalizing n with
  | nil => rfl
  | cons x xs ih => simp [admitted, ih]

/-- What one element does to a journal: one record if it passes, else nothing. -/
def Entered (passes : Bool) (Rec : β → Prop) (old new : List β) : Prop :=
  if passes then ∃ record, Rec record ∧ new = old ++ [record] else new = old

variable {passes : Bool} {Rec : β → Prop} {old new : List β}

theorem Entered.extends (h : Entered passes Rec old new) : old <+: new := by
  cases passes with
  | true =>
    obtain ⟨record, -, rfl⟩ := h
    exact List.prefix_append old [record]
  | false =>
    cases h
    exact List.prefix_refl old

theorem Entered.mono {Rec' : β → Prop} (h : Entered passes Rec old new)
    (hRec : ∀ record, Rec record → Rec' record) : Entered passes Rec' old new := by
  cases passes with
  | true =>
    obtain ⟨record, hrecord, hnew⟩ := h
    exact ⟨record, hRec record hrecord, hnew⟩
  | false => exact h

/-- The step lemma: the journal stays that of the admitted elements. -/
theorem Entered.journal {Rec : α → β → Prop} {gate : Nat → α → Bool} {xs : List α} {x : α}
    (hold : List.Forall₂ Rec (admitted gate 0 xs) old)
    (h : Entered (gate old.length x) (Rec x) old new) :
    List.Forall₂ Rec (admitted gate 0 (xs ++ [x])) new := by
  rw [admitted_snoc, Nat.zero_add, hold.length_eq]
  cases hgate : gate old.length x with
  | true =>
    rw [hgate] at h
    obtain ⟨record, hrecord, rfl⟩ := h
    exact List.rel_append hold (.cons hrecord .nil)
  | false =>
    rw [hgate] at h
    cases h
    simpa using hold

end Framework
