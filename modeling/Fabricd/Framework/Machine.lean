import Mathlib.Tactic.Common

/-!
# Partial machines

A machine takes events one by one and refuses those that cannot happen in its state. What
one step preserves, a whole run preserves.
-/

namespace Framework

/-- A state machine whose `step` is `none` where the event cannot happen. -/
structure Machine (σ ε : Type) where
  step : σ → ε → Option σ

namespace Machine

variable {σ ε : Type} (M : Machine σ ε)

/-- The state after a list of events, if they can happen in that order. -/
def run : σ → List ε → Option σ
  | s, [] => some s
  | s, e :: es => (M.step s e).bind fun s' => run s' es

@[simp] theorem run_nil (s : σ) : M.run s [] = some s := rfl

@[simp] theorem run_cons (s : σ) (e : ε) (es : List ε) :
    M.run s (e :: es) = (M.step s e).bind fun s' => M.run s' es := rfl

theorem run_append (s : σ) (es fs : List ε) :
    M.run s (es ++ fs) = (M.run s es).bind fun s' => M.run s' fs := by
  induction es generalizing s with
  | nil => rfl
  | cons e es ih =>
    rw [List.cons_append, run_cons, run_cons]
    cases M.step s e with
    | none => rfl
    | some s' => exact ih s'

/-- Every step of the run satisfies `C`, which looks at the event and the state it meets. -/
def Along (C : σ → ε → Prop) : σ → List ε → Prop
  | _, [] => True
  | s, e :: es => C s e ∧
    match M.step s e with
    | some s' => Along C s' es
    | none => True

variable {M}

theorem along_of_forall {C : ε → Prop} {es : List ε} (h : ∀ e ∈ es, C e) (s : σ) :
    M.Along (fun _ e => C e) s es := by
  induction es generalizing s with
  | nil => trivial
  | cons e es ih =>
    refine ⟨h e List.mem_cons_self, ?_⟩
    have hrest : ∀ e' ∈ es, C e' := fun e' he' => h e' (List.mem_cons_of_mem _ he')
    cases M.step s e with
    | none => trivial
    | some s' => exact ih hrest s'

/-- The run rule: what a step that satisfies `C` preserves holds after every run of them. -/
theorem Along.invariant {C : σ → ε → Prop} {I : σ → Prop}
    (hstep : ∀ {s e s'}, I s → C s e → M.step s e = some s' → I s') {s t : σ} {es : List ε}
    (hI : I s) (hC : M.Along C s es) (hrun : M.run s es = some t) : I t := by
  induction es generalizing s with
  | nil =>
    cases hrun
    exact hI
  | cons e es ih =>
    rw [run_cons] at hrun
    cases hnext : M.step s e with
    | none =>
      rw [hnext] at hrun
      cases hrun
    | some s' =>
      have hrest : M.Along C s' es := by
        have h := hC.2
        rwa [hnext] at h
      rw [hnext] at hrun
      exact ih (hstep hI hC.1 hnext) hrest hrun

/-- What every step preserves holds after every run. -/
theorem run_invariant {I : σ → Prop} (hstep : ∀ {s e s'}, I s → M.step s e = some s' → I s')
    {s t : σ} {es : List ε} (hI : I s) (hrun : M.run s es = some t) : I t :=
  Along.invariant (fun h _ hs => hstep h hs) hI (along_of_forall (fun _ _ => trivial) s) hrun

end Machine

end Framework
