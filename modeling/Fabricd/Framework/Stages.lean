import Fabricd.Framework.Prog

/-!
# Stages

A run of a program with early return, stage by stage: it is still in the first stage, or has
failed there, or has gone on to the next.
-/

namespace Framework

open Prog

variable {S : Sig} {ε α β σ : Type}

/-- What a run of two stages has come to. -/
inductive Staged (x : ExceptT ε (Prog S) α) (f : α → ExceptT ε (Prog S) β) :
    List (Event S) → Prog S (Except ε β) → Prop where
  | within {es : List (Event S)} {op : S.Op} {k : S.Ans op → Prog S (Except ε α)}
      {k' : S.Ans op → Prog S (Except ε β)} (run : Steps x.run es (act op k)) :
      Staged x f es (act op k')
  | failed {es : List (Event S)} {err : ε} (run : Steps x.run es (ret (.error err))) :
      Staged x f es (ret (.error err))
  | passed {es fs : List (Event S)} {a : α} {q : Prog S (Except ε β)}
      (run : Steps x.run es (ret (.ok a))) (rest : Steps (f a).run fs q) : Staged x f (es ++ fs) q

theorem steps_stages {x : ExceptT ε (Prog S) α} {f : α → ExceptT ε (Prog S) β}
    {es : List (Event S)} {q : Prog S (Except ε β)} (hs : Steps (x >>= f).run es q) :
    Staged x f es q := by
  have hs : Steps (x.run >>= fun r => match r with
      | .ok a => (f a).run
      | .error err => ret (.error err)) es q := hs
  rcases steps_bind hs with ⟨p, hrun, rfl⟩ | ⟨es, fs, r, rfl, hrun, hrest⟩
  · cases p with
    | act op k => exact .within hrun
    | ret r =>
      cases r with
      | error err => exact .failed hrun
      | ok a =>
        have hpassed : Staged x f (es ++ []) (f a).run := .passed hrun (.refl _)
        rw [List.append_nil] at hpassed
        exact hpassed
  · cases r with
    | error err =>
      obtain ⟨rfl, rfl⟩ := steps_ret hrest
      rw [List.append_nil]
      exact .failed hrun
    | ok a => exact .passed hrun hrest

theorem steps_stages_ok {x : ExceptT ε (Prog S) α} {f : α → ExceptT ε (Prog S) β}
    {es : List (Event S)} {b : β} (hs : Steps (x >>= f).run es (ret (.ok b))) :
    ∃ es₁ es₂ a, es = es₁ ++ es₂ ∧ Steps x.run es₁ (ret (.ok a)) ∧
      Steps (f a).run es₂ (ret (.ok b)) := by
  cases steps_stages hs with
  | passed run rest => exact ⟨_, _, _, rfl, run, rest⟩

theorem steps_lift_ok {op : S.Op} {a : S.Ans op} {es : List (Event S)}
    (hs : Steps (ExceptT.lift (perform op) : ExceptT ε (Prog S) _).run es (ret (.ok a))) :
    es = [⟨op, a⟩] := by
  cases hs with
  | act hs =>
    obtain ⟨rfl, hret⟩ := steps_ret hs
    cases hret
    rfl

theorem steps_pure_ok {r : Except ε α} {es : List (Event S)} {a : α}
    (hs : Steps (ExceptT.mk (pure r) : ExceptT ε (Prog S) α).run es (ret (.ok a))) :
    es = [] ∧ r = .ok a := by
  obtain ⟨rfl, hret⟩ := steps_ret hs
  injection hret with hr
  exact ⟨rfl, hr.symm⟩

theorem Only.meets_any {M : Monitor S σ} {P : S.Op → Prop} {p : Prog S α} (h : Only P p)
    (hP : ∀ op, P op → ∀ s a, M.ok s ⟨op, a⟩) (s : σ) : Meets M (fun _ _ => True) s p := by
  induction p generalizing s with
  | ret a => trivial
  | act op k ih => exact fun a => ⟨hP op h.1 s a, ih a (h.2 a) _⟩

/-- What a monitor allows of two stages, if the second is allowed wherever the first leads. -/
theorem Meets.stages {M : Monitor S σ} {Q : σ → Except ε α → Prop} {R : σ → Except ε β → Prop}
    {x : ExceptT ε (Prog S) α} {f : α → ExceptT ε (Prog S) β} {s : σ} (h : Meets M Q s x.run)
    (hfailed : ∀ s err, Q s (.error err) → R s (.error err))
    (hpassed : ∀ s a, Q s (.ok a) → Meets M R s (f a).run) : Meets M R s (x >>= f).run := by
  refine Meets.bind h fun s r hr => ?_
  cases r with
  | error err => exact hfailed s err hr
  | ok a => exact hpassed s a hr

end Framework
