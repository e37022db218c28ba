import Fabricd.Framework.Prog

/-!
# Programs carried out by other programs

Each operation of a signature is carried out by a program of another one. A program over the
first becomes one over the second, and what holds of each operation's program along the way
holds of the whole.
-/

namespace Framework

/-- A program of `S'` for every operation of `S`. -/
abbrev Implementation (S S' : Sig) := (op : S.Op) → Prog S' (S.Ans op)

variable {S S' : Sig} {α σ σ' : Type}

namespace Prog

/-- Each operation replaced by the program that carries it out. -/
def implement (F : Implementation S S') : Prog S α → Prog S' α
  | ret a => ret a
  | act op k => F op >>= fun answer => (k answer).implement F

variable {F : Implementation S S'}

@[simp] theorem implement_ret (a : α) : (ret a : Prog S α).implement F = ret a := rfl

@[simp] theorem implement_act (op : S.Op) (k : S.Ans op → Prog S α) :
    (act op k).implement F = F op >>= fun answer => (k answer).implement F := rfl

/-- The events of a run, each carried out by a complete run of its program. -/
inductive Carried (F : Implementation S S') : List (Event S) → List (Event S') → Prop where
  | nil : Carried F [] []
  | cons {op : S.Op} {answer : S.Ans op} {es : List (Event S)} {fs gs : List (Event S')}
      (hop : Steps (F op) fs (ret answer)) (hrest : Carried F es gs) :
      Carried F (⟨op, answer⟩ :: es) (fs ++ gs)

/-- A complete run carries out a complete run of the program itself. -/
theorem steps_implement {p : Prog S α} {gs : List (Event S')} {a : α}
    (h : Steps (p.implement F) gs (ret a)) : ∃ es, Steps p es (ret a) ∧ Carried F es gs := by
  induction p generalizing gs with
  | ret b =>
    obtain ⟨rfl, hret⟩ := steps_ret h
    cases hret
    exact ⟨[], .refl _, .nil⟩
  | act op k ih =>
    obtain ⟨fs, gs, answer, rfl, hop, hrest⟩ := steps_bind_ret h
    obtain ⟨es, hsteps, hcarried⟩ := ih answer hrest
    exact ⟨_, .act hsteps, .cons hop hcarried⟩

/-- The simulation rule: if the program of every operation keeps two ghost states in a relation,
so does the whole program. -/
theorem Meets.implement {M : Monitor S σ} {M' : Monitor S' σ'} {R : σ → σ' → Prop}
    {Q : σ → α → Prop}
    (hop : ∀ op s s', R s s' → (∀ answer, M.ok s ⟨op, answer⟩) →
      Meets M' (fun s' answer => R (M.next s ⟨op, answer⟩) s') s' (F op))
    {p : Prog S α} {s : σ} {s' : σ'} (h : Meets M Q s p) (hrel : R s s') :
    Meets M' (fun s' a => ∃ s, R s s' ∧ Q s a) s' (p.implement F) := by
  induction p generalizing s s' with
  | ret a => exact ⟨s, hrel, h⟩
  | act op k ih =>
    have hprog := hop op s s' hrel fun answer => (h answer).1
    exact hprog.bind fun s' answer hnext => ih answer (h answer).2 hnext

end Prog

end Framework
