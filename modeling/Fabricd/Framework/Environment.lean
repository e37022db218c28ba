import Fabricd.Framework.Prog

/-!
# Deterministic environments

An environment with a world of its own answers every operation, so a program has one
complete run in it. Programs that agree up to skipped operations have runs that agree
up to them.
-/

namespace Framework

/-- What answers operations: a function of a world, which it moves. -/
abbrev Env (S : Sig) (W : Type) := W → (op : S.Op) → S.Ans op × W

/-- A complete run: the events in order, the returned value and the final world. -/
structure Outcome (S : Sig) (W α : Type) where
  events : List (Event S)
  value : α
  world : W

namespace Prog

variable {S : Sig} {W W' α β : Type}

/-- The complete run of a program from a world. -/
def run (E : Env S W) : W → Prog S α → Outcome S W α
  | w, ret a => ⟨[], a, w⟩
  | w, act op k =>
    let rest := run E (E w op).2 (k (E w op).1)
    ⟨⟨op, (E w op).1⟩ :: rest.events, rest.value, rest.world⟩

variable (E : Env S W)

@[simp] theorem run_ret (w : W) (a : α) : run E w (ret a : Prog S α) = ⟨[], a, w⟩ := rfl

@[simp] theorem run_pure (w : W) (a : α) : run E w (pure a : Prog S α) = ⟨[], a, w⟩ := rfl

theorem run_act (w : W) (op : S.Op) (k : S.Ans op → Prog S α) :
    run E w (act op k) =
      ⟨⟨op, (E w op).1⟩ :: (run E (E w op).2 (k (E w op).1)).events,
        (run E (E w op).2 (k (E w op).1)).value,
        (run E (E w op).2 (k (E w op).1)).world⟩ := rfl

/-- The run of a sequence is the run of its first part followed by that of the rest. -/
theorem run_bind (w : W) (p : Prog S α) (f : α → Prog S β) :
    run E w (p >>= f) =
      ⟨(run E w p).events ++ (run E (run E w p).world (f (run E w p).value)).events,
        (run E (run E w p).world (f (run E w p).value)).value,
        (run E (run E w p).world (f (run E w p).value)).world⟩ := by
  induction p generalizing w with
  | ret a => simp
  | act op k ih =>
    rw [act_bind, run_act, ih]
    simp [run_act]

/-- The run of a program is one of its partial runs, and it is complete. -/
theorem run_steps (w : W) (p : Prog S α) :
    Steps p (run E w p).events (ret (run E w p).value) := by
  induction p generalizing w with
  | ret a => exact .refl _
  | act op k ih => exact .act (ih (E w op).1 (E w op).2)

end Prog

/-! ## Lockstep -/

/-- How two programs are compared: operations one side makes alone, and pairs both
sides make together, whose answers have one type. -/
structure Pairing (S : Sig) where
  skip : S.Op → Prop
  pair : S.Op → S.Op → Prop
  ans : ∀ {op op' : S.Op}, pair op op' → S.Ans op = S.Ans op'

/-- Two programs make the same paired operations as long as these get the same
answers, whatever the skipped ones are answered, and then return related results. -/
inductive Lockstep {S : Sig} {α β : Type} (R : Pairing S) (Q : α → β → Prop) :
    Prog S α → Prog S β → Prop where
  | ret {a : α} {b : β} (h : Q a b) : Lockstep R Q (.ret a) (.ret b)
  | left {op : S.Op} {k : S.Ans op → Prog S α} {q : Prog S β} (hop : R.skip op)
      (h : ∀ a, Lockstep R Q (k a) q) : Lockstep R Q (.act op k) q
  | right {p : Prog S α} {op : S.Op} {k : S.Ans op → Prog S β} (hop : R.skip op)
      (h : ∀ a, Lockstep R Q p (k a)) : Lockstep R Q p (.act op k)
  | both {op op' : S.Op} {k : S.Ans op → Prog S α} {k' : S.Ans op' → Prog S β}
      (hop : R.pair op op') (h : ∀ a, Lockstep R Q (k a) (k' (cast (R.ans hop) a))) :
      Lockstep R Q (.act op k) (.act op' k')

namespace Lockstep

variable {S : Sig} {α α' β β' : Type} {R : Pairing S} {Q : α → β → Prop}

theorem mono {Q' : α → β → Prop} {p : Prog S α} {q : Prog S β} (h : Lockstep R Q p q)
    (hQ : ∀ a b, Q a b → Q' a b) : Lockstep R Q' p q := by
  induction h with
  | ret h => exact .ret (hQ _ _ h)
  | left hop _ ih => exact .left hop ih
  | right hop _ ih => exact .right hop ih
  | both hop _ ih => exact .both hop ih

theorem bind {Q' : α' → β' → Prop} {p : Prog S α} {q : Prog S β} {f : α → Prog S α'}
    {g : β → Prog S β'} (h : Lockstep R Q p q)
    (hf : ∀ a b, Q a b → Lockstep R Q' (f a) (g b)) : Lockstep R Q' (p >>= f) (q >>= g) := by
  induction h with
  | ret h => exact hf _ _ h
  | left hop _ ih => exact .left hop ih
  | right hop _ ih => exact .right hop ih
  | both hop _ ih => exact .both hop ih

/-- Early return on the same errors keeps programs in lockstep. -/
theorem bindE {ε : Type} {Q' : Except ε α' → Except ε α' → Prop} {x y : ExceptT ε (Prog S) α}
    {f g : α → ExceptT ε (Prog S) α'} (h : Lockstep R Eq x.run y.run)
    (hf : ∀ a, Lockstep R Q' (f a).run (g a).run) (herr : ∀ e, Q' (.error e) (.error e)) :
    Lockstep R Q' (x >>= f).run (y >>= g).run := by
  refine h.bind fun r r' hr => ?_
  subst hr
  cases r with
  | ok a => exact hf a
  | error e => exact .ret (herr e)

/-- A program whose operations all pair with themselves runs in lockstep with itself. -/
theorem refl_sat {P : S.Op → Prop} {T : α → Prop} {p : Prog S α} (h : p.Sat P T)
    (hP : ∀ op, P op → R.pair op op) : Lockstep R (fun a b => a = b ∧ T a) p p := by
  induction p with
  | ret a => exact .ret ⟨rfl, h⟩
  | act op k ih =>
    refine .both (hP op h.1) fun a => ?_
    exact ih a (h.2 a)

theorem refl {P : S.Op → Prop} {p : Prog S α} (h : p.Only P)
    (hP : ∀ op, P op → R.pair op op) : Lockstep R Eq p p :=
  (refl_sat h hP).mono fun _ _ hab => hab.1

/-- What the left program of a lockstep asks is skipped or paired. -/
theorem sat_left {P : S.Op → Prop} {p : Prog S α} {q : Prog S β} (h : Lockstep R Q p q)
    (hskip : ∀ op, R.skip op → P op ∧ Nonempty (S.Ans op))
    (hpair : ∀ op op', R.pair op op' → P op) : p.Sat P (fun a => ∃ b, Q a b) := by
  induction h with
  | ret h => exact ⟨_, h⟩
  | left hop _ ih => exact ⟨(hskip _ hop).1, ih⟩
  | right hop _ ih =>
    obtain ⟨a⟩ := (hskip _ hop).2
    exact ih a
  | both hop _ ih => exact ⟨hpair _ _ hop, ih⟩

/-- Two events of a pair with the same answer. -/
def SameEvent (R : Pairing S) (e e' : Event S) : Prop :=
  ∃ h : R.pair e.op e'.op, e'.ans = cast (R.ans h) e.ans

/-- Two environments that answer pairs alike on related worlds, and whose skipped
operations keep worlds related. -/
structure EnvAgree {W W' : Type} (R : Pairing S) (V : W → W' → Prop) (E : Env S W)
    (E' : Env S W') : Prop where
  skipLeft : ∀ {w w' op}, V w w' → R.skip op → V (E w op).2 w'
  skipRight : ∀ {w w' op}, V w w' → R.skip op → V w (E' w' op).2
  pairAns : ∀ {w w' op op'}, V w w' → (h : R.pair op op') →
    (E' w' op').1 = cast (R.ans h) (E w op).1
  pairWorld : ∀ {w w' op op'}, V w w' → R.pair op op' → V (E w op).2 (E' w' op').2

/-- Runs of programs in lockstep, in environments that agree, agree event by event up
to the skipped ones, and return related results in related worlds. -/
theorem run {W W' : Type} {V : W → W' → Prop} {E : Env S W} {E' : Env S W'}
    [DecidablePred R.skip] (hE : EnvAgree R V E E')
    (hdisj : ∀ op op', R.pair op op' → ¬ R.skip op ∧ ¬ R.skip op')
    {p : Prog S α} {q : Prog S β} (h : Lockstep R Q p q) {w : W} {w' : W'} (hw : V w w') :
    List.Forall₂ (SameEvent R) ((p.run E w).events.filter fun e => ¬ R.skip e.op)
        ((q.run E' w').events.filter fun e => ¬ R.skip e.op) ∧
      Q (p.run E w).value (q.run E' w').value ∧ V (p.run E w).world (q.run E' w').world := by
  induction h generalizing w w' with
  | ret h => exact ⟨.nil, h, hw⟩
  | left hop _ ih =>
    obtain ⟨hev, hQ, hV⟩ := ih (E w _).1 (hE.skipLeft hw hop)
    rw [Prog.run_act]
    refine ⟨?_, hQ, hV⟩
    simpa [hop] using hev
  | right hop _ ih =>
    obtain ⟨hev, hQ, hV⟩ := ih (E' w' _).1 (hE.skipRight hw hop)
    rw [Prog.run_act]
    refine ⟨?_, hQ, hV⟩
    simpa [hop] using hev
  | @both op op' k k' hop _ ih =>
    have hans := hE.pairAns hw hop
    obtain ⟨hev, hQ, hV⟩ := ih (E w op).1 (hE.pairWorld hw hop)
    obtain ⟨hl, hr⟩ := hdisj _ _ hop
    rw [Prog.run_act, Prog.run_act, hans]
    refine ⟨?_, hQ, hV⟩
    have hsame : SameEvent R ⟨op, (E w op).1⟩ ⟨op', cast (R.ans hop) (E w op).1⟩ := ⟨hop, rfl⟩
    simpa [hl, hr] using List.Forall₂.cons hsame hev

end Lockstep

end Framework
