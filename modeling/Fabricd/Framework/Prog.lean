import Mathlib.Tactic.Common

/-!
# Programs over an effect signature

A signature lists the operations a program may ask its environment for, each with
the type of its answer. A program is a finite-depth tree of such operations.
Nothing is assumed of the environment: an answer may be any value of its type.
-/

namespace Framework

/-- Operations together with the type of the answer to each. -/
structure Sig where
  Op : Type
  Ans : Op → Type

/-- A program either returns or asks one operation and continues with the answer. -/
inductive Prog (S : Sig) (α : Type) : Type where
  | ret (a : α)
  | act (op : S.Op) (k : S.Ans op → Prog S α)

/-- One operation with the answer the environment gave. -/
structure Event (S : Sig) where
  op : S.Op
  ans : S.Ans op

namespace Prog

variable {S : Sig} {α β γ : Type}

protected def bind : Prog S α → (α → Prog S β) → Prog S β
  | ret a, f => f a
  | act op k, f => act op (fun a => (k a).bind f)

instance : Monad (Prog S) where
  pure := ret
  bind := Prog.bind

def perform (op : S.Op) : Prog S (S.Ans op) := act op ret

@[simp] theorem ret_bind (a : α) (f : α → Prog S β) : (ret a >>= f) = f a := rfl

@[simp] theorem act_bind (op : S.Op) (k : S.Ans op → Prog S α) (f : α → Prog S β) :
    (act op k >>= f) = act op (fun a => k a >>= f) := rfl

@[simp] theorem perform_bind (op : S.Op) (f : S.Ans op → Prog S β) :
    (perform op >>= f) = act op f := rfl

theorem bind_ret (p : Prog S α) : p >>= ret = p := by
  induction p with
  | ret a => rfl
  | act op k ih =>
    rw [act_bind]
    exact congrArg (act op) (funext ih)

theorem bind_bind (p : Prog S α) (f : α → Prog S β) (g : β → Prog S γ) :
    p >>= f >>= g = p >>= fun a => f a >>= g := by
  induction p with
  | ret a => rfl
  | act op k ih =>
    simp only [act_bind]
    exact congrArg (act op) (funext ih)

instance : LawfulMonad (Prog S) := LawfulMonad.mk' _
  (fun p => bind_ret p) (fun _ _ => rfl) (fun p f g => bind_bind p f g)

/-! ## Partial runs -/

/-- `Steps p es q`: answering the operations of `p` as `es` records leads to `q`. -/
inductive Steps : Prog S α → List (Event S) → Prog S α → Prop where
  | refl (p : Prog S α) : Steps p [] p
  | act {op : S.Op} {k : S.Ans op → Prog S α} {a : S.Ans op} {es : List (Event S)}
      {q : Prog S α} : Steps (k a) es q → Steps (.act op k) (⟨op, a⟩ :: es) q

theorem Steps.trans {p q r : Prog S α} {es fs : List (Event S)}
    (h : Steps p es q) (h' : Steps q fs r) : Steps p (es ++ fs) r := by
  induction h with
  | refl p => exact h'
  | act _ ih => exact .act (ih h')

theorem Steps.snoc {p : Prog S α} {op : S.Op} {k : S.Ans op → Prog S α}
    {es : List (Event S)} (h : Steps p es (.act op k)) (a : S.Ans op) :
    Steps p (es ++ [⟨op, a⟩]) (k a) :=
  h.trans (.act (.refl _))

theorem steps_ret {a : α} {es : List (Event S)} {q : Prog S α}
    (h : Steps (ret a) es q) : es = [] ∧ q = ret a := by
  cases h
  exact ⟨rfl, rfl⟩

theorem steps_act_nil {op : S.Op} {k : S.Ans op → Prog S α} {q : Prog S α}
    (h : Steps (act op k) [] q) : q = act op k := by
  cases h
  rfl

theorem steps_act_cons {op : S.Op} {k : S.Ans op → Prog S α} {e : Event S}
    {es : List (Event S)} {q : Prog S α} (h : Steps (act op k) (e :: es) q) :
    ∃ a, e = ⟨op, a⟩ ∧ Steps (k a) es q := by
  cases h with
  | act h => exact ⟨_, rfl, h⟩

theorem steps_perform {op : S.Op} {a : S.Ans op} {es : List (Event S)}
    (h : Steps (perform op) es (ret a)) : es = [⟨op, a⟩] := by
  cases h with
  | act h =>
    obtain ⟨rfl, hret⟩ := steps_ret h
    cases hret
    rfl

/-- A complete run of the first part, then a run of the rest. -/
theorem Steps.bind {p : Prog S α} {f : α → Prog S β} {es fs : List (Event S)} {a : α}
    {q : Prog S β} (h : Steps p es (ret a)) (hf : Steps (f a) fs q) :
    Steps (p >>= f) (es ++ fs) q := by
  induction p generalizing es with
  | ret b =>
    obtain ⟨rfl, hb⟩ := steps_ret h
    cases hb
    exact hf
  | act op k ih =>
    cases es with
    | nil =>
      have hstuck := steps_act_nil h
      cases hstuck
    | cons e es =>
      obtain ⟨b, rfl, hrest⟩ := steps_act_cons h
      exact .act (ih b hrest)

/-- A partial run of a sequence is a partial run of its first part, or a complete
one followed by a partial run of the rest. -/
theorem steps_bind {p : Prog S α} {f : α → Prog S β} {es : List (Event S)} {q : Prog S β}
    (h : Steps (p >>= f) es q) :
    (∃ p', Steps p es p' ∧ q = p' >>= f) ∨
      ∃ es₁ es₂ a, es = es₁ ++ es₂ ∧ Steps p es₁ (ret a) ∧ Steps (f a) es₂ q := by
  induction p generalizing es with
  | ret a => exact .inr ⟨[], es, a, rfl, .refl _, h⟩
  | act op k ih =>
    cases es with
    | nil => exact .inl ⟨act op k, .refl _, steps_act_nil h⟩
    | cons e es =>
      obtain ⟨a, rfl, hrest⟩ := steps_act_cons h
      rcases ih a hrest with ⟨p', hp, rfl⟩ | ⟨es₁, es₂, b, rfl, hp, hq⟩
      · exact .inl ⟨p', .act hp, rfl⟩
      · exact .inr ⟨_ :: es₁, es₂, b, rfl, .act hp, hq⟩

theorem steps_bind_ret {p : Prog S α} {f : α → Prog S β} {es : List (Event S)} {b : β}
    (h : Steps (p >>= f) es (ret b)) :
    ∃ es₁ es₂ a, es = es₁ ++ es₂ ∧ Steps p es₁ (ret a) ∧ Steps (f a) es₂ (ret b) := by
  rcases steps_bind h with ⟨p', hp, hq⟩ | hrest
  · cases p' with
    | act op k => cases hq
    | ret a =>
      refine ⟨es, [], a, (List.append_nil es).symm, hp, ?_⟩
      rw [ret_bind] at hq
      rw [← hq]
      exact .refl _
  · exact hrest

/-- A run is determined by the program and the answers it records. -/
theorem Steps.unique {p q r : Prog S α} {es : List (Event S)}
    (h : Steps p es q) (h' : Steps p es r) : q = r := by
  induction h with
  | refl p =>
    cases h'
    rfl
  | act _ ih =>
    obtain ⟨a, he, h'⟩ := steps_act_cons h'
    cases he
    exact ih h'

/-- A run may be cut anywhere. -/
theorem Steps.cut {p q : Prog S α} {es fs : List (Event S)} (h : Steps p (es ++ fs) q) :
    ∃ r, Steps p es r ∧ Steps r fs q := by
  induction es generalizing p with
  | nil => exact ⟨p, .refl p, h⟩
  | cons e es ih =>
    cases h with
    | act h =>
      obtain ⟨r, hes, hfs⟩ := ih h
      exact ⟨r, .act hes, hfs⟩

theorem Steps.complete {p q : Prog S α} {es fs : List (Event S)} {a : α}
    (h : Steps p es (ret a)) (h' : Steps p (es ++ fs) q) : fs = [] ∧ q = ret a := by
  induction p generalizing es with
  | ret b =>
    obtain ⟨rfl, hb⟩ := steps_ret h
    cases hb
    exact steps_ret h'
  | act op k ih =>
    cases es with
    | nil =>
      have hstuck := steps_act_nil h
      cases hstuck
    | cons e es =>
      obtain ⟨b, rfl, hrest⟩ := steps_act_cons h
      obtain ⟨c, he, hrest'⟩ := steps_act_cons h'
      cases he
      exact ih b hrest hrest'

theorem Steps.complete_unique {p : Prog S α} {es es' fs fs' : List (Event S)} {a a' : α}
    (h : Steps p es (ret a)) (h' : Steps p es' (ret a')) (heq : es ++ fs = es' ++ fs') :
    es = es' ∧ fs = fs' ∧ a = a' := by
  rcases List.append_eq_append_iff.mp heq with ⟨gs, rfl, rfl⟩ | ⟨gs, rfl, rfl⟩
  · obtain ⟨rfl, hret⟩ := h.complete h'
    cases hret
    exact ⟨(List.append_nil es).symm, rfl, rfl⟩
  · obtain ⟨rfl, hret⟩ := h'.complete h
    cases hret
    exact ⟨List.append_nil es', rfl, rfl⟩

end Prog

/-! ## Monitors -/

/-- A ghost state machine that watches events: `ok` says which events are allowed
in a ghost state and `next` how the ghost state moves. -/
structure Monitor (S : Sig) (σ : Type) where
  ok : σ → Event S → Prop
  next : σ → Event S → σ

namespace Monitor

variable {S : Sig} {σ : Type}

/-- The ghost state after a list of events. -/
def after (M : Monitor S σ) (s : σ) (es : List (Event S)) : σ := es.foldl M.next s

/-- Every event of the list is allowed in the ghost state it meets. -/
def Accepts (M : Monitor S σ) : σ → List (Event S) → Prop
  | _, [] => True
  | s, e :: es => M.ok s e ∧ M.Accepts (M.next s e) es

@[simp] theorem after_nil (M : Monitor S σ) (s : σ) : M.after s [] = s := rfl

@[simp] theorem after_cons (M : Monitor S σ) (s : σ) (e : Event S) (es : List (Event S)) :
    M.after s (e :: es) = M.after (M.next s e) es := rfl

@[simp] theorem accepts_nil (M : Monitor S σ) (s : σ) : M.Accepts s [] := trivial

@[simp] theorem accepts_cons (M : Monitor S σ) (s : σ) (e : Event S) (es : List (Event S)) :
    M.Accepts s (e :: es) ↔ M.ok s e ∧ M.Accepts (M.next s e) es := Iff.rfl

theorem accepts_append (M : Monitor S σ) (s : σ) (es fs : List (Event S)) :
    M.Accepts s (es ++ fs) ↔ M.Accepts s es ∧ M.Accepts (M.after s es) fs := by
  induction es generalizing s with
  | nil => simp
  | cons e es ih => simp [ih, and_assoc]

/-- A prefix of an accepted list is accepted, and its next event is allowed. -/
theorem Accepts.ok_at {M : Monitor S σ} {s : σ} {es fs : List (Event S)} {e : Event S}
    (h : M.Accepts s (es ++ e :: fs)) : M.ok (M.after s es) e :=
  ((M.accepts_append s es (e :: fs)).mp h).2.1

end Monitor

namespace Prog

variable {S : Sig} {σ α β : Type}

/-- `p.Meets M Q s`: started in ghost state `s`, every event `p` can produce is allowed
by `M`, and when `p` returns, `Q` holds of the ghost state and the result. -/
def Meets (M : Monitor S σ) (Q : σ → α → Prop) : σ → Prog S α → Prop
  | s, ret a => Q s a
  | s, act op k => ∀ a, M.ok s ⟨op, a⟩ ∧ Meets M Q (M.next s ⟨op, a⟩) (k a)

variable {M : Monitor S σ} {Q : σ → α → Prop} {s : σ}

@[simp] theorem meets_ret (a : α) : Meets M Q s (ret a) ↔ Q s a := Iff.rfl

@[simp] theorem meets_pure (a : α) : Meets M Q s (pure a) ↔ Q s a := Iff.rfl

@[simp] theorem meets_act (op : S.Op) (k : S.Ans op → Prog S α) :
    Meets M Q s (act op k) ↔ ∀ a, M.ok s ⟨op, a⟩ ∧ Meets M Q (M.next s ⟨op, a⟩) (k a) :=
  Iff.rfl

theorem Meets.mono {R : σ → α → Prop} {p : Prog S α} (h : Meets M Q s p)
    (hQR : ∀ s a, Q s a → R s a) : Meets M R s p := by
  induction p generalizing s with
  | ret a => exact hQR s a h
  | act op k ih => exact fun a => ⟨(h a).1, ih a (h a).2⟩

theorem Meets.bind {R : σ → β → Prop} {p : Prog S α} {f : α → Prog S β}
    (h : Meets M Q s p) (hf : ∀ s a, Q s a → Meets M R s (f a)) : Meets M R s (p >>= f) := by
  induction p generalizing s with
  | ret a => exact hf s a h
  | act op k ih => exact fun a => ⟨(h a).1, ih a (h a).2⟩

/-- The run lemma: what one event preserves, every partial run preserves. -/
theorem Meets.steps {p q : Prog S α} {es : List (Event S)} (h : Meets M Q s p)
    (hs : Steps p es q) : M.Accepts s es ∧ Meets M Q (M.after s es) q := by
  induction hs generalizing s with
  | refl p => exact ⟨trivial, h⟩
  | @act op k a es q _ ih =>
    obtain ⟨hok, hrest⟩ := h a
    obtain ⟨ha, hq⟩ := ih hrest
    exact ⟨⟨hok, ha⟩, hq⟩

/-- `p.Sat P Q`: every operation of `p` satisfies `P`, every result satisfies `Q`. -/
def Sat (P : S.Op → Prop) (Q : α → Prop) : Prog S α → Prop
  | ret a => Q a
  | act op k => P op ∧ ∀ a, Sat P Q (k a)

variable {P : S.Op → Prop} {U : α → Prop}

@[simp] theorem sat_ret (a : α) : Sat P U (ret a : Prog S α) ↔ U a := Iff.rfl

@[simp] theorem sat_pure (a : α) : Sat P U (pure a : Prog S α) ↔ U a := Iff.rfl

@[simp] theorem sat_act (op : S.Op) (k : S.Ans op → Prog S α) :
    Sat P U (act op k) ↔ P op ∧ ∀ a, Sat P U (k a) := Iff.rfl

theorem Sat.mono {P' : S.Op → Prop} {R : α → Prop} {p : Prog S α} (h : Sat P U p)
    (hP : ∀ op, P op → P' op) (hQ : ∀ a, U a → R a) : Sat P' R p := by
  induction p with
  | ret a => exact hQ a h
  | act op k ih => exact ⟨hP op h.1, fun a => ih a (h.2 a)⟩

theorem Sat.any (p : Prog S α) : Sat (fun _ => True) (fun _ => True) p := by
  induction p with
  | ret a => trivial
  | act op k ih => exact ⟨trivial, ih⟩

theorem Sat.bind {R : β → Prop} {p : Prog S α} {f : α → Prog S β}
    (h : Sat P U p) (hf : ∀ a, U a → Sat P R (f a)) : Sat P R (p >>= f) := by
  induction p with
  | ret a => exact hf a h
  | act op k ih => exact ⟨h.1, fun a => ih a (h.2 a)⟩

theorem Sat.after {R : β → Prop} {p : Prog S α} {f : α → Prog S β}
    (hf : ∀ a, Sat (fun _ => True) R (f a)) : Sat (fun _ => True) R (p >>= f) :=
  (Sat.any p).bind fun a _ => hf a

theorem Sat.steps {p q : Prog S α} {es : List (Event S)} (h : Sat P U p)
    (hs : Steps p es q) : (∀ e ∈ es, P e.op) ∧ Sat P U q := by
  induction hs with
  | refl p => exact ⟨by simp, h⟩
  | act _ ih =>
    obtain ⟨he, hq⟩ := ih (h.2 _)
    exact ⟨by simpa using ⟨h.1, he⟩, hq⟩

/-- Operations a monitor allows without moving leave its ghost state alone. -/
theorem Sat.meets {p : Prog S α} (h : Sat P U p)
    (hP : ∀ op, P op → ∀ a, M.ok s ⟨op, a⟩ ∧ M.next s ⟨op, a⟩ = s) :
    Meets M (fun s' a => s' = s ∧ U a) s p := by
  induction p with
  | ret a => exact ⟨rfl, h⟩
  | act op k ih =>
    intro a
    obtain ⟨hok, hn⟩ := hP op h.1 a
    rw [hn]
    exact ⟨hok, ih a (h.2 a)⟩

/-! ### Histories -/

/-- The monitor whose ghost state is the events so far, which must satisfy `I`. -/
def history (I : List (Event S) → Prop) : Monitor S (List (Event S)) where
  ok log e := I (log ++ [e])
  next log e := log ++ [e]

variable {I : List (Event S) → Prop}

theorem history_after (log es : List (Event S)) : (history I).after log es = log ++ es := by
  induction es generalizing log with
  | nil => simp
  | cons e es ih =>
    rw [Monitor.after_cons, ih]
    simp [history]

/-- What holds along every partial run of a program may be assumed of its history. -/
theorem meets_history {T : List (Event S) → α → Prop} {p : Prog S α} {log : List (Event S)}
    (hpart : ∀ es q, Steps p es q → I (log ++ es))
    (hret : ∀ es a, Steps p es (ret a) → T (log ++ es) a) : Meets (history I) T log p := by
  induction p generalizing log with
  | ret a => simpa using hret [] a (.refl _)
  | act op k ih =>
    intro a
    refine ⟨hpart [⟨op, a⟩] _ (.act (.refl _)), ih a (fun es q hs => ?_) fun es b hs => ?_⟩
    · simpa [history] using hpart (⟨op, a⟩ :: es) q (.act hs)
    · simpa [history] using hret (⟨op, a⟩ :: es) b (.act hs)

/-- A history that starts well stays well along every partial run. -/
theorem Meets.run_history {T : List (Event S) → α → Prop} {p q : Prog S α}
    {log es : List (Event S)} (h : Meets (history I) T log p) (hlog : I log)
    (hs : Steps p es q) : I (log ++ es) ∧ Meets (history I) T (log ++ es) q := by
  refine ⟨?_, ?_⟩
  · induction hs generalizing log with
    | refl p => simpa using hlog
    | @act op k a es q _ ih =>
      obtain ⟨hok, hrest⟩ := h a
      simpa [history] using ih hrest hok
  · have hrest := (h.steps hs).2
    rwa [history_after] at hrest

/-- Every operation of the program satisfies `P`. -/
def Only (P : S.Op → Prop) (p : Prog S α) : Prop := Sat P (fun _ => True) p

theorem Only.pure (a : α) : Only P (pure a : Prog S α) := trivial

theorem Only.perform {op : S.Op} (h : P op) : Only P (perform op) := ⟨h, fun _ => trivial⟩

theorem Only.bind {p : Prog S α} {f : α → Prog S β} (h : Only P p) (hf : ∀ a, Only P (f a)) :
    Only P (p >>= f) :=
  Sat.bind h fun a _ => hf a

theorem Only.mono {P' : S.Op → Prop} {p : Prog S α} (h : Only P p) (hP : ∀ op, P op → P' op) :
    Only P' p :=
  Sat.mono h hP fun _ _ => trivial

/-- What every event of every partial run satisfies, every operation does, as long as
operations can be answered. -/
theorem only_of_steps [∀ op, Nonempty (S.Ans op)] {p : Prog S α}
    (h : ∀ es q, Steps p es q → ∀ e ∈ es, P e.op) : Only P p := by
  induction p with
  | ret a => trivial
  | act op k ih =>
    obtain ⟨a⟩ := (inferInstance : Nonempty (S.Ans op))
    refine ⟨h [⟨op, a⟩] _ (.act (.refl _)) _ List.mem_cons_self, fun a => ih a fun es q hs e he => ?_⟩
    exact h (⟨op, a⟩ :: es) q (.act hs) e (List.mem_cons_of_mem _ he)

theorem Sat.meets_history {T : α → Prop} {p : Prog S α} {log : List (Event S)} (h : Sat P T p)
    (hI : ∀ es, (∀ e ∈ es, P e.op) → I (log ++ es)) :
    Meets (history I)
      (fun log' a => T a ∧ ∃ es, log' = log ++ es ∧ ∀ e ∈ es, P e.op) log p :=
  Prog.meets_history (fun es _ hs => hI es (h.steps hs).1)
    fun es _ hs => ⟨(h.steps hs).2, es, rfl, (h.steps hs).1⟩

end Prog

/-! ## Early return -/

section EarlyReturn

open Prog

variable {S : Sig} {ε α β : Type} {P : S.Op → Prop}

/-- Every operation of a program with early return satisfies `P`. -/
def OnlyE (P : S.Op → Prop) (x : ExceptT ε (Prog S) α) : Prop := Only P x.run

theorem OnlyE.pure (a : α) : OnlyE P (pure a : ExceptT ε (Prog S) α) := trivial

theorem OnlyE.mk {p : Prog S (Except ε α)} (h : Only P p) : OnlyE P (ExceptT.mk p) := h

theorem OnlyE.lift {p : Prog S α} (h : Only P p) : OnlyE P (ExceptT.lift p : ExceptT ε (Prog S) α) :=
  Only.bind h fun _ => trivial

theorem OnlyE.bind {x : ExceptT ε (Prog S) α} {f : α → ExceptT ε (Prog S) β} (h : OnlyE P x)
    (hf : ∀ a, OnlyE P (f a)) : OnlyE P (x >>= f) := by
  refine Only.bind h fun r => ?_
  cases r with
  | ok a => exact hf a
  | error e => exact Only.pure _

/-- Whatever a program with early return returns, short of an error, satisfies `T`. -/
def Yields (T : α → Prop) (x : ExceptT ε (Prog S) α) : Prop :=
  Sat (fun _ => True) (fun r => ∀ a, r = .ok a → T a) x.run

section

variable {T : α → Prop} {U : β → Prop}

theorem Yields.any (x : ExceptT ε (Prog S) α) : Yields (fun _ => True) x :=
  (Sat.any x.run).mono (fun _ h => h) fun _ _ _ _ => trivial

theorem Yields.pure {a : α} (h : T a) : Yields T (pure a : ExceptT ε (Prog S) α) := by
  intro b hb
  cases hb
  exact h

theorem Yields.throw (e : ε) : Yields T (ExceptT.mk (Prog.ret (.error e)) : ExceptT ε (Prog S) α) := by
  intro a ha
  cases ha

theorem Yields.bind {x : ExceptT ε (Prog S) α} {f : α → ExceptT ε (Prog S) β} (h : Yields T x)
    (hf : ∀ a, T a → Yields U (f a)) : Yields U (x >>= f) := by
  refine Sat.bind h fun r hr => ?_
  cases r with
  | ok a => exact hf a (hr a rfl)
  | error e =>
    intro b hb
    cases hb

theorem Yields.after {x : ExceptT ε (Prog S) α} {f : α → ExceptT ε (Prog S) β}
    (hf : ∀ a, Yields U (f a)) : Yields U (x >>= f) :=
  (Yields.any x).bind fun a _ => hf a

theorem Yields.mono {T' : α → Prop} {x : ExceptT ε (Prog S) α} (h : Yields T x)
    (hT : ∀ a, T a → T' a) : Yields T' x :=
  Sat.mono h (fun _ h => h) fun _ hr a ha => hT a (hr a ha)

end

/-- Whatever error a program with early return ends in satisfies `E`. -/
def Fails (E : ε → Prop) (x : ExceptT ε (Prog S) α) : Prop :=
  Sat (fun _ => True) (fun r => ∀ e, r = .error e → E e) x.run

section

variable {E : ε → Prop}

theorem Fails.pure (a : α) : Fails E (pure a : ExceptT ε (Prog S) α) := by
  intro e he
  cases he

theorem Fails.throw {e : ε} (h : E e) :
    Fails E (ExceptT.mk (Prog.ret (.error e)) : ExceptT ε (Prog S) α) := by
  intro e' he'
  cases he'
  exact h

theorem Fails.lift (p : Prog S α) : Fails E (ExceptT.lift p : ExceptT ε (Prog S) α) := by
  refine Sat.after fun a e he => ?_
  cases he

theorem Fails.bind {x : ExceptT ε (Prog S) α} {f : α → ExceptT ε (Prog S) β} (h : Fails E x)
    (hf : ∀ a, Fails E (f a)) : Fails E (x >>= f) := by
  refine Sat.bind h fun r hr => ?_
  cases r with
  | ok a => exact hf a
  | error e =>
    intro e' he'
    cases he'
    exact hr e rfl

end

end EarlyReturn

end Framework
