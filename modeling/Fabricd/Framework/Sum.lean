import Fabricd.Framework.Trace

/-!
# Parties of two kinds

A signature of two, so that programs over either take turns in one pool.
-/

namespace Framework

/-- The operations of two signatures. -/
def Sig.sum (S S' : Sig) : Sig where
  Op := S.Op ⊕ S'.Op
  Ans
    | .inl op => S.Ans op
    | .inr op => S'.Ans op

variable {S S' : Sig} {α : Type}

def Event.inl (e : Event S) : Event (S.sum S') := ⟨.inl e.op, e.ans⟩

def Event.inr (e : Event S') : Event (S.sum S') := ⟨.inr e.op, e.ans⟩

/-- The events of the right signature among those of both. -/
def rights (es : List (Event (S.sum S'))) : List (Event S') :=
  es.filterMap fun e =>
    match e with
    | ⟨.inl _, _⟩ => none
    | ⟨.inr op, answer⟩ => some ⟨op, answer⟩

@[simp] theorem rights_nil : rights ([] : List (Event (S.sum S'))) = [] := rfl

@[simp] theorem rights_append (es fs : List (Event (S.sum S'))) :
    rights (es ++ fs) = rights es ++ rights fs :=
  List.filterMap_append

@[simp] theorem rights_inr (es : List (Event S')) :
    rights (es.map (Event.inr (S := S))) = es := by
  induction es with
  | nil => rfl
  | cons e es ih => exact congrArg (e :: ·) ih

/-- What a monitor of both signatures sees of the right one. -/
def Monitor.inr {σ : Type} (M : Monitor (S.sum S') σ) : Monitor S' σ where
  ok s e := M.ok s e.inr
  next s e := M.next s e.inr

namespace Prog

/-- A program of the left signature among those of both. -/
def inl : Prog S α → Prog (S.sum S') α
  | ret a => ret a
  | act op k => @act (S.sum S') α (.inl op) fun answer => (k answer).inl

/-- A program of the right signature among those of both. -/
def inr : Prog S' α → Prog (S.sum S') α
  | ret a => ret a
  | act op k => @act (S.sum S') α (.inr op) fun answer => (k answer).inr

theorem steps_inl {p : Prog S α} {es : List (Event (S.sum S'))} {q : Prog (S.sum S') α}
    (h : Steps p.inl es q) : ∃ fs q', Steps p fs q' ∧ es = fs.map Event.inl ∧ q = q'.inl := by
  induction p generalizing es with
  | ret a =>
    obtain ⟨rfl, rfl⟩ := steps_ret h
    exact ⟨[], .ret a, .refl _, rfl, rfl⟩
  | act op k ih =>
    cases es with
    | nil =>
      have hq := steps_act_nil h
      exact ⟨[], .act op k, .refl _, rfl, hq⟩
    | cons e es =>
      obtain ⟨answer, rfl, hrest⟩ := steps_act_cons h
      obtain ⟨fs, q', hrun, rfl, rfl⟩ := ih answer hrest
      exact ⟨⟨op, answer⟩ :: fs, q', .act hrun, rfl, rfl⟩

theorem steps_inr {p : Prog S' α} {es : List (Event (S.sum S'))} {q : Prog (S.sum S') α}
    (h : Steps p.inr es q) : ∃ fs q', Steps p fs q' ∧ es = fs.map Event.inr ∧ q = q'.inr := by
  induction p generalizing es with
  | ret a =>
    obtain ⟨rfl, rfl⟩ := steps_ret h
    exact ⟨[], .ret a, .refl _, rfl, rfl⟩
  | act op k ih =>
    cases es with
    | nil =>
      have hq := steps_act_nil h
      exact ⟨[], .act op k, .refl _, rfl, hq⟩
    | cons e es =>
      obtain ⟨answer, rfl, hrest⟩ := steps_act_cons h
      obtain ⟨fs, q', hrun, rfl, rfl⟩ := ih answer hrest
      exact ⟨⟨op, answer⟩ :: fs, q', .act hrun, rfl, rfl⟩

theorem steps_inr_ret {p : Prog S' α} {es : List (Event (S.sum S'))} {a : α}
    (h : Steps p.inr es (ret a)) : ∃ fs, Steps p fs (ret a) ∧ es = fs.map Event.inr := by
  obtain ⟨fs, q, hrun, rfl, hret⟩ := steps_inr h
  cases q with
  | ret b =>
    cases hret
    exact ⟨fs, hrun, rfl⟩
  | act op k => cases hret

theorem Meets.inr {σ : Type} {M : Monitor (S.sum S') σ} {Q : σ → α → Prop} {s : σ} {p : Prog S' α}
    (h : Meets M.inr Q s p) : Meets M Q s (p.inr : Prog (S.sum S') α) := by
  induction p generalizing s with
  | ret a => exact h
  | act op k ih => exact fun answer => ⟨(h answer).1, ih answer (h answer).2⟩

theorem inl_only (p : Prog S α) :
    (p.inl : Prog (S.sum S') α).Only fun (op : S.Op ⊕ S'.Op) => op.isLeft = true := by
  induction p with
  | ret a => trivial
  | act op k ih => exact ⟨rfl, ih⟩

theorem inr_only (p : Prog S' α) :
    (p.inr : Prog (S.sum S') α).Only fun (op : S.Op ⊕ S'.Op) => op.isRight = true := by
  induction p with
  | ret a => trivial
  | act op k ih => exact ⟨rfl, ih⟩

end Prog

/-- Handlers of both signatures on one store. -/
def Handler.sum {T Store W : Type} (H : Handler S T Store W) (H' : Handler S' T Store W) :
    Handler (S.sum S') T Store W
  | t, store, w, .inl op => H t store w op
  | t, store, w, .inr op => H' t store w op

end Framework
