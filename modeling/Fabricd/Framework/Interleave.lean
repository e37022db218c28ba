import Fabricd.Framework.Prog
import Mathlib.Algebra.BigOperators.Group.Finset.Basic

/-!
# Interleavings

Any number of parties, each with its program and a world of its own, take turns on one
shared store. A schedule lists the turns with the time of each; a turn answers the next
operation of its party.
-/

namespace Framework

/-- What answers an operation: from the time, the store and the party's own world. -/
abbrev Handler (S : Sig) (T Store W : Type) :=
  T → Store → W → (op : S.Op) → S.Ans op × Store × W

/-- A party: what is left of its program, its world and its events so far. -/
structure Party (S : Sig) (W α : Type) where
  rest : Prog S α
  world : W
  log : List (Event S)

structure Pool (S : Sig) (ι Store W α : Type) where
  store : Store
  party : ι → Party S W α

namespace Pool

open Prog

variable {S : Sig} {ι T Store W α : Type} [DecidableEq ι] (H : Handler S T Store W)

/-- One turn; a party that has returned does nothing. -/
def step (st : Pool S ι Store W α) (i : ι) (t : T) : Pool S ι Store W α :=
  match (st.party i).rest with
  | .ret _ => st
  | .act op k =>
    let answer := H t st.store (st.party i).world op
    { store := answer.2.1
      party := Function.update st.party i
        ⟨k answer.1, answer.2.2, (st.party i).log ++ [⟨op, answer.1⟩]⟩ }

/-- The turns of a schedule, in order. -/
def exec (st : Pool S ι Store W α) (schedule : List (ι × T)) : Pool S ι Store W α :=
  schedule.foldl (fun st turn => st.step H turn.1 turn.2) st

@[simp] theorem exec_nil (st : Pool S ι Store W α) : st.exec H [] = st := rfl

@[simp] theorem exec_cons (st : Pool S ι Store W α) (turn : ι × T) (schedule : List (ι × T)) :
    st.exec H (turn :: schedule) = (st.step H turn.1 turn.2).exec H schedule := rfl

variable {H} {st : Pool S ι Store W α} {i j : ι} {t : T}

theorem step_ret {a : α} (h : (st.party i).rest = .ret a) : st.step H i t = st := by
  simp only [step, h]

theorem step_store {op : S.Op} {k : S.Ans op → Prog S α} (h : (st.party i).rest = .act op k) :
    (st.step H i t).store = (H t st.store (st.party i).world op).2.1 := by
  simp only [step, h]

theorem step_self {op : S.Op} {k : S.Ans op → Prog S α} (h : (st.party i).rest = .act op k) :
    (st.step H i t).party i =
      ⟨k (H t st.store (st.party i).world op).1, (H t st.store (st.party i).world op).2.2,
        (st.party i).log ++ [⟨op, (H t st.store (st.party i).world op).1⟩]⟩ := by
  simp only [step, h, Function.update_self]

theorem step_other (h : j ≠ i) : (st.step H i t).party j = st.party j := by
  cases hrest : (st.party i).rest with
  | ret a => rw [step_ret hrest]
  | act op k =>
    simp only [step, hrest]
    exact Function.update_of_ne h _ _

/-- A turn makes one step of its party, or none. -/
theorem step_steps (i j : ι) (t : T) : ∃ es, ((st.step H i t).party j).log =
      (st.party j).log ++ es ∧
    Steps (st.party j).rest es ((st.step H i t).party j).rest := by
  by_cases hij : j = i
  · subst hij
    cases hrest : (st.party j).rest with
    | ret a =>
      rw [step_ret hrest, hrest]
      exact ⟨[], (List.append_nil _).symm, .refl _⟩
    | act op k =>
      rw [step_self hrest]
      exact ⟨_, rfl, .act (.refl _)⟩
  · rw [step_other hij]
    exact ⟨[], (List.append_nil _).symm, .refl _⟩

/-- What every party has done is a partial run of its program. -/
theorem exec_steps (j : ι) (schedule : List (ι × T)) : ∃ es,
    ((st.exec H schedule).party j).log = (st.party j).log ++ es ∧
      Steps (st.party j).rest es ((st.exec H schedule).party j).rest := by
  induction schedule generalizing st with
  | nil => exact ⟨[], (List.append_nil _).symm, .refl _⟩
  | cons turn schedule ih =>
    obtain ⟨es, hlog, hstep⟩ := st.step_steps (H := H) turn.1 j turn.2
    obtain ⟨fs, hlog', hrest⟩ := @ih (st.step H turn.1 turn.2)
    refine ⟨es ++ fs, ?_, hstep.trans hrest⟩
    rw [exec_cons, hlog', hlog, List.append_assoc]

/-- The run lemma: what every turn preserves, every schedule preserves. -/
theorem exec_induction {I : Pool S ι Store W α → Prop} (h : I st)
    (hstep : ∀ st i t, I st → I (st.step H i t)) (schedule : List (ι × T)) :
    I (st.exec H schedule) := by
  induction schedule generalizing st with
  | nil => exact h
  | cons turn schedule ih => exact ih (hstep st turn.1 turn.2 h)

/-- Every turn of a schedule meets a condition, on the pool before it. -/
def Along (H : Handler S T Store W) (C : Pool S ι Store W α → ι → T → Prop) :
    Pool S ι Store W α → List (ι × T) → Prop
  | _, [] => True
  | st, turn :: schedule => C st turn.1 turn.2 ∧ Along H C (st.step H turn.1 turn.2) schedule

/-- The run lemma for schedules whose turns meet a condition. -/
theorem Along.exec {I : Pool S ι Store W α → Prop} {C : Pool S ι Store W α → ι → T → Prop}
    {schedule : List (ι × T)} (hC : Along H C st schedule) (h : I st)
    (hstep : ∀ st i t, I st → C st i t → I (st.step H i t)) : I (st.exec H schedule) := by
  induction schedule generalizing st with
  | nil => exact h
  | cons turn schedule ih => exact ih hC.2 (hstep st turn.1 turn.2 h hC.1)

theorem along_congr {I : Pool S ι Store W α → Prop} {C C' : Pool S ι Store W α → ι → T → Prop}
    (h : I st) (hsame : ∀ st i t, I st → (C st i t ↔ C' st i t))
    (hstep : ∀ st i t, I st → C st i t → I (st.step H i t)) (schedule : List (ι × T)) :
    Along H C st schedule ↔ Along H C' st schedule := by
  induction schedule generalizing st with
  | nil => exact Iff.rfl
  | cons turn schedule ih =>
    have hturn := hsame st turn.1 turn.2 h
    constructor
    · rintro ⟨hC, hrest⟩
      exact ⟨hturn.mp hC, (ih (hstep st turn.1 turn.2 h hC)).mp hrest⟩
    · rintro ⟨hC', hrest⟩
      have hC := hturn.mpr hC'
      exact ⟨hC, (ih (hstep st turn.1 turn.2 h hC)).mpr hrest⟩

/-! ## Counting events -/

section Tally

variable [Fintype ι]

def tally (p : Event S → Bool) (st : Pool S ι Store W α) : Nat :=
  ∑ i, (st.party i).log.countP p

theorem tally_step (p : Event S → Bool) {op : S.Op} {k : S.Ans op → Prog S α}
    (h : (st.party i).rest = .act op k) :
    tally p (st.step H i t) = tally p st +
      if p ⟨op, (H t st.store (st.party i).world op).1⟩ then 1 else 0 := by
  have hother : ∀ j, j ∈ Finset.univ.erase i →
      ((st.step H i t).party j).log.countP p = (st.party j).log.countP p :=
    fun j hj => by rw [step_other (Finset.ne_of_mem_erase hj)]
  have hmine : ((st.step H i t).party i).log.countP p = (st.party i).log.countP p +
      if p ⟨op, (H t st.store (st.party i).world op).1⟩ then 1 else 0 := by
    rw [step_self h, List.countP_append]
    simp
  unfold tally
  rw [← Finset.sum_erase_add _ _ (Finset.mem_univ i), Finset.sum_congr rfl hother, hmine,
    ← Nat.add_assoc, Finset.sum_erase_add _ _ (Finset.mem_univ i)]

end Tally

/-! ## Removing parties -/

section Removal

variable (K : ι → Prop) [DecidablePred K]

/-- If the turns of the parties that are removed keep the stores related, and the turns of
those that stay are answered alike on related stores, then removing the former changes
nothing for the latter. -/
theorem exec_filter {P : ι → S.Op → Prop} {V : Store → Store → Prop}
    (hgone : ∀ {i t s s' w op}, ¬ K i → P i op → V s s' → V (H t s w op).2.1 s')
    (hstay : ∀ {i t s s' w op}, K i → P i op → V s s' →
      (H t s w op).1 = (H t s' w op).1 ∧ (H t s w op).2.2 = (H t s' w op).2.2 ∧
        V (H t s w op).2.1 (H t s' w op).2.1)
    {st st' : Pool S ι Store W α} (hP : ∀ i, (st.party i).rest.Only (P i))
    (hV : V st.store st'.store) (hsame : ∀ i, K i → st.party i = st'.party i)
    (schedule : List (ι × T)) {i : ι} (hi : K i) :
    (st.exec H schedule).party i =
      (st'.exec H (schedule.filter fun turn => K turn.1)).party i := by
  induction schedule generalizing st st' with
  | nil => exact hsame i hi
  | cons turn schedule ih =>
    obtain ⟨j, t⟩ := turn
    have hP' : ∀ i, ((st.step H j t).party i).rest.Only (P i) := by
      intro i
      obtain ⟨es, -, hstep⟩ := st.step_steps (H := H) j i t
      exact ((hP i).steps hstep).2
    by_cases hj : K j
    · rw [List.filter_cons_of_pos (by simpa using hj), exec_cons, exec_cons]
      cases hrest : (st.party j).rest with
      | ret a =>
        have hrest' := hrest
        rw [hsame j hj] at hrest'
        rw [step_ret hrest, step_ret hrest']
        exact ih hP hV hsame
      | act op k =>
        have hrest' := hrest
        rw [hsame j hj] at hrest'
        have hop : P j op := by
          have h := hP j
          rw [hrest] at h
          exact h.1
        obtain ⟨hans, hworld, hstore⟩ := hstay (t := t) (w := (st.party j).world) hj hop hV
        refine ih hP' ?_ fun i hi => ?_
        · rw [step_store hrest, step_store hrest', ← hsame j hj]
          exact hstore
        · by_cases hij : i = j
          · subst hij
            rw [step_self hrest, step_self hrest', ← hsame i hi, hans, hworld]
          · rw [step_other hij, step_other hij]
            exact hsame i hi
    · rw [List.filter_cons_of_neg (by simpa using hj), exec_cons]
      refine ih hP' ?_ fun i hi => ?_
      · cases hrest : (st.party j).rest with
        | ret a =>
          rw [step_ret hrest]
          exact hV
        | act op k =>
          have hop : P j op := by
            have h := hP j
            rw [hrest] at h
            exact h.1
          rw [step_store hrest]
          exact hgone hj hop hV
      · have hij : i ≠ j := by
          rintro rfl
          exact hj hi
        rw [step_other hij]
        exact hsame i hi

end Removal

end Pool

end Framework
