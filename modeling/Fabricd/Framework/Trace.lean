import Fabricd.Framework.Interleave
import Mathlib.Algebra.BigOperators.Group.Finset.Piecewise
import Mathlib.Data.Int.Order.Basic

/-!
# Traces and shared objects

The events of all parties in the order of their turns. An object that one part of the store
holds answers them one after another, so their order in the trace is a sequential execution.
-/

namespace Framework

/-- An event with its party and the time of its turn. -/
structure Moment (S : Sig) (ι T : Type) where
  party : ι
  time : T
  event : Event S

namespace Pool

open Prog

variable {S : Sig} {ι T Store W α : Type} [DecidableEq ι] (H : Handler S T Store W)

/-- What one turn adds to the trace: nothing once its party has returned. -/
def moment (st : Pool S ι Store W α) (i : ι) (t : T) : List (Moment S ι T) :=
  match (st.party i).rest with
  | .ret _ => []
  | .act op _ => [⟨i, t, ⟨op, (H t st.store (st.party i).world op).1⟩⟩]

/-- The events of all parties over a schedule, in order. -/
def trace (st : Pool S ι Store W α) : List (ι × T) → List (Moment S ι T)
  | [] => []
  | turn :: schedule => st.moment H turn.1 turn.2 ++ trace (st.step H turn.1 turn.2) schedule

def eventsOf (i : ι) (moments : List (Moment S ι T)) : List (Event S) :=
  (moments.filter fun m => m.party = i).map Moment.event

@[simp] theorem trace_nil (st : Pool S ι Store W α) : st.trace H [] = [] := rfl

@[simp] theorem trace_cons (st : Pool S ι Store W α) (turn : ι × T) (schedule : List (ι × T)) :
    st.trace H (turn :: schedule) =
      st.moment H turn.1 turn.2 ++ (st.step H turn.1 turn.2).trace H schedule := rfl

@[simp] theorem eventsOf_append (i : ι) (ms ms' : List (Moment S ι T)) :
    eventsOf i (ms ++ ms') = eventsOf i ms ++ eventsOf i ms' := by
  simp [eventsOf]

variable {H} {st : Pool S ι Store W α} {i j : ι} {t : T}

omit [DecidableEq ι] in
theorem moment_ret {a : α} (h : (st.party i).rest = .ret a) : st.moment H i t = [] := by
  simp only [moment, h]

omit [DecidableEq ι] in
theorem moment_act {op : S.Op} {k : S.Ans op → Prog S α} (h : (st.party i).rest = .act op k) :
    st.moment H i t = [⟨i, t, ⟨op, (H t st.store (st.party i).world op).1⟩⟩] := by
  simp only [moment, h]

theorem trace_append (schedule schedule' : List (ι × T)) :
    st.trace H (schedule ++ schedule') =
      st.trace H schedule ++ (st.exec H schedule).trace H schedule' := by
  induction schedule generalizing st with
  | nil => rfl
  | cons turn schedule ih => simp [ih]

theorem step_log : ((st.step H i t).party j).log =
    (st.party j).log ++ eventsOf j (st.moment H i t) := by
  cases hrest : (st.party i).rest with
  | ret a => simp [step_ret hrest, moment_ret hrest, eventsOf]
  | act op k =>
    rw [moment_act hrest]
    by_cases hij : i = j
    · subst hij
      simp [step_self hrest, eventsOf]
    · have hkept : (st.step H i t).party j = st.party j := step_other (Ne.symm hij)
      simp [hkept, eventsOf, hij]

theorem trace_log (schedule : List (ι × T)) : ((st.exec H schedule).party j).log =
    (st.party j).log ++ eventsOf j (st.trace H schedule) := by
  induction schedule generalizing st with
  | nil => simp [eventsOf]
  | cons turn schedule ih => simp [ih, step_log]

theorem mem_eventsOf {ms : List (Moment S ι T)} {e : Event S} :
    e ∈ eventsOf i ms ↔ ∃ m ∈ ms, m.party = i ∧ m.event = e := by
  simp [eventsOf, and_assoc]

theorem countP_eventsOf [Fintype ι] (p : Event S → Bool) (ms : List (Moment S ι T)) :
    ms.countP (fun m => p m.event) = ∑ i, (eventsOf i ms).countP p := by
  induction ms with
  | nil => simp [eventsOf]
  | cons m ms ih =>
    have hcons (i : ι) : (eventsOf i (m :: ms)).countP p =
        (eventsOf i ms).countP p + if i = m.party then (if p m.event then 1 else 0) else 0 := by
      by_cases hi : m.party = i
      · simp [eventsOf, hi, List.countP_cons]
      · simp [eventsOf, hi, Ne.symm hi]
    simp only [hcons, Finset.sum_add_distrib, Finset.sum_ite_eq', Finset.mem_univ, if_true]
    rw [List.countP_cons, ih]

end Pool

/-! ## Shared objects -/

/-- An object that answers some of the requests, one at a time. -/
structure Object (S : Sig) (ι T D : Type) where
  mine : S.Op → Bool
  serve : ι → T → D → (op : S.Op) → S.Ans op × D

namespace Object

variable {S : Sig} {ι T D : Type} (O : Object S ι T D)

/-- The requests of a trace that the object answers. -/
def own (ms : List (Moment S ι T)) : List (Moment S ι T) := ms.filter fun m => O.mine m.event.op

/-- Served one after another from `d`, the requests get the answers they have, and leave `d'`. -/
def Replays : D → List (Moment S ι T) → D → Prop
  | d, [], d' => d' = d
  | d, m :: ms, d' => (O.serve m.party m.time d m.event.op).1 = m.event.ans ∧
      Replays (O.serve m.party m.time d m.event.op).2 ms d'

@[simp] theorem replays_nil (d d' : D) : O.Replays d [] d' ↔ d' = d := Iff.rfl

@[simp] theorem replays_cons (d d' : D) (m : Moment S ι T) (ms : List (Moment S ι T)) :
    O.Replays d (m :: ms) d' ↔ (O.serve m.party m.time d m.event.op).1 = m.event.ans ∧
      O.Replays (O.serve m.party m.time d m.event.op).2 ms d' := Iff.rfl

@[simp] theorem own_append (ms ms' : List (Moment S ι T)) :
    O.own (ms ++ ms') = O.own ms ++ O.own ms' := by
  simp [own]

variable {O}

theorem replays_append {d d' : D} {ms ms' : List (Moment S ι T)} :
    O.Replays d (ms ++ ms') d' ↔ ∃ d₁, O.Replays d ms d₁ ∧ O.Replays d₁ ms' d' := by
  induction ms generalizing d with
  | nil => simp
  | cons m ms ih => simp [ih, and_assoc]

/-- The run rule for a counter of some width. -/
theorem Replays.modular {N : Nat} (val : D → Nat) (p : Moment S ι T → Bool)
    {ms : List (Moment S ι T)} {d d' : D} {start : Nat} (h : O.Replays d ms d')
    (hstart : val d = start % N)
    (hserve : ∀ m ∈ ms, ∀ d, val (O.serve m.party m.time d m.event.op).2 =
      (val d + if p m then 1 else 0) % N) :
    val d' = (start + ms.countP p) % N := by
  induction ms generalizing d start with
  | nil =>
    rw [replays_nil] at h
    simp [h, hstart]
  | cons m ms ih =>
    have hstep : val (O.serve m.party m.time d m.event.op).2 =
        (start + if p m then 1 else 0) % N := by
      rw [hserve m List.mem_cons_self, hstart, Nat.mod_add_mod]
    have hlater := ih h.2 hstep fun m' hm' => hserve m' (List.mem_cons_of_mem _ hm')
    rw [hlater, List.countP_cons, Nat.add_assoc, Nat.add_comm (if p m then 1 else 0)]

/-- The run rule: a measure of the state grows by one request at a time, by at least those
that count for sure and at most those that may count. -/
theorem Replays.measured (val : D → Int) (sure maybe : Moment S ι T → Bool)
    {ms : List (Moment S ι T)} {d d' : D} (h : O.Replays d ms d')
    (hserve : ∀ m ∈ ms, ∀ d, (O.serve m.party m.time d m.event.op).1 = m.event.ans →
      val d + (sure m).toNat ≤ val (O.serve m.party m.time d m.event.op).2 ∧
        val (O.serve m.party m.time d m.event.op).2 ≤ val d + (maybe m).toNat) :
    val d + ms.countP sure ≤ val d' ∧ val d' ≤ val d + ms.countP maybe := by
  induction ms generalizing d with
  | nil =>
    rw [replays_nil] at h
    simp [h]
  | cons m ms ih =>
    obtain ⟨hans, hrest⟩ := h
    have hstep := hserve m List.mem_cons_self d hans
    have hlater := ih hrest fun m' hm' => hserve m' (List.mem_cons_of_mem _ hm')
    rw [List.countP_cons, List.countP_cons]
    cases hsure : sure m <;> cases hmaybe : maybe m <;>
      simp only [hsure, hmaybe, Bool.toNat_true, Bool.toNat_false, if_true, Bool.false_eq_true,
        if_false] at hstep ⊢ <;> omega

/-- Requests that the object hands numbers out for: as long as no request lowers a measure of
its state, and a number handed out is above the measure before and not above the one after,
later numbers are greater. -/
theorem Replays.tickets (val : D → Int) (ticket : Moment S ι T → Option Int)
    {ms : List (Moment S ι T)} {d d' : D} (h : O.Replays d ms d')
    (hserve : ∀ m ∈ ms, ∀ d, (O.serve m.party m.time d m.event.op).1 = m.event.ans →
      val d ≤ val (O.serve m.party m.time d m.event.op).2 ∧ ∀ n, ticket m = some n →
        val d < n ∧ n ≤ val (O.serve m.party m.time d m.event.op).2) :
    val d ≤ val d' ∧ (ms.filterMap ticket).Pairwise (· < ·) ∧
      ∀ n ∈ ms.filterMap ticket, val d < n ∧ n ≤ val d' := by
  induction ms generalizing d with
  | nil =>
    rw [replays_nil] at h
    simp [h]
  | cons m ms ih =>
    obtain ⟨hans, hrest⟩ := h
    obtain ⟨hgrows, hticket⟩ := hserve m List.mem_cons_self d hans
    have hlater : ∀ m' ∈ ms, _ := fun m' hm' => hserve m' (List.mem_cons_of_mem _ hm')
    obtain ⟨hle, hpairs, hbounds⟩ := ih hrest hlater
    cases hm : ticket m with
    | none =>
      rw [List.filterMap_cons_none hm]
      refine ⟨by omega, hpairs, fun n hn => ?_⟩
      have hn' := hbounds n hn
      omega
    | some n =>
      have hn := hticket n hm
      rw [List.filterMap_cons_some hm]
      refine ⟨by omega, List.pairwise_cons.mpr ⟨fun n' hn' => ?_, hpairs⟩, fun n' hn' => ?_⟩
      · have hlow := (hbounds n' hn').1
        omega
      · cases hn' with
        | head => omega
        | tail _ hn' =>
          have hboth := hbounds n' hn'
          omega

end Object

namespace Pool

variable {S : Sig} {ι T D Store W α : Type} [DecidableEq ι] {H : Handler S T Store W}
  {st : Pool S ι Store W α}

/-- If a part of the store is an object that answers its own requests and that no other
request touches, the trace is a sequential execution of it. -/
theorem exec_replays (st : Pool S ι Store W α) {O : Object S ι T D} {V : Store → D} {C : ι → W → Prop}
    (hmine : ∀ {i t s w op}, C i w → O.mine op = true →
      (H t s w op).1 = (O.serve i t (V s) op).1 ∧ V (H t s w op).2.1 = (O.serve i t (V s) op).2)
    (hother : ∀ {t s w op}, O.mine op = false → V (H t s w op).2.1 = V s)
    (hworld : ∀ {i t s w op}, C i w → C i (H t s w op).2.2)
    (h : ∀ i, C i (st.party i).world) (schedule : List (ι × T)) :
    O.Replays (V st.store) (O.own (st.trace H schedule)) (V (st.exec H schedule).store) := by
  induction schedule generalizing st with
  | nil => simp [Object.own]
  | cons turn schedule ih =>
    obtain ⟨i, t⟩ := turn
    have hnext : ∀ j, C j ((st.step H i t).party j).world := by
      intro j
      cases hrest : (st.party i).rest with
      | ret a =>
        rw [step_ret hrest]
        exact h j
      | act op k =>
        by_cases hij : j = i
        · subst hij
          rw [step_self hrest]
          exact hworld (h j)
        · rw [step_other hij]
          exact h j
    have hlater := ih _ hnext
    rw [trace_cons, exec_cons, Object.own_append]
    cases hrest : (st.party i).rest with
    | ret a =>
      rw [moment_ret hrest]
      rw [step_ret hrest] at hlater ⊢
      exact hlater
    | act op k =>
      rw [step_store hrest] at hlater
      rw [moment_act hrest]
      cases hop : O.mine op with
      | false =>
        rw [hother hop] at hlater
        simpa [Object.own, hop] using hlater
      | true =>
        obtain ⟨hans, hstore⟩ := hmine (t := t) (s := st.store) (h i) hop
        rw [hstore] at hlater
        simpa [Object.own, hop] using ⟨hans.symm, hlater⟩

end Pool

end Framework
