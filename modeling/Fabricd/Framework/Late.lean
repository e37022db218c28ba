import Fabricd.Framework.Trace

/-!
# Requests that are executed late

A party may stop waiting for a shared object. Its request is then on its way still: the object
executes it at any later time, once, or never.
-/

namespace Framework

/-- One execution of a request, and whether its party had stopped waiting for it. -/
structure Execution (S : Sig) (ι T : Type) where
  moment : Moment S ι T
  late : Bool

/-- An object with the requests on their way to it and the executions so far. -/
structure Link (S : Sig) (ι T D : Type) where
  data : D
  inFlight : List (ι × S.Op)
  done : List (Execution S ι T)

namespace Link

variable {S : Sig} {ι T D : Type}

def fresh (d : D) : Link S ι T D := ⟨d, [], []⟩

def executed (link : Link S ι T D) : List (Moment S ι T) := link.done.map Execution.moment

/-- The executions that a party has waited for. -/
def onTime (link : Link S ι T D) : List (Moment S ι T) :=
  (link.done.filter fun x => !x.late).map Execution.moment

/-- The requests executed after their party had stopped waiting. -/
def late (link : Link S ι T D) : List (ι × S.Op) :=
  (link.done.filter Execution.late).map fun x => (x.moment.party, x.moment.event.op)

/-- An execution and the state it leaves. -/
def execute (link : Link S ι T D) (data : D) (x : Execution S ι T) : Link S ι T D :=
  { link with data, done := link.done ++ [x] }

section

variable (link : Link S ι T D) (data : D) (x : Execution S ι T)

@[simp] theorem inFlight_execute : (link.execute data x).inFlight = link.inFlight := rfl

@[simp] theorem executed_execute : (link.execute data x).executed = link.executed ++ [x.moment] := by
  simp [executed, execute]

theorem onTime_execute : (link.execute data x).onTime =
    link.onTime ++ if x.late then [] else [x.moment] := by
  cases hlate : x.late <;> simp [onTime, execute, hlate]

theorem late_execute : (link.execute data x).late =
    link.late ++ if x.late then [(x.moment.party, x.moment.event.op)] else [] := by
  cases hlate : x.late <;> simp [late, execute, hlate]

end

theorem onTime_sublist (link : Link S ι T D) : link.onTime.Sublist link.executed :=
  List.filter_sublist.map _

theorem countP_executed (link : Link S ι T D) (p : ι × S.Op → Bool) :
    link.executed.countP (fun m => p (m.party, m.event.op)) =
      link.onTime.countP (fun m => p (m.party, m.event.op)) + link.late.countP p := by
  unfold executed onTime late
  simp only [List.countP_map]
  induction link.done with
  | nil => rfl
  | cons x xs ih => cases hlate : x.late <;> simp [hlate, List.countP_cons, ih] <;> omega

end Link

namespace Object

variable {S : Sig} {ι T D : Type} (O : Object S ι T D)

/-- A request on its way is executed, if there is one at this place. -/
def land (t : T) (link : Link S ι T D) (n : Nat) : Link S ι T D :=
  match link.inFlight[n]? with
  | none => link
  | some (i, op) =>
    let (answer, data) := O.serve i t link.data op
    { link with inFlight := link.inFlight.eraseIdx n }.execute data ⟨⟨i, t, ⟨op, answer⟩⟩, true⟩

/-- Some requests on their way are executed, one after another. -/
def lands (t : T) (link : Link S ι T D) (ns : List Nat) : Link S ι T D := ns.foldl (O.land t) link

/-- A request: executed and answered, or put on its way with the answer of giving it up. -/
def request (i : ι) (t : T) (link : Link S ι T D) (op : S.Op) (lost : Option (S.Ans op)) :
    S.Ans op × Link S ι T D :=
  match lost with
  | some answer => (answer, { link with inFlight := link.inFlight ++ [(i, op)] })
  | none =>
    let (answer, data) := O.serve i t link.data op
    (answer, link.execute data ⟨⟨i, t, ⟨op, answer⟩⟩, false⟩)

/-- The executions of a link beside what its parties have asked for: together the executions are
a sequential one; those on time are among the requests, in order and with the answers that were
given; and the requests other than these were given up, and are executed late or still on their
way. -/
structure Linked (GivenUp : Event S → Prop) (d : D) (asked lost : List (Moment S ι T))
    (link : Link S ι T D) : Prop where
  replays : O.Replays d link.executed link.data
  inOrder : link.onTime.Sublist asked
  accounted : asked.Perm (link.onTime ++ lost)
  givenUp : ∀ m ∈ lost, GivenUp m.event
  once : (lost.map fun m => (m.party, m.event.op)).Perm (link.late ++ link.inFlight)

variable {O} {G : Event S → Prop} {d : D} {asked lost : List (Moment S ι T)} {link : Link S ι T D}

theorem linked_fresh : O.Linked G d [] [] (.fresh d) :=
  ⟨rfl, .slnil, .nil, nofun, .nil⟩

theorem Linked.replays_execute (h : O.Linked G d asked lost link) (i : ι) (t : T) (op : S.Op)
    (x : Execution S ι T) (hx : x.moment = ⟨i, t, ⟨op, (O.serve i t link.data op).1⟩⟩) :
    O.Replays d (link.execute (O.serve i t link.data op).2 x).executed
      (O.serve i t link.data op).2 := by
  rw [Link.executed_execute, replays_append, hx]
  exact ⟨link.data, h.replays, rfl, rfl⟩

theorem Linked.land (h : O.Linked G d asked lost link) (t : T) (n : Nat) :
    O.Linked G d asked lost (O.land t link n) := by
  unfold Object.land
  cases hsome : link.inFlight[n]? with
  | none => exact h
  | some sending =>
    obtain ⟨i, op⟩ := sending
    obtain ⟨hlt, hget⟩ := List.getElem?_eq_some_iff.mp hsome
    refine ⟨h.replays_execute i t op _ rfl, ?_, ?_, h.givenUp, ?_⟩
    · rw [Link.onTime_execute, if_pos rfl, List.append_nil]
      exact h.inOrder
    · rw [Link.onTime_execute, if_pos rfl, List.append_nil]
      exact h.accounted
    · rw [Link.late_execute, if_pos rfl, List.append_assoc]
      refine h.once.trans (List.Perm.append_left _ ?_)
      show link.inFlight.Perm ((i, op) :: link.inFlight.eraseIdx n)
      rw [← hget]
      exact (List.getElem_cons_eraseIdx_perm hlt).symm

theorem Linked.lands (h : O.Linked G d asked lost link) (t : T) (ns : List Nat) :
    O.Linked G d asked lost (O.lands t link ns) := by
  induction ns generalizing link with
  | nil => exact h
  | cons n ns ih => exact ih (h.land t n)

/-- A request is executed in time, or lost. -/
theorem Linked.request (h : O.Linked G d asked lost link) (i : ι) (t : T) (op : S.Op)
    (answer : Option (S.Ans op)) (hanswer : ∀ a, answer = some a → G ⟨op, a⟩) :
    ∃ more, O.Linked G d (asked ++ [⟨i, t, ⟨op, (O.request i t link op answer).1⟩⟩]) (lost ++ more)
      (O.request i t link op answer).2 := by
  cases answer with
  | some a =>
    refine ⟨[⟨i, t, ⟨op, a⟩⟩], h.replays, h.inOrder.trans (List.sublist_append_left _ _), ?_, ?_, ?_⟩
    · have hmore := h.accounted.append_right [⟨i, t, ⟨op, a⟩⟩]
      rwa [List.append_assoc] at hmore
    · intro m hm
      rcases List.mem_append.mp hm with hm | hm
      · exact h.givenUp m hm
      · rw [List.mem_singleton.mp hm]
        exact hanswer a rfl
    · have hmore := h.once.append_right [(i, op)]
      rw [List.append_assoc] at hmore
      rwa [List.map_append]
  | none =>
    refine ⟨[], h.replays_execute i t op _ rfl, ?_, ?_, ?_, ?_⟩
    · show (link.execute _ _).onTime.Sublist _
      rw [Link.onTime_execute, if_neg Bool.false_ne_true]
      exact h.inOrder.append (.refl _)
    · show List.Perm _ ((link.execute _ _).onTime ++ _)
      rw [Link.onTime_execute, if_neg Bool.false_ne_true, List.append_nil, List.append_assoc]
      have hmore := h.accounted.append_right [(⟨i, t, ⟨op, (O.serve i t link.data op).1⟩⟩ : Moment S ι T)]
      rw [List.append_assoc] at hmore
      exact hmore.trans (List.Perm.append_left _ List.perm_append_comm)
    · rw [List.append_nil]
      exact h.givenUp
    · show List.Perm _ ((link.execute _ _).late ++ link.inFlight)
      rw [Link.late_execute, if_neg Bool.false_ne_true, List.append_nil, List.append_nil]
      exact h.once

/-! ### Executions and requests -/

theorem Linked.exists_asked (h : O.Linked G d asked lost link) {m : Moment S ι T}
    (hm : m ∈ link.executed) : ∃ m' ∈ asked, m'.party = m.party ∧ m'.event.op = m.event.op := by
  obtain ⟨x, hx, rfl⟩ := List.mem_map.mp hm
  cases hlate : x.late with
  | false =>
    have honTime : x.moment ∈ link.onTime :=
      List.mem_map_of_mem (List.mem_filter.mpr ⟨hx, by simp [hlate]⟩)
    exact ⟨x.moment, h.inOrder.subset honTime, rfl, rfl⟩
  | true =>
    have hsent : (x.moment.party, x.moment.event.op) ∈ link.late :=
      List.mem_map_of_mem (f := fun x : Execution S ι T => (x.moment.party, x.moment.event.op))
        (List.mem_filter.mpr ⟨hx, hlate⟩)
    obtain ⟨m', hm', hsame⟩ := List.mem_map.mp (h.once.mem_iff.mpr (List.mem_append_left _ hsent))
    obtain ⟨hparty, hop⟩ := Prod.mk.inj hsame
    exact ⟨m', h.accounted.mem_iff.mpr (List.mem_append_right _ hm'), hparty, hop⟩

/-- What requests have that are not given up, the executions have, in the same order. -/
theorem Linked.filterMap_asked {β : Type} (h : O.Linked G d asked lost link)
    {f : Moment S ι T → Option β} (hf : ∀ m, G m.event → f m = none) :
    (asked.filterMap f).Sublist (link.executed.filterMap f) := by
  have hnone : lost.filterMap f = [] :=
    List.filterMap_eq_nil_iff.mpr fun m hm => hf m (h.givenUp m hm)
  have hlength : (asked.filterMap f).length = (link.onTime.filterMap f).length := by
    rw [(h.accounted.filterMap f).length_eq, List.filterMap_append, hnone, List.append_nil]
  have hsame : link.onTime.filterMap f = asked.filterMap f :=
    (h.inOrder.filterMap f).eq_of_length hlength.symm
  rw [← hsame]
  exact link.onTime_sublist.filterMap f

theorem Linked.countP_executed_le (h : O.Linked G d asked lost link) (p : ι × S.Op → Bool) :
    link.executed.countP (fun m => p (m.party, m.event.op)) ≤
      asked.countP fun m => p (m.party, m.event.op) := by
  have hlate : lost.countP (fun m => p (m.party, m.event.op)) = (link.late ++ link.inFlight).countP p := by
    rw [← h.once.countP_eq, List.countP_map]
    rfl
  rw [Link.countP_executed, h.accounted.countP_eq, List.countP_append, hlate, List.countP_append]
  omega

/-! ### Growing -/

theorem lands_done (O : Object S ι T D) (link : Link S ι T D) (t : T) (ns : List Nat) :
    link.done <+: (O.lands t link ns).done := by
  induction ns generalizing link with
  | nil => exact List.prefix_rfl
  | cons n ns ih =>
    refine List.IsPrefix.trans ?_ (ih (O.land t link n))
    unfold Object.land
    split
    · exact List.prefix_rfl
    · exact List.prefix_append _ _

theorem request_done (O : Object S ι T D) (link : Link S ι T D) (i : ι) (t : T) (op : S.Op)
    (answer : Option (S.Ans op)) : link.done <+: (O.request i t link op answer).2.done := by
  cases answer with
  | some a => exact List.prefix_rfl
  | none => exact List.prefix_append _ _

end Object

namespace Pool

variable {S : Sig} {ι T D Store W α : Type} [DecidableEq ι]

/-- A handler whose store has a link in it, on which only the object's requests are made, each
turn after any executions of requests on their way. -/
structure Links (H : Handler S T Store W) (O : Object S ι T D) (V : Store → Link S ι T D)
    (C : ι → W → Prop) (G : Event S → Prop) : Prop where
  mine : ∀ {i t s w op}, C i w → O.mine op = true → ∃ ns lost, (∀ a, lost = some a → G ⟨op, a⟩) ∧
    (H t s w op).1 = (O.request i t (O.lands t (V s) ns) op lost).1 ∧
      V (H t s w op).2.1 = (O.request i t (O.lands t (V s) ns) op lost).2
  other : ∀ {t s w op}, O.mine op = false → ∃ ns, V (H t s w op).2.1 = O.lands t (V s) ns
  world : ∀ {i t s w op}, C i w → C i (H t s w op).2.2

variable {H : Handler S T Store W} {O : Object S ι T D} {V : Store → Link S ι T D}
  {C : ι → W → Prop} {G : Event S → Prop} {d : D}

theorem Links.step (hlinks : Links H O V C G) {st : Pool S ι Store W α}
    {asked lost : List (Moment S ι T)} (h : O.Linked G d asked lost (V st.store)) (i : ι) (t : T)
    (hworld : C i (st.party i).world) :
    ∃ more, O.Linked G d (asked ++ O.own (st.moment H i t)) (lost ++ more)
        (V (st.step H i t).store) ∧
      (V st.store).done <+: (V (st.step H i t).store).done := by
  cases hrest : (st.party i).rest with
  | ret a =>
    rw [moment_ret hrest, step_ret hrest]
    refine ⟨[], ?_, List.prefix_rfl⟩
    simpa [Object.own] using h
  | act op k =>
    rw [moment_act hrest, step_store hrest]
    cases hop : O.mine op with
    | false =>
      obtain ⟨ns, hstore⟩ := hlinks.other (t := t) (s := st.store) (w := (st.party i).world) hop
      rw [hstore]
      refine ⟨[], ?_, O.lands_done _ t ns⟩
      simpa [Object.own, hop] using h.lands t ns
    | true =>
      obtain ⟨ns, gone, hgone, hans, hstore⟩ := hlinks.mine (t := t) (s := st.store) hworld hop
      rw [hstore, hans]
      obtain ⟨more, hmore⟩ := (h.lands t ns).request i t op gone hgone
      refine ⟨more, ?_, (O.lands_done _ t ns).trans (O.request_done _ i t op gone)⟩
      simpa [Object.own, hop] using hmore

theorem Links.step_world (hlinks : Links H O V C G) {st : Pool S ι Store W α}
    (hworld : ∀ i, C i (st.party i).world) (i : ι) (t : T) (j : ι) :
    C j ((st.step H i t).party j).world := by
  cases hrest : (st.party i).rest with
  | ret a =>
    rw [step_ret hrest]
    exact hworld j
  | act op k =>
    by_cases hij : j = i
    · subst hij
      rw [step_self hrest]
      exact hlinks.world (hworld j)
    · rw [step_other hij]
      exact hworld j

theorem Links.exec_world (hlinks : Links H O V C G) {st : Pool S ι Store W α}
    (hworld : ∀ i, C i (st.party i).world) (schedule : List (ι × T)) (j : ι) :
    C j ((st.exec H schedule).party j).world :=
  exec_induction (I := fun st => ∀ j, C j (st.party j).world) hworld
    (fun _ i t h j => hlinks.step_world h i t j) schedule j

/-- Over any schedule the executions stay in step with what is asked for, and are only added to. -/
theorem Links.exec (hlinks : Links H O V C G) {st : Pool S ι Store W α}
    {asked lost : List (Moment S ι T)} (hworld : ∀ i, C i (st.party i).world)
    (h : O.Linked G d asked lost (V st.store)) (schedule : List (ι × T)) :
    ∃ more, O.Linked G d (asked ++ O.own (st.trace H schedule)) (lost ++ more)
        (V (st.exec H schedule).store) ∧
      (V st.store).done <+: (V (st.exec H schedule).store).done := by
  induction schedule generalizing st asked lost with
  | nil => exact ⟨[], by simpa [Object.own] using h, List.prefix_rfl⟩
  | cons turn schedule ih =>
    obtain ⟨i, t⟩ := turn
    obtain ⟨more, hstep, hgrows⟩ := hlinks.step h i t (hworld i)
    obtain ⟨more', hrun, hgrows'⟩ := ih (hlinks.step_world hworld i t) hstep
    rw [trace_cons, exec_cons, Object.own_append]
    rw [List.append_assoc, List.append_assoc] at hrun
    exact ⟨more ++ more', hrun, hgrows.trans hgrows'⟩

end Pool

end Framework
