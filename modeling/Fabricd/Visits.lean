import Fabricd.Lanes
import Fabricd.Serve

/-!
# The calls of a session

The events of a session, cut into the calls it served, and what each capability does over
them: one attempt at its first call, whose outcome every later call meets again.
-/

namespace Fabricd

open Framework

/-- A served call: the request, what was asked for since its task started, and the
response once it is written. -/
structure Visit where
  call : WireCall
  work : List (Event Fx)
  response : Option WireResponse

/-- A response closes a visit that has none. -/
def Visit.close (visit : Visit) (response : WireResponse) : Visit :=
  { visit with response := some (visit.response.getD response) }

/-- The visits after one more event, the newest first. -/
def visitStep (visits : List Visit) (e : Event Fx) : List Visit :=
  match e with
  | ⟨⟨.spawnBlocking call, _⟩, joined⟩ =>
    match (joined : Except String Unit) with
    | .ok _ => ⟨call, [], none⟩ :: visits
    | .error _ => visits
  | ⟨⟨.writeFrame response, _⟩, _⟩ => visits.modifyHead (·.close response)
  | ⟨⟨.readFrame _, _⟩, _⟩ | ⟨⟨.authFailuresFetchAdd, _⟩, _⟩ => visits
  | e => visits.modifyHead fun visit => { visit with work := visit.work ++ [e] }

/-- The visits of a log, the newest first. -/
def visits (log : List (Event Fx)) : List Visit := log.foldl visitStep []

def visitsOf (capability : Capability) (log : List (Event Fx)) : List Visit :=
  (visits log).filter fun visit => visit.call.name = capability.name

/-- The requests of a log that connect or build a capability. -/
def attempts (capability : Capability) (log : List (Event Fx)) : List (Event Fx) :=
  log.filter fun e => e.op.call.capability = some capability ∧ e.op.call.attempt = true

/-- A request made while a call is served. -/
def Inner (call : Call) : Prop := call.capability.isSome ∨ call = .now

theorem visits_snoc (log : List (Event Fx)) (e : Event Fx) :
    visits (log ++ [e]) = visitStep (visits log) e := by
  simp [visits]

private theorem visitStep_inner {e : Event Fx} (h : Inner e.op.call) (visit : Visit)
    (older : List Visit) :
    visitStep (visit :: older) e = { visit with work := visit.work ++ [e] } :: older := by
  obtain ⟨⟨call, budget⟩, answer⟩ := e
  cases call <;> first | rfl | simp [Inner, Call.capability] at h

theorem visits_inner {log es : List (Event Fx)} {visit : Visit} {older : List Visit}
    (hlog : visits log = visit :: older) (hes : ∀ e ∈ es, Inner e.op.call) :
    visits (log ++ es) = { visit with work := visit.work ++ es } :: older := by
  induction es generalizing log visit with
  | nil => simpa using hlog
  | cons e es ih =>
    have hstep : visits (log ++ [e]) = { visit with work := visit.work ++ [e] } :: older := by
      rw [visits_snoc, hlog, visitStep_inner (hes e List.mem_cons_self)]
    have hrest := ih hstep fun e he => hes e (List.mem_cons_of_mem _ he)
    simpa using hrest

private theorem visitStep_work {older : List Visit} {e : Event Fx} {visit : Visit}
    (h : visit ∈ visitStep older e) :
    visit.work = [] ∨ ∃ old ∈ older, visit.work = old.work ∨ visit.work = old.work ++ [e] := by
  have hkept (h : visit ∈ older) :
      visit.work = [] ∨ ∃ old ∈ older, visit.work = old.work ∨ visit.work = old.work ++ [e] :=
    .inr ⟨visit, h, .inl rfl⟩
  have hhead {f : Visit → Visit} (hf : ∀ v, (f v).work = v.work ∨ (f v).work = v.work ++ [e])
      (h : visit ∈ older.modifyHead f) :
      visit.work = [] ∨ ∃ old ∈ older, visit.work = old.work ∨ visit.work = old.work ++ [e] := by
    cases older with
    | nil => cases h
    | cons first older =>
      rcases List.mem_cons.mp h with rfl | h
      · exact .inr ⟨first, List.mem_cons_self, hf first⟩
      · exact .inr ⟨visit, List.mem_cons_of_mem _ h, .inl rfl⟩
  obtain ⟨⟨call, budget⟩, answer⟩ := e
  cases call with
  | spawnBlocking call =>
    cases answer with
    | error err => exact hkept h
    | ok done =>
      rcases List.mem_cons.mp h with rfl | h
      · exact .inl rfl
      · exact hkept h
  | writeFrame response => exact hhead (f := (·.close response)) (fun v => .inl rfl) h
  | readFrame got => exact hkept h
  | authFailuresFetchAdd => exact hkept h
  | _ => exact hhead (f := fun visit => { visit with work := visit.work ++ [_] }) (fun v => .inr rfl) h

theorem work_sublist {log : List (Event Fx)} {visit : Visit} (h : visit ∈ visits log) :
    visit.work.Sublist log := by
  induction log using List.reverseRecOn generalizing visit with
  | nil => cases h
  | append_singleton log e ih =>
    rw [visits_snoc] at h
    rcases visitStep_work h with hnil | ⟨old, hold, hsame | hmore⟩
    · rw [hnil]
      exact List.nil_sublist _
    · rw [hsame]
      exact (ih hold).trans (List.sublist_append_left log [e])
    · rw [hmore]
      exact (ih hold).append (List.Sublist.refl [e])

private theorem attempts_append (capability : Capability) (log es : List (Event Fx)) :
    attempts capability (log ++ es) = attempts capability log ++ attempts capability es :=
  List.filter_append ..

private theorem attempts_uses {capability : Capability} {handle : Handle} {es : List (Event Fx)}
    (h : ∀ e ∈ es, Lane.Uses handle e) : attempts capability es = [] := by
  refine List.filter_eq_nil_iff.mpr fun e he => ?_
  rcases h e he with huse | hnow
  · simp [huse.2]
  · simp [hnow, Call.capability]

/-! ## One attempt -/

/-- The call was answered so, or has not been answered yet. -/
def Visit.Answers (visit : Visit) (result : Except EgressError String) : Prop :=
  visit.response = none ∨ visit.response = some (.reply result)

section

variable {Backend : Type} (connect : Fab (Except EgressError Backend)) (handle : Backend → Handle)

/-- The first visit ran the attempt to its failure, and every visit met the same error. -/
structure FailedWith (err : EgressError) (attempt : List (Event Fx)) (visits : List Visit) :
    Prop where
  run : Prog.Steps connect attempt (.ret (.error err))
  shape : ∃ later first, visits = later ++ [first] ∧ first.work = attempt ∧
    ∀ visit ∈ later, visit.work = []
  same : ∀ visit ∈ visits, visit.Answers (.error err)

/-- The first visit ran the attempt to its success, and everything since is on the handle
it left. -/
structure ConnectedOn (on : Handle) (attempt : List (Event Fx)) (visits : List Visit) : Prop where
  run : ∃ backend, handle backend = on ∧ Prog.Steps connect attempt (.ret (.ok backend))
  shape : ∃ later first use, visits = later ++ [first] ∧ first.work = attempt ++ use ∧
    (∀ e ∈ use, Lane.Uses on e) ∧ ∀ visit ∈ later, ∀ e ∈ visit.work, Lane.Uses on e

/-- A capability makes one attempt, at its first call; `attempt` lists its events. -/
inductive ConnectOnce : (attempt : List (Event Fx)) → (visits : List Visit) → Prop where
  | unused : ConnectOnce [] []
  | attempting {call : WireCall} {attempt : List (Event Fx)}
      {rest : Fab (Except EgressError Backend)} (run : Prog.Steps connect attempt rest) :
      ConnectOnce attempt [⟨call, attempt, none⟩]
  | failed {err : EgressError} {attempt : List (Event Fx)} {visits : List Visit}
      (h : FailedWith connect err attempt visits) : ConnectOnce attempt visits
  | connected {on : Handle} {attempt : List (Event Fx)} {visits : List Visit}
      (h : ConnectedOn connect handle on attempt visits) : ConnectOnce attempt visits

/-- What a cell says of the visits so far. -/
def CellAt : OnceLock Backend → (attempt : List (Event Fx)) → (visits : List Visit) → Prop
  | none, attempt, visits => attempt = [] ∧ visits = []
  | some (.error err), attempt, visits => FailedWith connect err attempt visits
  | some (.ok backend), attempt, visits =>
    ConnectedOn connect handle (handle backend) attempt visits

variable {connect handle}

private theorem CellAt.connectOnce {cell : OnceLock Backend} {attempt : List (Event Fx)}
    {visits : List Visit} (h : CellAt connect handle cell attempt visits) :
    ConnectOnce connect handle attempt visits := by
  cases cell with
  | none =>
    obtain ⟨rfl, rfl⟩ := h
    exact .unused
  | some outcome =>
    cases outcome with
    | error err => exact .failed h
    | ok backend => exact .connected h

theorem ConnectOnce.run {attempt : List (Event Fx)} {visits : List Visit}
    (h : ConnectOnce connect handle attempt visits) : ∃ rest, Prog.Steps connect attempt rest := by
  cases h with
  | unused => exact ⟨_, .refl _⟩
  | attempting run => exact ⟨_, run⟩
  | failed h => exact ⟨_, h.run⟩
  | connected h =>
    obtain ⟨backend, -, run⟩ := h.run
    exact ⟨_, run⟩

theorem FailedWith.push {err : EgressError} {attempt : List (Event Fx)} {visits : List Visit}
    (h : FailedWith connect err attempt visits) {visit : Visit} (hwork : visit.work = [])
    (hanswer : visit.Answers (.error err)) : FailedWith connect err attempt (visit :: visits) := by
  obtain ⟨later, first, rfl, hfirst, hlater⟩ := h.shape
  refine ⟨h.run, ⟨visit :: later, first, rfl, hfirst, ?_⟩, ?_⟩
  · exact List.forall_mem_cons.mpr ⟨hwork, hlater⟩
  · exact List.forall_mem_cons.mpr ⟨hanswer, h.same⟩

theorem ConnectedOn.push {on : Handle} {attempt : List (Event Fx)} {visits : List Visit}
    (h : ConnectedOn connect handle on attempt visits) {visit : Visit}
    (hwork : ∀ e ∈ visit.work, Lane.Uses on e) :
    ConnectedOn connect handle on attempt (visit :: visits) := by
  obtain ⟨later, first, use, rfl, hfirst, huse, hlater⟩ := h.shape
  refine ⟨h.run, visit :: later, first, use, rfl, hfirst, huse, ?_⟩
  exact List.forall_mem_cons.mpr ⟨hwork, hlater⟩

end

namespace Lane

variable {Config Deps Backend : Type} (lane : Lane Config Deps Backend)

/-- What the lane's cell and the events of a log have in common with its visits. -/
def At (slot : Slot Config Deps Backend) (cell : OnceLock Backend) (log : List (Event Fx))
    (visits : List Visit) : Prop :=
  ∃ attempt, CellAt (lane.connect slot) lane.handle cell attempt visits ∧
    attempts lane.capability log = attempts lane.capability attempt

/-- A lane of a wired slot, at any time. -/
def Once (slot : Slot Config Deps Backend) (log : List (Event Fx)) (visits : List Visit) : Prop :=
  ∃ attempt, ConnectOnce (lane.connect slot) lane.handle attempt visits ∧
    attempts lane.capability log = attempts lane.capability attempt

private theorem call_set {slot : Slot Config Deps Backend} {outcome : Except EgressError Backend}
    {action payload : String} {attempt es : List (Event Fx)} {older : List Visit}
    (call : WireCall) {q : Fab (Except EgressError String × Option (Slot Config Deps Backend))}
    (hcell : CellAt (lane.connect slot) lane.handle (some outcome) attempt older)
    (hs : Prog.Steps (lane.call (some { slot with backend := some outcome }) action payload) es q) :
    attempts lane.capability es = [] ∧
      ConnectOnce (lane.connect slot) lane.handle attempt (⟨call, es, none⟩ :: older) ∧
      ∀ r, q = .ret r → ∃ outcome', r.2 = some { slot with backend := some outcome' } ∧
        CellAt (lane.connect slot) lane.handle (some outcome') attempt
          (⟨call, es, some (.reply r.1)⟩ :: older) := by
  cases outcome with
  | error err =>
    rw [lane.call_failed rfl] at hs
    obtain ⟨rfl, rfl⟩ := Prog.steps_ret hs
    refine ⟨rfl, .failed (hcell.push rfl (.inl rfl)), ?_⟩
    rintro _ ⟨rfl⟩
    exact ⟨.error err, rfl, hcell.push rfl (.inr rfl)⟩
  | ok backend =>
    obtain ⟨huses, hend⟩ := (lane.call_connected rfl action payload).steps hs
    refine ⟨attempts_uses huses, .connected (hcell.push huses), ?_⟩
    rintro r rfl
    obtain ⟨backend', hslot, hhandle⟩ := hend
    refine ⟨.ok backend', hslot, ?_⟩
    have hpush : ConnectedOn (lane.connect slot) lane.handle (lane.handle backend) attempt
        (⟨call, es, some (.reply r.1)⟩ :: older) := ConnectedOn.push hcell huses
    rwa [← hhandle] at hpush

private theorem call_after {slot : Slot Config Deps Backend} {outcome : Except EgressError Backend}
    {action payload : String} {attempt es : List (Event Fx)} (call : WireCall)
    {q : Fab (Except EgressError String × Option (Slot Config Deps Backend))}
    (hrun : Prog.Steps (lane.connect slot) attempt (.ret outcome))
    (hs : Prog.Steps (lane.call (some { slot with backend := some outcome }) action payload) es q) :
    attempts lane.capability es = [] ∧
      ConnectOnce (lane.connect slot) lane.handle attempt [⟨call, attempt ++ es, none⟩] ∧
      ∀ r, q = .ret r → ∃ outcome', r.2 = some { slot with backend := some outcome' } ∧
        CellAt (lane.connect slot) lane.handle (some outcome') attempt
          [⟨call, attempt ++ es, some (.reply r.1)⟩] := by
  cases outcome with
  | error err =>
    rw [lane.call_failed rfl] at hs
    obtain ⟨rfl, rfl⟩ := Prog.steps_ret hs
    have hfailed (response : Option WireResponse)
        (h : response = none ∨ response = some (.reply (.error err))) :
        FailedWith (lane.connect slot) err attempt [⟨call, attempt ++ [], response⟩] :=
      ⟨hrun, ⟨[], _, rfl, List.append_nil _, by simp⟩, by simpa [Visit.Answers] using h⟩
    refine ⟨rfl, .failed (hfailed none (.inl rfl)), ?_⟩
    rintro _ ⟨rfl⟩
    exact ⟨.error err, rfl, hfailed _ (.inr rfl)⟩
  | ok backend =>
    obtain ⟨huses, hend⟩ := (lane.call_connected rfl action payload).steps hs
    have hconnected (response : Option WireResponse) :
        ConnectedOn (lane.connect slot) lane.handle (lane.handle backend) attempt
          [⟨call, attempt ++ es, response⟩] :=
      ⟨⟨backend, rfl, hrun⟩, [], _, es, rfl, rfl, huses, by simp⟩
    refine ⟨attempts_uses huses, .connected (hconnected none), ?_⟩
    rintro r rfl
    obtain ⟨backend', hslot, hhandle⟩ := hend
    refine ⟨.ok backend', hslot, ?_⟩
    have h := hconnected (some (.reply r.1))
    rwa [← hhandle] at h

/-- The step lemma: a call keeps what the cell says of the visits, and at every moment of
it the lane has made one attempt at most. -/
theorem call_steps {slot : Slot Config Deps Backend} {cell : OnceLock Backend}
    {action payload : String} {log es : List (Event Fx)} {older : List Visit} (call : WireCall)
    {q : Fab (Except EgressError String × Option (Slot Config Deps Backend))}
    (h : lane.At slot cell log older)
    (hs : Prog.Steps (lane.call (some { slot with backend := cell }) action payload) es q) :
    lane.Once slot (log ++ es) (⟨call, es, none⟩ :: older) ∧
      ∀ r, q = .ret r → ∃ outcome, r.2 = some { slot with backend := some outcome } ∧
        lane.At slot (some outcome) (log ++ es) (⟨call, es, some (.reply r.1)⟩ :: older) := by
  obtain ⟨attempt, hcell, hattempts⟩ := h
  have hjoin (attempt es : List (Event Fx)) (hlog : attempts lane.capability log = [])
      (hes : attempts lane.capability es = []) :
      attempts lane.capability (log ++ (attempt ++ es)) = attempts lane.capability attempt := by
    rw [attempts_append, attempts_append, hlog, hes, List.nil_append, List.append_nil]
  cases cell with
  | some outcome =>
    obtain ⟨hnone, honce, hend⟩ := lane.call_set call hcell hs
    have hsame : attempts lane.capability (log ++ es) = attempts lane.capability attempt := by
      rw [attempts_append, hnone, List.append_nil, hattempts]
    refine ⟨⟨attempt, honce, hsame⟩, fun r hr => ?_⟩
    obtain ⟨outcome', hslot, hcell'⟩ := hend r hr
    exact ⟨outcome', hslot, attempt, hcell', hsame⟩
  | none =>
    obtain ⟨rfl, rfl⟩ := hcell
    rw [lane.call_first rfl, lane.connect_cell] at hs
    have hafter {outcome : Except EgressError Backend} {cs us : List (Event Fx)}
        (hrun : Prog.Steps (lane.connect slot) cs (.ret outcome))
        (huse : Prog.Steps (lane.call (some { slot with backend := some outcome }) action payload)
          us q) (hes : es = cs ++ us) :
        lane.Once slot (log ++ es) [⟨call, es, none⟩] ∧
          ∀ r, q = .ret r → ∃ outcome, r.2 = some { slot with backend := some outcome } ∧
            lane.At slot (some outcome) (log ++ es) [⟨call, es, some (.reply r.1)⟩] := by
      subst hes
      obtain ⟨hnone, honce, hend⟩ := lane.call_after call hrun huse
      refine ⟨⟨cs, honce, hjoin cs us hattempts hnone⟩, fun r hr => ?_⟩
      obtain ⟨outcome', hslot, hcell'⟩ := hend r hr
      exact ⟨outcome', hslot, cs, hcell', hjoin cs us hattempts hnone⟩
    rcases Prog.steps_bind hs with ⟨rest, hrun, rfl⟩ | ⟨cs, us, outcome, hes, hrun, huse⟩
    · cases rest with
      | ret outcome => exact hafter hrun (.refl _) (List.append_nil _).symm
      | act op k =>
        have hsame := hjoin es [] hattempts rfl
        rw [List.append_nil] at hsame
        refine ⟨⟨es, .attempting hrun, hsame⟩, ?_⟩
        rintro r ⟨⟩
    · exact hafter hrun huse hes

/-- A lane over a session, at any time: `slot` is the one wired after `Ack`, if any. -/
def Orderly : Option (Slot Config Deps Backend) → List (Event Fx) → List Visit → Prop
  | none, log, visits =>
    (∀ e ∈ log, e.op.call.capability ≠ some lane.capability) ∧
      ∀ visit ∈ visits, visit.work = [] ∧
        visit.Answers (.error (notConfigured lane.capability.name))
  | some slot, log, visits => lane.Once slot log visits

/-- A lane between two frames, with the slot it has now. -/
def Rests : Option (Slot Config Deps Backend) → Option (Slot Config Deps Backend) →
    List (Event Fx) → List Visit → Prop
  | none, now, log, visits => now = none ∧ lane.Orderly none log visits
  | some slot, now, log, visits =>
    ∃ cell, now = some { slot with backend := cell } ∧ lane.At slot cell log visits

variable {lane} in
theorem Rests.orderly {slot now : Option (Slot Config Deps Backend)} {log : List (Event Fx)}
    {visits : List Visit} (h : lane.Rests slot now log visits) : lane.Orderly slot log visits := by
  cases slot with
  | none => exact h.2
  | some slot =>
    obtain ⟨cell, -, attempt, hcell, hattempts⟩ := h
    exact ⟨attempt, hcell.connectOnce, hattempts⟩

variable {lane} in
theorem Rests.append {slot now : Option (Slot Config Deps Backend)} {log es : List (Event Fx)}
    {visits : List Visit} (h : lane.Rests slot now log visits)
    (hes : ∀ e ∈ es, e.op.call.capability ≠ some lane.capability) :
    lane.Rests slot now (log ++ es) visits := by
  have hnone : attempts lane.capability es = [] :=
    List.filter_eq_nil_iff.mpr fun e he => by simp [hes e he]
  cases slot with
  | none =>
    obtain ⟨hnow, hlog, hvisits⟩ := h
    exact ⟨hnow, List.forall_mem_append.mpr ⟨hlog, hes⟩, hvisits⟩
  | some slot =>
    obtain ⟨cell, hnow, attempt, hcell, hattempts⟩ := h
    refine ⟨cell, hnow, attempt, hcell, ?_⟩
    rw [attempts_append, hnone, List.append_nil, hattempts]

/-- The step lemma over a wired or unwired slot. -/
theorem rests_call {slot now : Option (Slot Config Deps Backend)} {action payload : String}
    {log es : List (Event Fx)} {older : List Visit} (call : WireCall)
    {q : Fab (Except EgressError String × Option (Slot Config Deps Backend))}
    (h : lane.Rests slot now log older)
    (hs : Prog.Steps (lane.call now action payload) es q) :
    lane.Orderly slot (log ++ es) (⟨call, es, none⟩ :: older) ∧
      ∀ r, q = .ret r →
        lane.Rests slot r.2 (log ++ es) (⟨call, es, some (.reply r.1)⟩ :: older) := by
  cases slot with
  | none =>
    obtain ⟨rfl, hlog, holder⟩ := h
    obtain ⟨rfl, rfl⟩ := Prog.steps_ret hs
    rw [List.append_nil]
    refine ⟨⟨hlog, List.forall_mem_cons.mpr ⟨⟨rfl, .inl rfl⟩, holder⟩⟩, ?_⟩
    rintro _ ⟨rfl⟩
    exact ⟨rfl, hlog, List.forall_mem_cons.mpr ⟨⟨rfl, .inr rfl⟩, holder⟩⟩
  | some slot =>
    obtain ⟨cell, rfl, hat⟩ := h
    obtain ⟨honce, hend⟩ := lane.call_steps call hat hs
    refine ⟨honce, fun r hr => ?_⟩
    obtain ⟨outcome, hslot, hat'⟩ := hend r hr
    exact ⟨some outcome, hslot, hat'⟩

end Lane

/-- The attempt of a lane is made with the config of its slot. -/
theorem Lane.Orderly.connects {Config Deps Backend : Type} {lane : Lane Config Deps Backend}
    {slot : Option (Slot Config Deps Backend)} {log : List (Event Fx)} {visits : List Visit}
    (h : lane.Orderly slot log visits) {e : Event Fx} (he : e ∈ log)
    (hmine : e.op.call.capability = some lane.capability) (hattempt : e.op.call.attempt = true) :
    ∃ s, slot = some s ∧ lane.Connects s.config e.op.call := by
  cases slot with
  | none => exact absurd hmine (h.1 e he)
  | some s =>
    obtain ⟨attempt, honce, hsame⟩ := h
    obtain ⟨rest, hrun⟩ := honce.run
    have hmem : e ∈ attempts lane.capability log :=
      List.mem_filter.mpr ⟨he, by simp [hmine, hattempt]⟩
    rw [hsame] at hmem
    rcases ((lane.connect_only s).steps hrun).1 e (List.mem_filter.mp hmem).1 with h | hnow
    · exact ⟨s, rfl, h⟩
    · rw [hnow] at hmine
      cases hmine

/-! ## Tracks -/

/-- What is kept of one capability's part of the set: `Orderly` of its visits at any time,
`Rests` between two calls, and the step lemma from one to the other. -/
structure Track (σ : Type) where
  capability : Capability
  call : σ → String → String → Fab (Except EgressError String × σ)
  Orderly : List (Event Fx) → List Visit → Prop
  Rests : σ → List (Event Fx) → List Visit → Prop
  orderly : ∀ {s log visits}, Rests s log visits → Orderly log visits
  append : ∀ {s log es visits}, Rests s log visits →
    (∀ e ∈ es, e.op.call.capability ≠ some capability) → Rests s (log ++ es) visits
  step : ∀ {s log es older q} (request : WireCall), Rests s log older →
    Prog.Steps (call s request.action request.payload) es q →
      Orderly (log ++ es) (⟨request, es, none⟩ :: older) ∧ ∀ r, q = .ret r →
        Rests r.2 (log ++ es) (⟨request, es, some (.reply r.1)⟩ :: older)

/-- The track of a lane, from the slot that was wired. -/
def Lane.track {Config Deps Backend : Type} (lane : Lane Config Deps Backend)
    (slot : Option (Slot Config Deps Backend)) : Track (Option (Slot Config Deps Backend)) where
  capability := lane.capability
  call := lane.call
  Orderly := lane.Orderly slot
  Rests := lane.Rests slot
  orderly := Lane.Rests.orderly
  append := Lane.Rests.append
  step request h hs := lane.rests_call request h hs

/-- A producer over its calls: everything it asks the broker follows its config. -/
def AmqOrderly : Option Amq.AmqProducer → List (Event Fx) → List Visit → Prop
  | none, log, visits =>
    (∀ e ∈ log, e.op.call.capability ≠ some .amq) ∧
      ∀ visit ∈ visits, visit.work = [] ∧ visit.Answers (.error (notConfigured "amq"))
  | some producer, log, _ =>
    ∀ e ∈ log, e.op.call.capability = some .amq → Amq.Follows producer.config e.op.call

def amqCall (lib : Lib) (producer : Option Amq.AmqProducer) (action payload : String) :
    Fab (Except EgressError String × Option Amq.AmqProducer) :=
  match producer with
  | none => .ret (.error (notConfigured "amq"), none)
  | some producer => producer.call lib action payload >>= fun r =>
    .ret (r.1.mapError Amq.AmqError.intoResourceError, some r.2)

def amqTrack (lib : Lib) (producer : Option Amq.AmqProducer) : Track (Option Amq.AmqProducer) where
  capability := .amq
  call := amqCall lib
  Orderly := AmqOrderly producer
  Rests now log visits :=
    now.map Amq.AmqProducer.config = producer.map Amq.AmqProducer.config ∧
      AmqOrderly producer log visits
  orderly h := h.2
  append {now log es visits} h hes := by
    refine ⟨h.1, ?_⟩
    cases producer with
    | none => exact ⟨List.forall_mem_append.mpr ⟨h.2.1, hes⟩, h.2.2⟩
    | some producer =>
      refine List.forall_mem_append.mpr ⟨h.2, fun e he hamq => ?_⟩
      exact absurd hamq (hes e he)
  step {now log es older q} request h hs := by
    obtain ⟨hconfig, horderly⟩ := h
    cases producer with
    | none =>
      cases now with
      | some now => cases hconfig
      | none =>
        obtain ⟨rfl, rfl⟩ := Prog.steps_ret hs
        rw [List.append_nil]
        obtain ⟨hlog, holder⟩ := horderly
        refine ⟨⟨hlog, List.forall_mem_cons.mpr ⟨⟨rfl, .inl rfl⟩, holder⟩⟩, ?_⟩
        rintro _ ⟨rfl⟩
        exact ⟨rfl, hlog, List.forall_mem_cons.mpr ⟨⟨rfl, .inr rfl⟩, holder⟩⟩
    | some producer =>
      cases now with
      | none => cases hconfig
      | some now =>
        have hsame : now.config = producer.config := Option.some.inj hconfig
        have hcall : (amqCall lib (some now) request.action request.payload).Sat
            (On fun call => Amq.Follows now.config call ∨ call = .now)
            (fun r => r.2.map Amq.AmqProducer.config = some now.config) := by
          refine (Lane.sat_of_lockstep (Amq.call_lockstep lib request.payload rfl request.action)).bind
            fun r hr => ?_
          obtain ⟨_, _, _, hkept⟩ := hr
          exact congrArg some hkept
        obtain ⟨hfollows, hend⟩ := hcall.steps hs
        rw [hsame] at hfollows
        have hlog : ∀ e ∈ log ++ es, e.op.call.capability = some .amq →
            Amq.Follows producer.config e.op.call := by
          refine List.forall_mem_append.mpr ⟨horderly, fun e he hamq => ?_⟩
          rcases hfollows e he with h | hnow
          · exact h
          · rw [hnow] at hamq
            cases hamq
        refine ⟨hlog, ?_⟩
        rintro r rfl
        exact ⟨hend.trans hconfig, hlog⟩

/-! ## Between the frames -/

def spawned (call : WireCall) : Event Fx := ⟨⟨.spawnBlocking call, none⟩, .ok ()⟩

/-- The event of a response written, well or not. -/
def written (response : WireResponse) (result : Except String Unit) : Event Fx :=
  ⟨⟨.writeFrame response, none⟩, result⟩

/-- An event outside every call. -/
def Outer : Event Fx → Prop
  | ⟨⟨.readFrame _, _⟩, _⟩ | ⟨⟨.writeFrame _, _⟩, _⟩ | ⟨⟨.authFailuresFetchAdd, _⟩, _⟩ => True
  | ⟨⟨.spawnBlocking _, _⟩, joined⟩ => (joined : Except String Unit).isOk = false
  | _ => False

def AllClosed (visits : List Visit) : Prop := ∀ visit ∈ visits, visit.response ≠ none

private theorem modifyHead_close {visits : List Visit} (h : AllClosed visits)
    (response : WireResponse) :
    visits.modifyHead (·.close response) = visits := by
  cases visits with
  | nil => rfl
  | cons visit older =>
    obtain ⟨call, work, answer⟩ := visit
    cases answer with
    | none => exact absurd rfl (h _ List.mem_cons_self)
    | some answer => rfl

theorem visits_outer {log : List (Event Fx)} {e : Event Fx} (h : AllClosed (visits log))
    (he : Outer e) : visits (log ++ [e]) = visits log := by
  rw [visits_snoc]
  obtain ⟨⟨call, budget⟩, answer⟩ := e
  cases call with
  | readFrame _ => rfl
  | authFailuresFetchAdd => rfl
  | writeFrame response => exact modifyHead_close h response
  | spawnBlocking call =>
    cases answer with
    | ok _ => cases he
    | error _ => rfl
  | _ => exact he.elim

theorem outer_capability {e : Event Fx} (he : Outer e) : e.op.call.capability = none := by
  obtain ⟨⟨call, budget⟩, answer⟩ := e
  cases call <;> first | rfl | exact he.elim

/-- Metrics are written as they are in the set. -/
def Reports (self : BackendSet) (e : Event Fx) : Prop :=
  ∀ metrics result, e = written (.metrics metrics) result → metrics = self.metrics

theorem reports_written {self : BackendSet} {response : WireResponse}
    (h : ∀ metrics, response ≠ .metrics metrics) (result : Except String Unit) :
    Reports self (written response result) := by
  intro metrics result' heq
  injection heq with hop _
  injection hop with hcall _
  injection hcall with hresponse
  exact absurd hresponse (h metrics)

theorem reports_silent {self : BackendSet} {e : Event Fx}
    (h : ∀ response, e.op.call ≠ .writeFrame response) : Reports self e := by
  rintro metrics result rfl
  exact absurd rfl (h (.metrics metrics))

/-- The loop lemma: what holds between two frames, is untouched by events outside calls
and is restored by each call, holds throughout. -/
theorem serveCalls_reports (lib : Lib) {I : List (Event Fx) → Prop}
    {R : BackendSet → List (Event Fx) → Prop} (hI : ∀ {self log}, R self log → I log)
    (houter : ∀ {self log e}, R self log → Outer e → Reports self e → R self (log ++ [e]))
    (hcall : ∀ {self log} call, R self log → ∀ es q, Prog.Steps (self.call lib call) es q →
      I (log ++ [spawned call] ++ es) ∧ ∀ r, q = .ret r → ∀ result,
        R r.2 (log ++ [spawned call] ++ es ++ [written (.reply r.1) result]))
    (input : Input) {self : BackendSet} {log : List (Event Fx)} (h : R self log) :
    (serveCalls lib self input).run.Meets (Prog.history I) (fun log' _ => ∃ self', R self' log')
      log := by
  have hanswer (self : BackendSet) (log : List (Event Fx)) (h : R self log)
      (request : WireRequest) : (answer lib self request).Meets (Prog.history I)
        (fun log' r => ∀ result, R r.2 (log' ++ [written r.1 result])) log := by
    cases request with
    | init init =>
      exact fun result => houter h trivial (reports_written (fun _ => WireResponse.noConfusion) result)
    | drain =>
      intro result
      refine houter h trivial fun metrics result' heq => ?_
      injection heq with hop _
      injection hop with hcall _
      injection hcall with hresponse
      injection hresponse with hmetrics
      exact hmetrics.symm
    | call call =>
      show (dispatch lib self call).Meets _ _ _
      rw [dispatch_joined]
      intro joined
      cases joined with
      | error err =>
        have hjoin := houter (e := ⟨⟨.spawnBlocking call, none⟩, .error err⟩) h rfl
          (reports_silent fun _ => Call.noConfusion)
        exact ⟨hI hjoin, fun result =>
          houter hjoin trivial (reports_written (fun _ => WireResponse.noConfusion) result)⟩
      | ok done =>
        have hstart := (hcall call h [] _ (.refl _)).1
        rw [List.append_nil] at hstart
        refine ⟨hstart, ?_⟩
        refine Prog.Meets.bind (Q := fun log' (r : Except EgressError String × BackendSet) =>
          ∀ result, R r.2 (log' ++ [written (.reply r.1) result])) ?_ fun log' r hr => hr
        exact Prog.meets_history (fun es q hs => (hcall call h es q hs).1)
          fun es r hs => (hcall call h es _ hs).2 r rfl
  have hread {self : BackendSet} {log : List (Event Fx)} (h : R self log)
      (frame : Option (Except String WireRequest)) (got : Unit) :
      R self (log ++ [⟨⟨.readFrame frame, none⟩, got⟩]) :=
    houter h trivial (reports_silent fun _ => Call.noConfusion)
  induction input generalizing self log with
  | nil => exact fun got => ⟨hI (hread h none got), self, hread h none got⟩
  | cons frame input ih =>
    cases frame with
    | error err => exact fun got => ⟨hI (hread h _ got), self, hread h _ got⟩
    | ok request =>
      rw [serveCalls_ok]
      intro got
      refine ⟨hI (hread h _ got), ?_⟩
      refine (hanswer self _ (hread h _ got) request).bind fun log' r hr => ?_
      intro result
      refine ⟨hI (hr result), ?_⟩
      cases result with
      | ok _ => exact ih (hr (.ok ()))
      | error err => exact ⟨r.2, hr (.error err)⟩

end Fabricd
