import Fabricd.Sessions

/-!
# The chronicle of a capability

The calls of a lazy capability, each as a run of the backend that the calls before it left.
-/

namespace Fabricd

open Framework Db Mongo Mail Kv Amq Auth ClientAuth

namespace Lane

variable {Config Deps Backend : Type} (lane : Lane Config Deps Backend)

/-- The answered calls of a slot, the newest first, and the cell they left. -/
inductive Chronicle (slot : Slot Config Deps Backend) :
    OnceLock Backend → List Visit → Prop where
  | unused : Chronicle slot none []
  | failed {visit : Visit} {err : EgressError}
      (attempt : Prog.Steps (lane.connect slot) visit.work (.ret (.error err)))
      (answer : visit.response = some (.reply (.error err))) :
      Chronicle slot (some (.error err)) [visit]
  | refused {visit : Visit} {older : List Visit} {err : EgressError}
      (before : Chronicle slot (some (.error err)) older) (idle : visit.work = [])
      (answer : visit.response = some (.reply (.error err))) :
      Chronicle slot (some (.error err)) (visit :: older)
  | connected {visit : Visit} {attempt use : List (Event Fx)} {backend : Backend}
      {r : Except EgressError String × Backend}
      (opened : Prog.Steps (lane.connect slot) attempt (.ret (.ok backend)))
      (ran : Prog.Steps (lane.run visit.call.action visit.call.payload backend) use (.ret r))
      (work : visit.work = attempt ++ use) (answer : visit.response = some (.reply r.1)) :
      Chronicle slot (some (.ok r.2)) [visit]
  | served {visit : Visit} {older : List Visit} {backend : Backend}
      {r : Except EgressError String × Backend}
      (before : Chronicle slot (some (.ok backend)) older)
      (ran : Prog.Steps (lane.run visit.call.action visit.call.payload backend) visit.work (.ret r))
      (answer : visit.response = some (.reply r.1)) :
      Chronicle slot (some (.ok r.2)) (visit :: older)

/-- The calls of a slot at any time: the newest may lack its response. -/
inductive Unfolding (slot : Slot Config Deps Backend) : List Visit → Prop where
  | rest {cell : OnceLock Backend} {visits : List Visit} (before : lane.Chronicle slot cell visits) :
      Unfolding slot visits
  | connecting {visit : Visit} {q : Fab (Except EgressError Backend)}
      (attempt : Prog.Steps (lane.connect slot) visit.work q) (waiting : visit.response = none) :
      Unfolding slot [visit]
  | refusing {visit : Visit} {older : List Visit} {err : EgressError}
      (before : lane.Chronicle slot (some (.error err)) older) (idle : visit.work = [])
      (waiting : visit.response = none) : Unfolding slot (visit :: older)
  | starting {visit : Visit} {attempt use : List (Event Fx)} {backend : Backend}
      {q : Fab (Except EgressError String × Backend)}
      (opened : Prog.Steps (lane.connect slot) attempt (.ret (.ok backend)))
      (ran : Prog.Steps (lane.run visit.call.action visit.call.payload backend) use q)
      (work : visit.work = attempt ++ use) (waiting : visit.response = none) : Unfolding slot [visit]
  | serving {visit : Visit} {older : List Visit} {backend : Backend}
      {q : Fab (Except EgressError String × Backend)}
      (before : lane.Chronicle slot (some (.ok backend)) older)
      (ran : Prog.Steps (lane.run visit.call.action visit.call.payload backend) visit.work q)
      (waiting : visit.response = none) : Unfolding slot (visit :: older)

theorem chronicle_none {slot : Slot Config Deps Backend} {visits : List Visit}
    (h : lane.Chronicle slot none visits) : visits = [] := by
  cases h
  rfl

theorem chronicle_some {slot : Slot Config Deps Backend} {cell : OnceLock Backend}
    (h : lane.Chronicle slot cell []) : cell = none := by
  cases h
  rfl

private theorem chronicle_unique {slot : Slot Config Deps Backend} {cell cell' : OnceLock Backend}
    {visits : List Visit} (h : lane.Chronicle slot cell visits)
    (h' : lane.Chronicle slot cell' visits) : cell = cell' := by
  have hsame {work attempt use : List (Event Fx)} {outcome outcome' : Except EgressError Backend}
      (hs : Prog.Steps (lane.connect slot) work (.ret outcome))
      (hs' : Prog.Steps (lane.connect slot) attempt (.ret outcome'))
      (hwork : work = attempt ++ use) : outcome = outcome' :=
    (hs.complete_unique hs' (by rw [List.append_nil]; exact hwork)).2.2
  induction h generalizing cell' with
  | unused => exact (lane.chronicle_some h').symm
  | failed attempt _ =>
    cases h' with
    | failed attempt' _ => exact congrArg some (hsame attempt attempt' (List.append_nil _).symm)
    | refused before _ _ => cases lane.chronicle_some before
    | connected opened _ work _ => cases hsame attempt opened work
    | served before _ _ => cases lane.chronicle_some before
  | refused before _ _ ih =>
    cases h' with
    | failed _ _ => cases lane.chronicle_some before
    | refused before' _ _ => exact ih before'
    | connected _ _ _ _ => cases lane.chronicle_some before
    | served before' _ _ => cases ih before'
  | connected opened ran work _ =>
    cases h' with
    | failed attempt' _ => cases hsame attempt' opened work
    | refused before _ _ => cases lane.chronicle_some before
    | connected opened' ran' work' _ =>
      obtain ⟨rfl, rfl, hbackend⟩ := opened.complete_unique opened' (work.symm.trans work')
      cases hbackend
      cases ran.unique ran'
      rfl
    | served before _ _ => cases lane.chronicle_some before
  | served before ran _ ih =>
    cases h' with
    | failed _ _ => cases lane.chronicle_some before
    | refused before' _ _ => cases ih before'
    | connected _ _ _ _ => cases lane.chronicle_some before
    | served before' ran' _ =>
      cases ih before'
      cases ran.unique ran'
      rfl

/-- A call of a connected backend: the first, after its attempt, or a later one; `use` is
what it asked for once the backend was there. -/
inductive Served (slot : Slot Config Deps Backend) :
    List Visit → Visit → Backend → List (Event Fx) → Prop where
  | first {visit : Visit} {attempt use : List (Event Fx)} {backend : Backend}
      (opened : Prog.Steps (lane.connect slot) attempt (.ret (.ok backend)))
      (work : visit.work = attempt ++ use) : Served slot [] visit backend use
  | later {older : List Visit} {visit : Visit} {backend : Backend}
      (before : lane.Chronicle slot (some (.ok backend)) older) :
      Served slot older visit backend visit.work

theorem unfolding_older {slot : Slot Config Deps Backend} {newer visits : List Visit}
    (h : lane.Unfolding slot (newer ++ visits)) : lane.Unfolding slot visits := by
  induction newer with
  | nil => exact h
  | cons visit newer ih =>
    rw [List.cons_append] at h
    refine ih ?_
    have hdone {cell : OnceLock Backend} {visits : List Visit}
        (h : lane.Chronicle slot cell (visit :: visits)) : lane.Unfolding slot visits := by
      cases h with
      | failed _ _ => exact .rest .unused
      | refused before _ _ => exact .rest before
      | connected _ _ _ _ => exact .rest .unused
      | served before _ _ => exact .rest before
    generalize newer ++ visits = rest at h ⊢
    cases h with
    | rest before => exact hdone before
    | connecting _ _ => exact .rest .unused
    | refusing before _ _ => exact .rest before
    | starting _ _ _ _ => exact .rest .unused
    | serving before _ _ => exact .rest before

theorem served_ran {slot : Slot Config Deps Backend} {older : List Visit} {visit : Visit}
    {backend : Backend} {use : List (Event Fx)} (h : lane.Unfolding slot (visit :: older))
    (hserved : lane.Served slot older visit backend use) :
    ∃ q, Prog.Steps (lane.run visit.call.action visit.call.payload backend) use q ∧
      ∀ response, visit.response = some response → ∃ r, q = .ret r ∧ response = .reply r.1 := by
  cases hserved with
  | @first _ attempt use backend opened work =>
    cases h with
    | rest before =>
      cases before with
      | failed attempt' _ =>
        have hwhole : visit.work ++ [] = attempt ++ use := by rw [List.append_nil, work]
        cases (attempt'.complete_unique opened hwhole).2.2
      | refused before _ _ => cases lane.chronicle_some before
      | connected opened' ran work' answer =>
        obtain ⟨rfl, rfl, hbackend⟩ := opened'.complete_unique opened (work'.symm.trans work)
        cases hbackend
        exact ⟨_, ran, fun response hr => ⟨_, rfl, Option.some.inj (hr.symm.trans answer)⟩⟩
      | served before _ _ => cases lane.chronicle_some before
    | connecting attempt' waiting =>
      rw [work] at attempt'
      obtain ⟨rfl, -⟩ := opened.complete attempt'
      exact ⟨_, .refl _, fun response hr => by rw [waiting] at hr; cases hr⟩
    | refusing before _ _ => cases lane.chronicle_some before
    | starting opened' ran work' waiting =>
      obtain ⟨rfl, rfl, hbackend⟩ := opened'.complete_unique opened (work'.symm.trans work)
      cases hbackend
      exact ⟨_, ran, fun response hr => by rw [waiting] at hr; cases hr⟩
    | serving before _ _ => cases lane.chronicle_some before
  | later before =>
    cases h with
    | rest before' =>
      cases before' with
      | failed _ _ => cases lane.chronicle_some before
      | refused before' _ _ => cases lane.chronicle_unique before before'
      | connected _ _ _ _ => cases lane.chronicle_some before
      | served before' ran answer =>
        cases lane.chronicle_unique before before'
        exact ⟨_, ran, fun response hr => ⟨_, rfl, Option.some.inj (hr.symm.trans answer)⟩⟩
    | connecting _ _ => cases lane.chronicle_some before
    | refusing before' _ _ => cases lane.chronicle_unique before before'
    | starting _ _ _ _ => cases lane.chronicle_some before
    | serving before' ran waiting =>
      cases lane.chronicle_unique before before'
      exact ⟨_, ran, fun response hr => by rw [waiting] at hr; cases hr⟩

theorem call_backend {slot : Slot Config Deps Backend} {backend : Backend} {action payload : String} :
    lane.call (some { slot with backend := some (.ok backend) }) action payload =
      lane.run action payload backend >>= fun r =>
        .ret (r.1, some { slot with backend := some (.ok r.2) }) := rfl

theorem steps_bind_pure {α β : Type} {p : Fab α} {f : α → β} {es : List (Event Fx)} {q : Fab β}
    (h : Prog.Steps (p >>= fun a => .ret (f a)) es q) :
    ∃ rest, Prog.Steps p es rest ∧ ∀ b, q = .ret b → ∃ a, rest = .ret a ∧ b = f a := by
  rcases Prog.steps_bind h with ⟨rest, hrun, rfl⟩ | ⟨es₁, es₂, a, rfl, hrun, hrest⟩
  · refine ⟨rest, hrun, fun b hb => ?_⟩
    cases rest with
    | act op k => cases hb
    | ret a =>
      cases hb
      exact ⟨a, rfl, rfl⟩
  · obtain ⟨rfl, rfl⟩ := Prog.steps_ret hrest
    refine ⟨.ret a, by simpa using hrun, fun b hb => ?_⟩
    cases hb
    exact ⟨a, rfl, rfl⟩

/-- The step lemma: a call adds one visit to the chronicle. -/
theorem chronicle_call {slot : Slot Config Deps Backend} {cell : OnceLock Backend}
    {es : List (Event Fx)} {older : List Visit} (call : WireCall)
    {q : Fab (Except EgressError String × Option (Slot Config Deps Backend))}
    (h : lane.Chronicle slot cell older)
    (hs : Prog.Steps (lane.call (some { slot with backend := cell }) call.action call.payload) es q) :
    lane.Unfolding slot (⟨call, es, none⟩ :: older) ∧
      ∀ r, q = .ret r → ∃ cell', r.2 = some { slot with backend := cell' } ∧
        lane.Chronicle slot cell' (⟨call, es, some (.reply r.1)⟩ :: older) := by
  cases cell with
  | some outcome =>
    cases outcome with
    | error err =>
      rw [lane.call_failed rfl] at hs
      obtain ⟨rfl, rfl⟩ := Prog.steps_ret hs
      refine ⟨.refusing h rfl rfl, ?_⟩
      rintro _ ⟨rfl⟩
      exact ⟨some (.error err), rfl, .refused h rfl rfl⟩
    | ok backend =>
      rw [call_backend] at hs
      obtain ⟨rest, hrun, hend⟩ := steps_bind_pure hs
      refine ⟨.serving h hrun rfl, fun r hr => ?_⟩
      obtain ⟨a, rfl, rfl⟩ := hend r hr
      exact ⟨some (.ok a.2), rfl, .served h hrun rfl⟩
  | none =>
    cases lane.chronicle_none h
    rw [lane.call_first rfl, lane.connect_cell] at hs
    have hafter {outcome : Except EgressError Backend} {attempt use : List (Event Fx)}
        (hopen : Prog.Steps (lane.connect slot) attempt (.ret outcome))
        (huse : Prog.Steps (lane.call (some { slot with backend := some outcome }) call.action
          call.payload) use q) (hes : es = attempt ++ use) :
        lane.Unfolding slot [⟨call, es, none⟩] ∧
          ∀ r, q = .ret r → ∃ cell', r.2 = some { slot with backend := cell' } ∧
            lane.Chronicle slot cell' [⟨call, es, some (.reply r.1)⟩] := by
      cases outcome with
      | error err =>
        rw [lane.call_failed rfl] at huse
        obtain ⟨rfl, rfl⟩ := Prog.steps_ret huse
        rw [List.append_nil] at hes
        subst hes
        refine ⟨.connecting hopen rfl, ?_⟩
        rintro _ ⟨rfl⟩
        exact ⟨some (.error err), rfl, .failed hopen rfl⟩
      | ok backend =>
        rw [call_backend] at huse
        obtain ⟨rest, hrun, hend⟩ := steps_bind_pure huse
        refine ⟨.starting hopen hrun hes rfl, fun r hr => ?_⟩
        obtain ⟨a, rfl, rfl⟩ := hend r hr
        exact ⟨some (.ok a.2), rfl, .connected hopen hrun hes rfl⟩
    rcases Prog.steps_bind hs with ⟨rest, hrun, rfl⟩ | ⟨attempt, use, outcome, hes, hrun, huse⟩
    · cases rest with
      | ret outcome => exact hafter hrun (.refl _) (List.append_nil _).symm
      | act op k =>
        refine ⟨.connecting hrun rfl, ?_⟩
        rintro r ⟨⟩
    · exact hafter hrun huse hes

/-- The calls of a lane at any time: `slot` is the one wired after `Ack`, if any. -/
def Told : Option (Slot Config Deps Backend) → List Visit → Prop
  | none, visits => ∀ visit ∈ visits, visit.work = [] ∧
      visit.Answers (.error (notConfigured lane.capability.name))
  | some slot, visits => lane.Unfolding slot visits

/-- The calls of a lane between two frames, with the slot it has now. -/
def Tells : Option (Slot Config Deps Backend) → Option (Slot Config Deps Backend) →
    List Visit → Prop
  | none, now, visits => now = none ∧ ∀ visit ∈ visits, visit.work = [] ∧
      visit.Answers (.error (notConfigured lane.capability.name))
  | some slot, now, visits =>
    ∃ cell, now = some { slot with backend := cell } ∧ lane.Chronicle slot cell visits

def chronicle (slot : Option (Slot Config Deps Backend)) :
    Track (Option (Slot Config Deps Backend)) where
  capability := lane.capability
  call := lane.call
  Orderly _ := lane.Told slot
  Rests now _ := lane.Tells slot now
  orderly {now log visits} h := by
    cases slot with
    | none => exact h.2
    | some slot =>
      obtain ⟨cell, -, hchronicle⟩ := h
      exact .rest hchronicle
  append h _ := h
  step {now log es older q} request h hs := by
    cases slot with
    | none =>
      obtain ⟨rfl, holder⟩ := h
      obtain ⟨rfl, rfl⟩ := Prog.steps_ret hs
      refine ⟨List.forall_mem_cons.mpr ⟨⟨rfl, .inl rfl⟩, holder⟩, ?_⟩
      rintro _ ⟨rfl⟩
      exact ⟨rfl, List.forall_mem_cons.mpr ⟨⟨rfl, .inr rfl⟩, holder⟩⟩
    | some slot =>
      obtain ⟨cell, rfl, hchronicle⟩ := h
      exact lane.chronicle_call request hchronicle hs

theorem tells_fresh {slot : Option (Slot Config Deps Backend)}
    (h : ∀ s, slot = some s → s.backend = none) : lane.Tells slot slot [] := by
  cases slot with
  | none => exact ⟨rfl, List.forall_mem_nil _⟩
  | some slot =>
    obtain ⟨config, deps, cell⟩ := slot
    cases h _ rfl
    exact ⟨none, rfl, .unused⟩

end Lane

/-- The chronicle of a lane over a whole session. -/
theorem serve_chronicle {Config Deps Backend : Type} (lane : Lane Config Deps Backend) (lib : Lib)
    (shared : Shared) (authenticator : Authenticator) (port : Port lib lane.capability lane.call)
    {input : Input}
    (hfresh : ∀ s, port.get (wired shared authenticator input) = some s → s.backend = none)
    {log : List (Event Fx)} {q : Fab (Except String Unit)}
    (hs : Prog.Steps (serve lib shared authenticator input).run log q) :
    lane.Told (port.get (wired shared authenticator input)) (visitsOf lane.capability log) :=
  (serve_track lib shared authenticator (lane.chronicle _) port (lane.tells_fresh hfresh) hs).2

end Fabricd
