import Fabricd.Admission

/-!
# The listeners of the daemon

`run_listeners` selects over three accept loops and the shutdown signal, and returns with
whichever resolves first. What each loop makes of an accept error decides who survives it.
-/

namespace Fabricd

open Framework

/-! ## `run_listeners` -/

/-- Where an accept loop stands: at `listener.accept()`, parked for good, or returned. -/
inductive AcceptLoop where
  | accepting
  | parked
  | ended
  deriving DecidableEq

/-- How `shutdown_signal()` resolves: a signal is received, or its handler could not be
installed. -/
inductive Shutdown where
  | ctrlC
  | ctrlCFailed
  | terminate
  | terminateFailed
  deriving DecidableEq

/-- An outcome one of the selected futures waits for; the errors are those of `accept()`. -/
inductive ListenerEvent where
  | uds (accepted : Except String Unit)
  | quic (event : QuicEvent)
  | metrics (accepted : Except String Unit)
  | shutdown (cause : Shutdown)

/-- The selected futures, `none` where no listener is configured, and whether the select has
resolved. -/
structure Listeners where
  uds : Option AcceptLoop
  quic : Option QuicState
  metrics : Option AcceptLoop
  returned : Bool
  deriving DecidableEq

def Listeners.boot (uds : Bool) (quic : Option Nat) (metrics : Bool) : Listeners where
  uds := if uds then some .accepting else none
  quic := quic.map QuicState.boot
  metrics := if metrics then some .accepting else none
  returned := false

/-- `uds_accept_loop`: an accepted stream is served on a task of its own, an accept error
leaves the loop. -/
def udsAccept (loop : AcceptLoop) : Except String Unit → Option AcceptLoop
  | .ok _ => if loop = .accepting then some .accepting else none
  | .error _ => if loop = .accepting then some .ended else none

/-- `metrics_accept_loop`: an accept error parks the loop. -/
def metricsAccept (loop : AcceptLoop) : Except String Unit → Option AcceptLoop
  | .ok _ => if loop = .accepting then some .accepting else none
  | .error _ => if loop = .accepting then some .parked else none

/-- One event; a select that has resolved polls nothing any more. -/
def listenerStep (cap : Nat) (s : Listeners) (e : ListenerEvent) : Option Listeners :=
  if s.returned then none
  else
    match e with
    | .uds accepted => do
      let loop ← udsAccept (← s.uds) accepted
      return { s with uds := some loop, returned := loop = .ended }
    | .quic event => do
      let state ← quicStep cap (← s.quic) event
      return { s with quic := some state, returned := state.loop = .ended }
    | .metrics accepted => do
      let loop ← metricsAccept (← s.metrics) accepted
      return { s with metrics := some loop, returned := loop = .ended }
    | .shutdown _ => some { s with returned := true }

/-- `run_listeners`, with the transport's cap on the streams of a connection. -/
def listenerMachine (cap : Nat) : Machine Listeners ListenerEvent where
  step := listenerStep cap

/-! ## Who survives an accept error -/

def ListenerEvent.Signal : ListenerEvent → Prop
  | .shutdown .ctrlC | .shutdown .terminate => True
  | _ => False

def ListenerEvent.Closed : ListenerEvent → Prop
  | .quic .closed => True
  | _ => False

/-- The daemon survives the event: it is no accept error of the UDS listener, and no signal
handler that could not be installed. -/
def ListenerEvent.Survived : ListenerEvent → Prop
  | .uds (.error _) | .shutdown .ctrlCFailed | .shutdown .terminateFailed => False
  | _ => True

/-- `run_listeners` has not returned, and every listener is served but one that failed
itself. -/
structure InService (s : Listeners) (events : List ListenerEvent) : Prop where
  running : s.returned = false
  uds : ∀ loop, s.uds = some loop → (∀ err, .uds (.error err) ∉ events) → loop = .accepting
  quic : ∀ state, s.quic = some state → state.loop ≠ .ended
  metrics : ∀ loop, s.metrics = some loop →
    (∀ err, .metrics (.error err) ∉ events) → loop = .accepting

section

variable {cap : Nat} {s s' : Listeners} {e : ListenerEvent}

private theorem listenerStep_eq (h : listenerStep cap s e = some s') :
    s.returned = false ∧
      match e with
      | .uds accepted => ∃ loop loop', s.uds = some loop ∧ udsAccept loop accepted = some loop' ∧
          s' = { s with uds := some loop', returned := loop' = .ended }
      | .quic event => ∃ state state', s.quic = some state ∧ quicStep cap state event = some state' ∧
          s' = { s with quic := some state', returned := state'.loop = .ended }
      | .metrics accepted => ∃ loop loop', s.metrics = some loop ∧
          metricsAccept loop accepted = some loop' ∧
          s' = { s with metrics := some loop', returned := loop' = .ended }
      | .shutdown _ => s' = { s with returned := true } := by
  unfold listenerStep at h
  split at h
  · cases h
  · rename_i hrunning
    refine ⟨by simpa using hrunning, ?_⟩
    cases e with
    | uds accepted =>
      simp only [bind, Option.bind_eq_some_iff, pure, Option.some.injEq] at h
      obtain ⟨loop, hloop, loop', hstep, rfl⟩ := h
      exact ⟨loop, loop', hloop, hstep, rfl⟩
    | quic event =>
      simp only [bind, Option.bind_eq_some_iff, pure, Option.some.injEq] at h
      obtain ⟨state, hstate, state', hstep, rfl⟩ := h
      exact ⟨state, state', hstate, hstep, rfl⟩
    | metrics accepted =>
      simp only [bind, Option.bind_eq_some_iff, pure, Option.some.injEq] at h
      obtain ⟨loop, hloop, loop', hstep, rfl⟩ := h
      exact ⟨loop, loop', hloop, hstep, rfl⟩
    | shutdown cause => exact (Option.some.inj h).symm

private theorem quicStep_loop {q q' : QuicState} {event : QuicEvent}
    (h : quicStep cap q event = some q')
    (hopen : event ≠ .closed) (hloop : q.loop ≠ .ended) : q'.loop ≠ .ended := by
  replace h := quicStep_eq h
  cases event with
  | incoming =>
    obtain ⟨-, rfl⟩ := h
    simp
  | closed => exact absurd rfl hopen
  | acquired =>
    obtain ⟨-, rfl⟩ := h
    simp
  | handshake id ok =>
    cases ok with
    | false =>
      obtain ⟨-, rfl⟩ := h
      exact hloop
    | true =>
      obtain ⟨-, rfl⟩ := h
      exact hloop
  | acceptBi id ok =>
    cases ok with
    | false =>
      obtain ⟨-, rfl⟩ := h
      exact hloop
    | true =>
      obtain ⟨-, rfl⟩ := h
      exact hloop
  | served id =>
    obtain ⟨-, rfl⟩ := h
    exact hloop

/-- Between events that the daemon survives. -/
structure Serving (s : Listeners) : Prop where
  running : s.returned = false
  uds : ∀ loop, s.uds = some loop → loop = .accepting
  quic : ∀ state, s.quic = some state → state.loop ≠ .ended

theorem Serving.step (h : Serving s) (hsurvived : e.Survived) (hsignal : ¬ e.Signal)
    (hopen : ¬ e.Closed) (hs : listenerStep cap s e = some s') : Serving s' := by
  obtain ⟨-, hs⟩ := listenerStep_eq hs
  cases e with
  | uds accepted =>
    obtain ⟨loop, loop', hloop, haccept, rfl⟩ := hs
    cases h.uds loop hloop
    cases accepted with
    | error err => exact hsurvived.elim
    | ok _ =>
      cases haccept
      exact ⟨rfl, fun loop hloop => (Option.some.inj hloop).symm, h.quic⟩
  | quic event =>
    obtain ⟨state, state', hstate, hstep, rfl⟩ := hs
    have hclosed : event ≠ .closed := by
      rintro rfl
      exact hopen trivial
    have hloop := quicStep_loop hstep hclosed (h.quic state hstate)
    refine ⟨decide_eq_false hloop, h.uds, fun state hstate => ?_⟩
    cases hstate
    exact hloop
  | metrics accepted =>
    obtain ⟨loop, loop', hloop, haccept, rfl⟩ := hs
    refine ⟨?_, h.uds, h.quic⟩
    cases accepted with
    | ok _ =>
      simp only [metricsAccept, Option.ite_none_right_eq_some, Option.some.injEq] at haccept
      obtain ⟨-, rfl⟩ := haccept
      rfl
    | error err =>
      simp only [metricsAccept, Option.ite_none_right_eq_some, Option.some.injEq] at haccept
      obtain ⟨-, rfl⟩ := haccept
      rfl
  | shutdown cause =>
    cases cause with
    | ctrlC => exact absurd trivial hsignal
    | ctrlCFailed => exact hsurvived.elim
    | terminate => exact absurd trivial hsignal
    | terminateFailed => exact hsurvived.elim

private theorem metrics_step (h : ∀ loop, s.metrics = some loop → loop = .accepting)
    (hfine : ∀ err, e ≠ .metrics (.error err)) (hs : listenerStep cap s e = some s') :
    ∀ loop, s'.metrics = some loop → loop = .accepting := by
  obtain ⟨-, hs⟩ := listenerStep_eq hs
  cases e with
  | uds accepted =>
    obtain ⟨loop, loop', -, -, rfl⟩ := hs
    exact h
  | quic event =>
    obtain ⟨state, state', -, -, rfl⟩ := hs
    exact h
  | metrics accepted =>
    obtain ⟨loop, loop', hloop, haccept, rfl⟩ := hs
    cases h loop hloop
    cases accepted with
    | error err => exact absurd rfl (hfine err)
    | ok _ =>
      cases haccept
      exact fun loop hloop => (Option.some.inj hloop).symm
  | shutdown cause =>
    cases hs
    exact h

private theorem step_fatal (he : ¬ e.Survived) (hs : listenerStep cap s e = some s') :
    s'.returned = true := by
  obtain ⟨-, hs⟩ := listenerStep_eq hs
  cases e with
  | uds accepted =>
    obtain ⟨loop, loop', -, haccept, rfl⟩ := hs
    cases accepted with
    | ok _ => exact absurd trivial he
    | error err =>
      simp only [udsAccept, Option.ite_none_right_eq_some, Option.some.injEq] at haccept
      obtain ⟨-, rfl⟩ := haccept
      rfl
  | quic event => exact absurd trivial he
  | metrics accepted => exact absurd trivial he
  | shutdown cause =>
    cases hs
    rfl

private theorem run_returned (h : s.returned = true) {events : List ListenerEvent} {t : Listeners}
    (hrun : (listenerMachine cap).run s events = some t) : t.returned = true := by
  cases events with
  | nil =>
    cases hrun
    exact h
  | cons e events =>
    have hnone : (listenerMachine cap).step s e = none := if_pos h
    rw [Machine.run_cons, hnone] at hrun
    cases hrun

/-- Whatever the listeners accept and in whatever order: as long as no signal arrives and the
endpoint is open, no listener's accept error ends another's service exactly when every event
is one the daemon survives. -/
theorem listeners_in_service_iff {uds metrics : Bool} {quic : Option Nat}
    {events : List ListenerEvent}
    (hrun : (listenerMachine cap).run (.boot uds quic metrics) events = some s)
    (hsignal : ∀ e ∈ events, ¬ e.Signal) (hopen : ∀ e ∈ events, ¬ e.Closed) :
    InService s events ↔ ∀ e ∈ events, e.Survived := by
  constructor
  · intro h e he
    by_contra hfatal
    obtain ⟨before, after, rfl⟩ := List.append_of_mem he
    rw [Machine.run_append] at hrun
    obtain ⟨t, -, hrest⟩ := Option.bind_eq_some_iff.mp hrun
    rw [Machine.run_cons] at hrest
    obtain ⟨t', hstep, hafter⟩ := Option.bind_eq_some_iff.mp hrest
    have hreturned := run_returned (step_fatal hfatal hstep) hafter
    rw [h.running] at hreturned
    cases hreturned
  · intro hsurvived
    have hboot : Serving (.boot uds quic metrics) := by
      refine ⟨rfl, fun loop hloop => ?_, fun state hstate => ?_⟩
      · cases uds with
        | false => cases hloop
        | true => exact (Option.some.inj hloop).symm
      · obtain ⟨maxConnections, -, rfl⟩ := Option.map_eq_some_iff.mp hstate
        simp [QuicState.boot]
    have hquiet : ∀ e ∈ events, e.Survived ∧ ¬ e.Signal ∧ ¬ e.Closed := fun e he =>
      ⟨hsurvived e he, hsignal e he, hopen e he⟩
    have hserving := Machine.Along.invariant (M := listenerMachine cap) (I := Serving)
      (fun h hC hs => h.step hC.1 hC.2.1 hC.2.2 hs) hboot (Machine.along_of_forall hquiet _) hrun
    refine ⟨hserving.running, fun loop hloop _ => hserving.uds loop hloop, hserving.quic, ?_⟩
    intro loop hloop hfine
    have hbootm : ∀ loop, (Listeners.boot uds quic metrics).metrics = some loop →
        loop = .accepting := by
      intro loop hloop
      cases metrics with
      | false => cases hloop
      | true => exact (Option.some.inj hloop).symm
    have hfine' : ∀ e ∈ events, ∀ err, e ≠ .metrics (.error err) := by
      rintro e he err rfl
      exact hfine err he
    exact Machine.Along.invariant (M := listenerMachine cap)
      (I := fun s => ∀ loop, s.metrics = some loop → loop = .accepting)
      (fun h hC hs => metrics_step h hC hs) hbootm (Machine.along_of_forall hfine' _) hrun loop hloop

/-- A scrape that fails to be accepted leaves a QUIC connection coming in. -/
theorem listeners_in_service_iff_metrics :
    InService ⟨some .accepting, some ⟨.acquiring, 8, 0, [], []⟩, some .parked, false⟩
      [.metrics (.error "too many open files"), .quic .incoming] := by
  have hrun : (listenerMachine 1).run (.boot true (some 8) true)
      [.metrics (.error "too many open files"), .quic .incoming] =
        some ⟨some .accepting, some ⟨.acquiring, 8, 0, [], []⟩, some .parked, false⟩ := by decide
  exact (listeners_in_service_iff hrun (by simp [ListenerEvent.Signal])
    (by simp [ListenerEvent.Closed])).mpr (by simp [ListenerEvent.Survived])

/-- One accept error of the UDS listener ends the QUIC listener as well. -/
theorem uds_accept_error_ends_quic :
    ¬ ∀ (cap : Nat) (uds metrics : Bool) (quic : Option Nat) (events : List ListenerEvent)
      (s : Listeners), (listenerMachine cap).run (.boot uds quic metrics) events = some s →
      (∀ e ∈ events, ¬ e.Signal) → (∀ e ∈ events, ¬ e.Closed) → InService s events := by
  intro h
  have hrun : (listenerMachine 1).run (.boot true (some 8) false)
      [.uds (.error "too many open files")] =
        some ⟨some .ended, some ⟨.accepting, 8, 0, [], []⟩, none, true⟩ := by decide
  have hservice := h 1 true false (some 8) _ _ hrun (by simp [ListenerEvent.Signal])
    (by simp [ListenerEvent.Closed])
  cases hservice.running

end

end Fabricd
