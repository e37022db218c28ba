import Fabricd.Admission

/-!
# The permits come back

Every permit of the QUIC listener that was taken has been returned or is held by a running
connection, and from any moment on the connections can end and leave all of them free.
-/

namespace Fabricd

open Framework

/-! ## Taken and returned -/

/-- The event takes a permit. -/
def QuicEvent.takes : QuicEvent → Bool
  | .acquired => true
  | _ => false

def QuicEvent.returns : QuicEvent → Bool
  | .handshake _ ok | .acceptBi _ ok => !ok
  | _ => false

/-- How a running connection ends: its handshake fails, or it is closed. -/
def Connection.ending (task : Connection) : QuicEvent :=
  if task.established then .acceptBi task.id false else .handshake task.id false

/-- The sessions return, and then the connections end. -/
def QuicState.wrapUp (s : QuicState) : List QuicEvent :=
  s.sessions.map .served ++ s.tasks.map Connection.ending

section

variable {cap : Nat} {s s' : QuicState}

/-- The step lemma: a task starts with the permit it takes and ends with returning it. -/
theorem quicStep_tasks {e : QuicEvent} (hs : quicStep cap s e = some s') :
    s'.tasks.length + e.returns.toNat = s.tasks.length + e.takes.toNat := by
  have hrelease {task : Connection} (hmem : task ∈ s.tasks) :
      (s.release task).tasks.length + 1 = s.tasks.length := by
    have hlen := List.length_erase_of_mem hmem
    have hpos := List.length_pos_of_mem hmem
    simp only [QuicState.release, hlen]
    omega
  replace hs := quicStep_eq hs
  cases e with
  | incoming | closed | acquired | served =>
    obtain ⟨-, rfl⟩ := hs
    rfl
  | handshake id ok =>
    cases ok with
    | false =>
      obtain ⟨hmem, rfl⟩ := hs
      exact hrelease hmem
    | true =>
      obtain ⟨hmem, rfl⟩ := hs
      have hlen := (List.perm_cons_erase hmem).length_eq
      simpa [QuicEvent.returns, QuicEvent.takes] using hlen.symm
  | acceptBi id ok =>
    cases ok with
    | false =>
      obtain ⟨hmem, rfl⟩ := hs
      exact hrelease hmem
    | true =>
      obtain ⟨-, rfl⟩ := hs
      rfl

/-- The run lemma. -/
theorem run_tasks {events : List QuicEvent} (hrun : (quicMachine cap).run s events = some s') :
    s'.tasks.length + events.countP QuicEvent.returns =
      s.tasks.length + events.countP QuicEvent.takes := by
  induction events generalizing s with
  | nil =>
    cases hrun
    rfl
  | cons e events ih =>
    rw [Machine.run_cons] at hrun
    obtain ⟨t, hstep, hrest⟩ := Option.bind_eq_some_iff.mp hrun
    have hfirst := quicStep_tasks hstep
    have hlater := ih hrest
    have hcount (p : QuicEvent → Bool) : (e :: events).countP p = events.countP p + (p e).toNat := by
      rw [List.countP_cons]
      cases p e <;> rfl
    rw [hcount, hcount]
    omega

/-! ## Winding up -/

private theorem run_served (sessions : List Nat) :
    (quicMachine cap).run { s with sessions := sessions } (sessions.map .served) =
      some { s with sessions := [] } := by
  induction sessions with
  | nil => rfl
  | cons id sessions ih =>
    have hstep : (quicMachine cap).step { s with sessions := id :: sessions } (.served id) =
        some { s with sessions := sessions } := by
      simp [quicMachine, quicStep]
    rw [List.map_cons, Machine.run_cons, hstep]
    exact ih

private theorem ending_step {task : Connection} (hmem : task ∈ s.tasks) :
    (quicMachine cap).step s task.ending = some (s.release task) := by
  obtain ⟨id, established⟩ := task
  cases established <;> simp [quicMachine, quicStep, Connection.ending, hmem]

private theorem run_endings (permits : Nat) (tasks : List Connection) :
    (quicMachine cap).run { s with permits := permits, tasks := tasks }
      (tasks.map Connection.ending) =
        some { s with permits := permits + tasks.length, tasks := [] } := by
  induction tasks generalizing permits with
  | nil => rfl
  | cons task tasks ih =>
    rw [List.map_cons, Machine.run_cons, ending_step List.mem_cons_self, QuicState.release]
    simp only [List.erase_cons_head, Option.bind_some]
    rw [ih, List.length_cons]
    congr 2
    omega

private theorem run_wrapUp : (quicMachine cap).run s s.wrapUp =
    some { s with permits := s.permits + s.tasks.length, tasks := [], sessions := [] } := by
  have hserved : (quicMachine cap).run s (s.sessions.map .served) = some { s with sessions := [] } :=
    run_served s.sessions
  rw [QuicState.wrapUp, Machine.run_append, hserved]
  exact run_endings (s := { s with sessions := [] }) s.permits s.tasks

/-- No permit is lost, whatever happens: each one taken was returned or is held by a running
connection; once the connections have ended all are free; and the end of any one of them
lets in the connection that waits. -/
theorem permits_come_back {maxConnections : Nat} {events : List QuicEvent}
    (hrun : (quicMachine cap).run (.boot maxConnections) events = some s) :
    (events.countP QuicEvent.takes = events.countP QuicEvent.returns + s.tasks.length ∧
        s.permits + s.tasks.length = maxConnections) ∧
      (quicMachine cap).run s s.wrapUp =
        some { s with permits := maxConnections, tasks := [], sessions := [] } ∧
      ∀ task ∈ s.tasks, s.loop = .acquiring →
        ∃ t, (quicMachine cap).run s [task.ending, .acquired] = some t ∧
          t.loop = .accepting ∧ t.permits = s.permits ∧ t.sessions = s.sessions := by
  have htasks := run_tasks hrun
  simp only [QuicState.boot, List.length_nil] at htasks
  have hall := (run_sound hrun).permits
  refine ⟨⟨by omega, hall⟩, by rw [run_wrapUp, hall], fun task hmem hloop => ?_⟩
  rw [Machine.run_cons, ending_step hmem]
  let next : QuicState :=
    { s with
      loop := .accepting
      accepted := s.accepted + 1
      tasks := ⟨s.accepted, false⟩ :: s.tasks.erase task }
  refine ⟨next, ?_, rfl, rfl, rfl⟩
  simp [quicMachine, quicStep, QuicState.release, hloop, next]

end

/-- One connection with a session, and one that waits for its permit. -/
def crowded : QuicState := ⟨.acquiring, 0, 1, [⟨0, true⟩], [0]⟩

theorem permits_come_back_crowded :
    (quicMachine 8).run crowded [.served 0, .acceptBi 0 false] =
        some { crowded with permits := 1, tasks := [], sessions := [] } ∧
      ∃ t, (quicMachine 8).run crowded [.acceptBi 0 false, .acquired] = some t ∧
        t.loop = .accepting ∧ t.permits = 0 ∧ t.sessions = [0] := by
  have hrun : (quicMachine 8).run (.boot 1)
      [.incoming, .acquired, .handshake 0 true, .acceptBi 0 true, .incoming] = some crowded := rfl
  obtain ⟨-, hwrap, hnext⟩ := permits_come_back hrun
  exact ⟨hwrap, hnext ⟨0, true⟩ List.mem_cons_self rfl⟩

end Fabricd
