import Fabricd.Framework.Machine
import Mathlib.Algebra.BigOperators.Group.Finset.Basic
import Mathlib.Algebra.Order.BigOperators.Group.Finset

/-!
# Admission of QUIC sessions

The accept loop of the QUIC listener, the connection tasks that hold its permits and the
session tasks they spawn, under any order of what the network and the sessions do.
-/

namespace Fabricd

open Framework

/-! ## The listener -/

/-- Where `quic_accept_loop` stands: at `endpoint.accept()`, or waiting for a permit with
an incoming connection in hand, or returned. -/
inductive QuicLoop where
  | accepting
  | acquiring
  | ended
  deriving DecidableEq

/-- A `handle_quic_connection` task: before or after its handshake. -/
structure Connection where
  id : Nat
  established : Bool
  deriving DecidableEq

/-- The listener and what it has spawned. `permits` are the free ones of `conn_limit`;
every task holds one. A session is listed by the connection its stream came from. -/
structure QuicState where
  loop : QuicLoop
  permits : Nat
  accepted : Nat
  tasks : List Connection
  sessions : List Nat
  deriving DecidableEq

inductive QuicEvent where
  /-- `endpoint.accept()` yields a connection. -/
  | incoming
  /-- `endpoint.accept()` yields `None`: the endpoint is closed. -/
  | closed
  /-- `acquire_owned()` resolves. -/
  | acquired
  /-- `incoming.await` resolves. -/
  | handshake (id : Nat) (ok : Bool)
  /-- `connection.accept_bi()` resolves: a stream, or the connection is over. -/
  | acceptBi (id : Nat) (ok : Bool)
  /-- One `serve` of the connection returns. -/
  | served (id : Nat)

/-- A connection task returns, and its permit is dropped. -/
def QuicState.release (s : QuicState) (task : Connection) : QuicState :=
  { s with permits := s.permits + 1, tasks := s.tasks.erase task }

/-- One event of the listener. `cap` is the transport's cap on the open bidirectional
streams of a connection; a session holds its stream until it returns. Nothing closes the
semaphore. -/
def quicStep (cap : Nat) (s : QuicState) : QuicEvent → Option QuicState
  | .incoming => if s.loop = .accepting then some { s with loop := .acquiring } else none
  | .closed => if s.loop = .accepting then some { s with loop := .ended } else none
  | .acquired =>
    if s.loop = .acquiring ∧ 0 < s.permits then
      some { s with
        loop := .accepting
        permits := s.permits - 1
        accepted := s.accepted + 1
        tasks := ⟨s.accepted, false⟩ :: s.tasks }
    else none
  | .handshake id ok =>
    if ⟨id, false⟩ ∈ s.tasks then
      if ok then some { s with tasks := ⟨id, true⟩ :: s.tasks.erase ⟨id, false⟩ }
      else some (s.release ⟨id, false⟩)
    else none
  | .acceptBi id ok =>
    if ⟨id, true⟩ ∈ s.tasks then
      if ok then
        if s.sessions.count id < cap then some { s with sessions := id :: s.sessions } else none
      else some (s.release ⟨id, true⟩)
    else none
  | .served id =>
    if id ∈ s.sessions then some { s with sessions := s.sessions.erase id } else none

def quicMachine (cap : Nat) : Machine QuicState QuicEvent where
  step := quicStep cap

/-- The listener at boot, with `Semaphore::new(max_connections)`. -/
def QuicState.boot (maxConnections : Nat) : QuicState := ⟨.accepting, maxConnections, 0, [], []⟩

/-! ## What the permits bound -/

private theorem length_le_of_counts {α : Type} [DecidableEq α] {cap : Nat} {keys values : List α}
    (hmem : ∀ a ∈ values, a ∈ keys) (hcount : ∀ k ∈ keys, values.count k ≤ cap) :
    values.length ≤ keys.length * cap := by
  induction keys generalizing values with
  | nil =>
    have hnil : values = [] := List.eq_nil_iff_forall_not_mem.mpr fun a ha => by simpa using hmem a ha
    simp [hnil]
  | cons k keys ih =>
    have hsplit : values.length = values.count k + (values.filter (· ≠ k)).length := by
      have h := List.length_eq_countP_add_countP (fun a => a == k) (l := values)
      rw [h, List.count, List.countP_eq_length_filter (p := fun a => ¬ (a == k) = true)]
      congr 2
      apply List.filter_congr
      intro a _
      simp
    have hrest : (values.filter (· ≠ k)).length ≤ keys.length * cap := by
      apply ih
      · intro a ha
        obtain ⟨ha, hne⟩ := List.mem_filter.mp ha
        rcases List.mem_cons.mp (hmem a ha) with rfl | h
        · simp at hne
        · exact h
      · intro j hj
        exact (List.filter_sublist.count_le j).trans (hcount j (List.mem_cons_of_mem _ hj))
    have hk := hcount k List.mem_cons_self
    rw [List.length_cons, Nat.add_mul, Nat.one_mul]
    omega

def QuicState.live (s : QuicState) : List Nat := s.tasks.map Connection.id

/-- The sessions whose connection's task is running. -/
def QuicState.liveSessions (s : QuicState) : List Nat := s.sessions.filter (· ∈ s.live)

/-- Whatever happens: the permits add up, and no running connection has more sessions than
its streams allow. -/
structure Sound (maxConnections cap : Nat) (s : QuicState) : Prop where
  permits : s.permits + s.tasks.length = maxConnections
  known : ∀ id ∈ s.live, id < s.accepted
  seen : ∀ id ∈ s.sessions, id < s.accepted
  distinct : s.live.Nodup
  quiet : ∀ id, ⟨id, false⟩ ∈ s.tasks → id ∉ s.sessions
  streams : ∀ id ∈ s.live, s.sessions.count id ≤ cap

section

variable {maxConnections cap : Nat} {s s' : QuicState}

/-- What one event can do, guards included. -/
theorem quicStep_eq {e : QuicEvent} (hs : quicStep cap s e = some s') :
    match e with
    | .incoming => s.loop = .accepting ∧ s' = { s with loop := .acquiring }
    | .closed => s.loop = .accepting ∧ s' = { s with loop := .ended }
    | .acquired => (s.loop = .acquiring ∧ 0 < s.permits) ∧ s' =
        { s with
          loop := .accepting
          permits := s.permits - 1
          accepted := s.accepted + 1
          tasks := ⟨s.accepted, false⟩ :: s.tasks }
    | .handshake id true => ⟨id, false⟩ ∈ s.tasks ∧
        s' = { s with tasks := ⟨id, true⟩ :: s.tasks.erase ⟨id, false⟩ }
    | .handshake id false => ⟨id, false⟩ ∈ s.tasks ∧ s' = s.release ⟨id, false⟩
    | .acceptBi id true => (⟨id, true⟩ ∈ s.tasks ∧ s.sessions.count id < cap) ∧
        s' = { s with sessions := id :: s.sessions }
    | .acceptBi id false => ⟨id, true⟩ ∈ s.tasks ∧ s' = s.release ⟨id, true⟩
    | .served id => id ∈ s.sessions ∧ s' = { s with sessions := s.sessions.erase id } := by
  cases e with
  | handshake id ok =>
    simp only [quicStep, Option.ite_none_right_eq_some] at hs
    cases ok with
    | true => exact ⟨hs.1, (Option.some.inj hs.2).symm⟩
    | false => exact ⟨hs.1, (Option.some.inj hs.2).symm⟩
  | acceptBi id ok =>
    simp only [quicStep, Option.ite_none_right_eq_some] at hs
    cases ok with
    | true =>
      obtain ⟨hroom, hs'⟩ := Option.ite_none_right_eq_some.mp hs.2
      exact ⟨⟨hs.1, hroom⟩, (Option.some.inj hs').symm⟩
    | false => exact ⟨hs.1, (Option.some.inj hs.2).symm⟩
  | _ =>
    obtain ⟨hguard, hs'⟩ := Option.ite_none_right_eq_some.mp hs
    exact ⟨hguard, (Option.some.inj hs').symm⟩

private theorem boot_sound : Sound maxConnections cap (.boot maxConnections) := by
  constructor <;> simp [QuicState.boot, QuicState.live]

theorem Sound.release (h : Sound maxConnections cap s) {task : Connection} (hmem : task ∈ s.tasks) :
    Sound maxConnections cap (s.release task) := by
  have hsub : (s.tasks.erase task).Sublist s.tasks := List.erase_sublist
  have hlive : ∀ id ∈ (s.release task).live, id ∈ s.live := fun id hid => (hsub.map _).subset hid
  have hlen := List.length_erase_of_mem hmem
  have hpos := List.length_pos_of_mem hmem
  have hpermits := h.permits
  exact
    { permits := by
        simp only [QuicState.release, hlen]
        omega
      known := fun id hid => h.known id (hlive id hid)
      seen := h.seen
      distinct := h.distinct.sublist (hsub.map _)
      quiet := fun id hid => h.quiet id (hsub.subset hid)
      streams := fun id hid => h.streams id (hlive id hid) }

/-- The step lemma. -/
theorem Sound.step (h : Sound maxConnections cap s) {e : QuicEvent}
    (hs : quicStep cap s e = some s') : Sound maxConnections cap s' := by
  replace hs := quicStep_eq hs
  cases e with
  | incoming =>
    obtain ⟨-, rfl⟩ := hs
    exact ⟨h.permits, h.known, h.seen, h.distinct, h.quiet, h.streams⟩
  | closed =>
    obtain ⟨-, rfl⟩ := hs
    exact ⟨h.permits, h.known, h.seen, h.distinct, h.quiet, h.streams⟩
  | acquired =>
    obtain ⟨⟨-, hfree⟩, rfl⟩ := hs
    have hpermits := h.permits
    have hnew : s.accepted ∉ s.sessions := fun hin => Nat.lt_irrefl _ (h.seen _ hin)
    constructor
    · simp only [List.length_cons]
      omega
    · intro id hid
      rcases List.mem_cons.mp hid with rfl | hid
      · exact Nat.lt_succ_self _
      · exact Nat.lt_succ_of_lt (h.known id hid)
    · exact fun id hid => Nat.lt_succ_of_lt (h.seen id hid)
    · apply List.nodup_cons.mpr
      exact ⟨fun hin => Nat.lt_irrefl _ (h.known _ hin), h.distinct⟩
    · intro id hid
      rcases List.mem_cons.mp hid with heq | hid
      · cases heq
        exact hnew
      · exact h.quiet id hid
    · intro id hid
      rcases List.mem_cons.mp hid with rfl | hid
      · simp [List.count_eq_zero.mpr hnew]
      · exact h.streams id hid
  | handshake id ok =>
    cases ok with
    | false =>
      obtain ⟨hmem, rfl⟩ := hs
      exact h.release hmem
    | true =>
      obtain ⟨hmem, rfl⟩ := hs
      -- the task keeps its connection, so the running ones are the same
      have hlive : (⟨id, true⟩ :: s.tasks.erase ⟨id, false⟩ : List Connection).map Connection.id
          |>.Perm s.live := ((List.perm_cons_erase hmem).map Connection.id).symm
      constructor
      · have hlen := hlive.length_eq
        simp only [List.length_map, QuicState.live] at hlen
        simp only [hlen]
        exact h.permits
      · exact fun j hj => h.known j (hlive.mem_iff.mp hj)
      · exact h.seen
      · exact hlive.nodup_iff.mpr h.distinct
      · intro j hj
        rcases List.mem_cons.mp hj with heq | hj
        · cases heq
        · exact h.quiet j (List.mem_of_mem_erase hj)
      · exact fun j hj => h.streams j (hlive.mem_iff.mp hj)
  | acceptBi id ok =>
    cases ok with
    | false =>
      obtain ⟨hmem, rfl⟩ := hs
      exact h.release hmem
    | true =>
      obtain ⟨⟨hmem, hroom⟩, rfl⟩ := hs
      have hid : id ∈ s.live := List.mem_map_of_mem hmem
      constructor
      · exact h.permits
      · exact h.known
      · intro j hj
        rcases List.mem_cons.mp hj with rfl | hj
        · exact h.known _ hid
        · exact h.seen j hj
      · exact h.distinct
      · intro j hj hin
        rcases List.mem_cons.mp hin with rfl | hin
        · cases List.inj_on_of_nodup_map h.distinct hj hmem rfl
        · exact h.quiet j hj hin
      · intro j hj
        have hold := h.streams j hj
        by_cases hsame : j = id
        · subst hsame
          simp only [List.count_cons_self]
          omega
        · simpa [List.count_cons, Ne.symm hsame] using hold
  | served id =>
    obtain ⟨-, rfl⟩ := hs
    have hsub : (s.sessions.erase id).Sublist s.sessions := List.erase_sublist
    constructor
    · exact h.permits
    · exact h.known
    · exact fun id hid => h.seen id (hsub.subset hid)
    · exact h.distinct
    · exact fun id hid hin => h.quiet id hid (hsub.subset hin)
    · exact fun id hid => (hsub.count_le id).trans (h.streams id hid)

theorem run_sound {events : List QuicEvent}
    (hrun : (quicMachine cap).run (.boot maxConnections) events = some s) :
    Sound maxConnections cap s :=
  Machine.run_invariant (M := quicMachine cap) (fun h hs => h.step hs) boot_sound hrun

/-- The sessions of running connections stay within the caps, whatever happens. -/
theorem Sound.live_within_caps (h : Sound maxConnections cap s) :
    s.liveSessions.length ≤ maxConnections * cap := by
  have hcounts : s.liveSessions.length ≤ s.live.length * cap := by
    apply length_le_of_counts
    · intro id hid
      simpa using (List.mem_filter.mp hid).2
    · intro id hid
      exact (List.filter_sublist.count_le id).trans (h.streams id hid)
  have hpermits := h.permits
  have htasks : s.live.length ≤ maxConnections := by
    rw [QuicState.live, List.length_map]
    omega
  exact hcounts.trans (Nat.mul_le_mul_right cap htasks)

/-! ## Sessions that outlive their connection -/

/-- A connection ends only once none of its sessions is served any more. -/
def Drained (s : QuicState) : QuicEvent → Prop
  | .acceptBi id false => id ∉ s.sessions
  | _ => True

/-- Every session's connection is running. -/
def Housed (s : QuicState) : Prop := ∀ id ∈ s.sessions, id ∈ s.live

theorem Housed.release (h : Housed s) (task : Connection) (hidle : task.id ∉ s.sessions) :
    Housed (s.release task) := by
  intro id hid
  obtain ⟨other, hother, rfl⟩ := List.mem_map.mp (h id hid)
  have hne : other ≠ task := by
    rintro rfl
    exact hidle hid
  exact List.mem_map_of_mem ((List.mem_erase_of_ne hne).mpr hother)

theorem Housed.step (h : Housed s) (hsound : Sound maxConnections cap s) {e : QuicEvent}
    (hdrained : Drained s e) (hs : quicStep cap s e = some s') : Housed s' := by
  replace hs := quicStep_eq hs
  cases e with
  | incoming =>
    obtain ⟨-, rfl⟩ := hs
    exact h
  | closed =>
    obtain ⟨-, rfl⟩ := hs
    exact h
  | acquired =>
    obtain ⟨-, rfl⟩ := hs
    exact fun id hid => List.mem_cons_of_mem _ (h id hid)
  | handshake id ok =>
    cases ok with
    | false =>
      obtain ⟨hmem, rfl⟩ := hs
      exact h.release ⟨id, false⟩ (hsound.quiet id hmem)
    | true =>
      obtain ⟨hmem, rfl⟩ := hs
      have hrest := h.release ⟨id, false⟩ (hsound.quiet id hmem)
      exact fun j hj => List.mem_cons_of_mem _ (hrest j hj)
  | acceptBi id ok =>
    cases ok with
    | false =>
      obtain ⟨-, rfl⟩ := hs
      exact h.release _ hdrained
    | true =>
      obtain ⟨⟨hmem, -⟩, rfl⟩ := hs
      intro j hj
      rcases List.mem_cons.mp hj with rfl | hj
      · exact List.mem_map_of_mem hmem
      · exact h j hj
  | served id =>
    obtain ⟨-, rfl⟩ := hs
    exact fun j hj => h j (List.mem_of_mem_erase hj)

/-- Over every run whose connections drain before they end, the sessions stay within the
caps at every moment. -/
theorem sessions_within_caps {events : List QuicEvent}
    (hdrained : (quicMachine cap).Along Drained (.boot maxConnections) events)
    (hrun : (quicMachine cap).run (.boot maxConnections) events = some s) :
    s.sessions.length ≤ maxConnections * cap := by
  have hboot : Housed (.boot maxConnections) := fun id hid => by cases hid
  obtain ⟨hsound, hhoused⟩ := Machine.Along.invariant (M := quicMachine cap)
    (I := fun s => Sound maxConnections cap s ∧ Housed s)
    (fun h hC hs => ⟨h.1.step hs, h.2.step h.1 hC hs⟩) ⟨boot_sound, hboot⟩ hdrained hrun
  have hall : s.liveSessions = s.sessions := List.filter_eq_self.mpr fun id hid => by
    simpa using hhoused id hid
  rw [← hall]
  exact hsound.live_within_caps

end

/-- A connection that serves one session to its end, and the next connection. -/
def drainedRun : List QuicEvent :=
  [.incoming, .acquired, .handshake 0 true, .acceptBi 0 true, .served 0, .acceptBi 0 false,
    .incoming, .acquired, .handshake 1 true, .acceptBi 1 true]

/-- The second connection has its one session. -/
def drainedState : QuicState := ⟨.accepting, 0, 2, [⟨1, true⟩], [1]⟩

theorem sessions_within_caps_drained : drainedState.sessions.length ≤ 1 * 1 := by
  have hdrained : (quicMachine 1).Along Drained (.boot 1) drainedRun :=
    ⟨trivial, trivial, trivial, trivial, trivial, List.not_mem_nil, trivial, trivial, trivial,
      trivial, trivial⟩
  have hrun : (quicMachine 1).run (.boot 1) drainedRun = some drainedState := by decide
  exact sessions_within_caps hdrained hrun

/-- A connection that ends while its one session is still served. -/
def outlived (id : Nat) : List QuicEvent :=
  [.incoming, .acquired, .handshake id true, .acceptBi id true, .acceptBi id false]

private theorem outlived_run {maxConnections cap accepted : Nat} {sessions : List Nat}
    (hpermit : 0 < maxConnections) (hcap : 0 < cap) (hnew : accepted ∉ sessions) :
    (quicMachine cap).run ⟨.accepting, maxConnections, accepted, [], sessions⟩ (outlived accepted) =
      some ⟨.accepting, maxConnections, accepted + 1, [], accepted :: sessions⟩ := by
  have hcount := List.count_eq_zero.mpr hnew
  simp [outlived, quicMachine, quicStep, QuicState.release, hpermit, hcap, hcount,
    Nat.sub_add_cancel hpermit]

/-- One permit and one stream a connection leave the sessions without any bound. -/
theorem sessions_unbounded {maxConnections cap : Nat} (hpermit : 0 < maxConnections)
    (hcap : 0 < cap) (n : Nat) : ∃ events s,
      (quicMachine cap).run (.boot maxConnections) events = some s ∧ s.sessions.length = n := by
  have hrounds : ∃ events sessions,
      (quicMachine cap).run (.boot maxConnections) events =
        some ⟨.accepting, maxConnections, n, [], sessions⟩ ∧
      sessions.length = n ∧ ∀ id ∈ sessions, id < n := by
    induction n with
    | zero => exact ⟨[], [], rfl, rfl, List.forall_mem_nil _⟩
    | succ n ih =>
      obtain ⟨events, sessions, hrun, hlen, hseen⟩ := ih
      have hnew : n ∉ sessions := fun hin => Nat.lt_irrefl _ (hseen n hin)
      refine ⟨events ++ outlived n, n :: sessions, ?_, by simp [hlen], ?_⟩
      · rw [Machine.run_append, hrun]
        exact outlived_run hpermit hcap hnew
      · intro id hid
        rcases List.mem_cons.mp hid with rfl | hid
        · exact Nat.lt_succ_self _
        · exact Nat.lt_succ_of_lt (hseen id hid)
  obtain ⟨events, sessions, hrun, hlen, -⟩ := hrounds
  exact ⟨events, _, hrun, hlen⟩

/-- Two sessions under caps of one connection and one stream. -/
theorem detached_sessions_exceed_caps :
    ¬ ∀ (maxConnections cap : Nat) (events : List QuicEvent) (s : QuicState),
      (quicMachine cap).run (.boot maxConnections) events = some s →
        s.sessions.length ≤ maxConnections * cap := by
  intro h
  have hrun : (quicMachine 1).run (.boot 1) (outlived 0 ++ outlived 1) =
      some ⟨.accepting, 1, 2, [], [1, 0]⟩ := by decide
  exact absurd (h 1 1 _ _ hrun) (by decide)

end Fabricd
