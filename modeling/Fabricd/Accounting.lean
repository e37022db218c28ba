import Fabricd.Sessions
import Fabricd.Daemon

/-!
# Connect once, account for it

Each capability of a session opens one client at most, which is the session's own; and the
breaker hears of every `db` connect it admitted, once.
-/

namespace Fabricd

open Framework ClientAuth Db

/-! ## What is opened -/

/-- How many clients, connections or transports of a capability a run opens. -/
def opened (capability : Capability) (log : List (Event Fx)) : Nat :=
  log.countP fun e => Call.opens e.op.call && decide (e.op.call.capability = some capability)

private theorem Call.opens_attempt {call : Call} (h : call.opens = true) : call.attempt = true := by
  cases call with
  | db op => cases op <;> first | rfl | cases h
  | mongo op => cases op <;> first | rfl | cases h
  | mail op => cases op <;> first | rfl | cases h
  | redis op => cases op <;> first | rfl | cases h
  | auth op => cases op <;> first | rfl | cases h
  | _ => cases h

private theorem opened_attempts (capability : Capability) (log : List (Event Fx)) :
    opened capability log =
      (attempts capability log).countP fun e => Call.opens e.op.call := by
  unfold opened attempts
  rw [List.countP_filter]
  refine List.countP_congr fun e _ => ?_
  simp only [Bool.and_eq_true, decide_eq_true_eq]
  constructor
  · rintro ⟨hopens, hcapability⟩
    exact ⟨hopens, hcapability, Call.opens_attempt hopens⟩
  · rintro ⟨hopens, hcapability, -⟩
    exact ⟨hopens, hcapability⟩

section

variable {Backend : Type} {connect : Fab (Except EgressError Backend)} {handle : Backend → Handle}
  {attempt : List (Event Fx)} {visits : List Visit}

private theorem ConnectOnce.attempt_mem (h : ConnectOnce connect handle attempt visits) :
    ∀ e ∈ attempt, ∃ visit ∈ visits, e ∈ visit.work := by
  intro e he
  cases h with
  | unused => cases he
  | attempting run => exact ⟨_, List.mem_singleton_self _, he⟩
  | failed h =>
    obtain ⟨later, first, rfl, hfirst, -⟩ := h.shape
    exact ⟨first, by simp, hfirst ▸ he⟩
  | connected h =>
    obtain ⟨later, first, use, rfl, hfirst, -⟩ := h.shape
    exact ⟨first, by simp, hfirst ▸ List.mem_append_left _ he⟩

theorem ConnectOnce.owned (h : ConnectOnce connect handle attempt visits)
    (hissues : Issues handle connect) {visit : Visit} (hvisit : visit ∈ visits) {e : Event Fx}
    (he : e ∈ visit.work) {on : Handle} (hon : e.op.call.handle = some on) :
    on ∈ attempt.filterMap issued := by
  obtain ⟨rest, hrun⟩ := h.run
  have hattempt := (hissues.opening _ _ hrun).owned e
  cases h with
  | unused => cases hvisit
  | attempting run =>
    rw [List.mem_singleton.mp hvisit] at he
    exact hattempt he on hon
  | failed h =>
    obtain ⟨later, first, rfl, hfirst, hlater⟩ := h.shape
    rcases List.mem_append.mp hvisit with hmem | hmem
    · rw [hlater visit hmem] at he
      cases he
    · rw [List.mem_singleton.mp hmem, hfirst] at he
      exact hattempt he on hon
  | connected h =>
    obtain ⟨backend, rfl, hconnected⟩ := h.run
    have huse : Lane.Uses (handle backend) e → on ∈ attempt.filterMap issued := by
      rintro (huse | hnow)
      · cases huse.1.symm.trans hon
        exact hissues.issued _ _ hconnected
      · rw [hnow] at hon
        cases hon
    obtain ⟨later, first, use, rfl, hfirst, hfirstUse, hlater⟩ := h.shape
    rcases List.mem_append.mp hvisit with hmem | hmem
    · exact huse (hlater visit hmem e he)
    · rw [List.mem_singleton.mp hmem, hfirst] at he
      rcases List.mem_append.mp he with he | he
      · exact hattempt he on hon
      · exact huse (hfirstUse e he)

end

section

variable {Config Deps Backend : Type} {lane : Lane Config Deps Backend}
  {slot : Option (Slot Config Deps Backend)} {log : List (Event Fx)} {visits : List Visit}

theorem Lane.Orderly.opened (h : lane.Orderly slot log visits) :
    opened lane.capability log ≤ 1 := by
  cases slot with
  | none =>
    have hnone : Fabricd.opened lane.capability log = 0 :=
      List.countP_eq_zero.mpr fun e he => by simp [h.1 e he]
    omega
  | some slot =>
    obtain ⟨attempt, honce, hsame⟩ := h
    obtain ⟨rest, hrun⟩ := honce.run
    rw [opened_attempts, hsame]
    calc (attempts lane.capability attempt).countP (fun e => Call.opens e.op.call)
        ≤ attempt.countP fun e => Call.opens e.op.call := List.filter_sublist.countP_le
      _ ≤ 1 := ((lane.connect_issues slot).opening _ _ hrun).once

theorem Lane.Orderly.owned (h : lane.Orderly slot log (visitsOf lane.capability log))
    (hplaced : Placed log) {e : Event Fx} (he : e ∈ log) {on : Handle}
    (hmine : e.op.call.capability = some lane.capability) (hon : e.op.call.handle = some on) :
    on ∈ log.filterMap issued := by
  cases slot with
  | none => exact absurd hmine (h.1 e he)
  | some slot =>
    obtain ⟨attempt, honce, -⟩ := h
    obtain ⟨visit, hvisit, hwork⟩ := hplaced.called e he _ hmine
    have hissued := honce.owned (lane.connect_issues slot) hvisit hwork hon
    obtain ⟨e', he', hissue⟩ := List.mem_filterMap.mp hissued
    obtain ⟨first, hfirst, hmem⟩ := honce.attempt_mem e' he'
    refine List.mem_filterMap.mpr ⟨e', ?_, hissue⟩
    exact hplaced.own first (List.mem_of_mem_filter hfirst) e' hmem

end

/-! ## What the breaker hears -/

/-- The breaker's account of a session, over the slot that was wired: what it was asked and
told is what the attempt asked and told it, and an attempt with an outcome has settled. -/
def Guarded (lib : Lib) : Option (Slot DbConfig AsyncDeps DbBackend) → List (Event Fx) → Prop
  | none, log => sightings log = []
  | some slot, log => ∃ attempt,
      ConnectOnce (DbSlot.connect slot) (dbLane lib).handle attempt (visitsOf .db log) ∧
      sightings log = sightings attempt ∧
      Underway (breakerTarget slot.config) slot.deps.breaker (sightings log) ∧
      ∀ outcome, Prog.Steps (DbSlot.connect slot) attempt (.ret outcome) →
        Settled (breakerTarget slot.config) slot.deps.breaker outcome.isOk (sightings log)

private theorem sighting_some {e : Event Fx} {seen : Sighting} (h : sighting e = some seen) :
    e.op.call.capability = some .db ∧ e.op.call.attempt = true := by
  obtain ⟨⟨call, budget⟩, answer⟩ := e
  cases call with
  | breakerAllow target => exact ⟨rfl, rfl⟩
  | breakerRecord target ok => exact ⟨rfl, rfl⟩
  | _ => cases h

private theorem sightings_attempts (log : List (Event Fx)) :
    sightings (attempts .db log) = sightings log := by
  unfold sightings attempts
  rw [List.filterMap_filter]
  refine List.filterMap_congr fun e _ => ?_
  by_cases hmine : e.op.call.capability = some .db ∧ e.op.call.attempt = true
  · simp [hmine]
  · cases hseen : sighting e with
    | none => simp
    | some seen => exact absurd (sighting_some hseen) hmine

private theorem guarded_of_orderly {lib : Lib} {slot : Option (Slot DbConfig AsyncDeps DbBackend)}
    {log : List (Event Fx)} (h : (dbLane lib).Orderly slot log (visitsOf .db log)) :
    Guarded lib slot log := by
  cases slot with
  | none =>
    refine sightings_eq_nil fun e he => ?_
    cases hseen : sighting e with
    | none => rfl
    | some seen => exact absurd (sighting_some hseen).1 (h.1 e he)
  | some slot =>
    obtain ⟨attempt, honce, hsame⟩ := h
    have hseen : sightings log = sightings attempt := by
      rw [← sightings_attempts log, ← sightings_attempts attempt]
      exact congrArg sightings hsame
    obtain ⟨rest, hrun⟩ := honce.run
    refine ⟨attempt, honce, hseen, ?_, fun outcome hret => ?_⟩
    · rw [hseen]
      exact (connectResource_guarded _ _ hrun).1
    · rw [hseen]
      exact (connectResource_guarded _ _ hret).2 outcome rfl

/-- An admission, and an outcome on record, of a target. -/
def admits (target : String) (e : Event Fx) : Bool := sighting e = some (.allow target true)

def records (target : String) (e : Event Fx) : Bool :=
  match sighting e with
  | some (.record key _) => key = target
  | _ => false

/-- One if the session's attempt on the target was admitted and has no outcome yet. -/
def inFlight (target : String) (log : List (Event Fx)) : Nat :=
  if (sightings log).getLast? = some (.allow target true) then 1 else 0

private theorem countP_admits (target : String) (log : List (Event Fx)) :
    log.countP (admits target) = (sightings log).countP (· = .allow target true) := by
  unfold sightings
  rw [List.countP_filterMap]
  refine List.countP_congr fun e _ => ?_
  unfold admits
  cases sighting e <;> simp

private theorem countP_records (target : String) (log : List (Event Fx)) :
    log.countP (records target) = (sightings log).countP fun
      | .record key _ => key = target
      | _ => false := by
  unfold sightings
  rw [List.countP_filterMap]
  refine List.countP_congr fun e _ => ?_
  unfold records
  cases sighting e with
  | none => simp
  | some seen => cases seen <;> simp

/-- The balance of one session. -/
structure Balanced (target : String) (log : List (Event Fx)) : Prop where
  balance : log.countP (admits target) = log.countP (records target) + inFlight target log
  admitted : log.countP (admits target) ≤ 1
  recorded : log.countP (records target) ≤ 1

private theorem Db.Underway.balanced {key target : String} {breaker : Bool} {log : List (Event Fx)}
    (h : Underway key breaker (sightings log)) : Balanced target log := by
  have hcount : (sightings log).countP (· = .allow target true) =
      ((sightings log).countP fun
        | .record key _ => key = target
        | _ => false) + inFlight target log ∧
      (sightings log).countP (· = .allow target true) ≤ 1 := by
    unfold inFlight
    rcases h with hseen | ⟨-, hseen | hseen | ⟨ok, hseen⟩⟩
    · simp [hseen]
    · simp [hseen]
    · rw [hseen]
      by_cases hkey : key = target <;> simp [hkey]
    · rw [hseen]
      by_cases hkey : key = target <;> simp [hkey]
  rw [← countP_admits, ← countP_records] at hcount
  exact ⟨hcount.1, hcount.2, by omega⟩

private theorem Guarded.balanced {lib : Lib} {slot : Option (Slot DbConfig AsyncDeps DbBackend)}
    {log : List (Event Fx)} (h : Guarded lib slot log) (target : String) : Balanced target log := by
  cases slot with
  | none =>
    have hunder : Underway target false (sightings log) := .inl h
    exact hunder.balanced
  | some slot =>
    obtain ⟨attempt, -, -, hunder, -⟩ := h
    exact hunder.balanced

/-- An attempt in flight is that of the first `db` call, which has no response yet. -/
theorem Guarded.open_flight {lib : Lib} {slot : Option (Slot DbConfig AsyncDeps DbBackend)}
    {log : List (Event Fx)} (h : Guarded lib slot log) {target : String}
    (hflight : inFlight target log = 1) : ∃ call work, visitsOf .db log = [⟨call, work, none⟩] := by
  have hlast : (sightings log).getLast? = some (.allow target true) := by
    unfold inFlight at hflight
    by_contra hnot
    rw [if_neg hnot] at hflight
    cases hflight
  cases slot with
  | none =>
    have hnone : sightings log = [] := h
    rw [hnone] at hlast
    cases hlast
  | some slot =>
    obtain ⟨attempt, honce, hseen, -, hsettled⟩ := h
    have hover : ∀ outcome, ¬ Prog.Steps (DbSlot.connect slot) attempt (.ret outcome) := by
      intro outcome hret
      rcases hsettled outcome hret with ⟨-, h⟩ | ⟨-, ⟨-, h⟩ | h⟩
      · rw [h] at hlast
        cases hlast
      · rw [h] at hlast
        cases hlast
      · rw [h] at hlast
        cases hlast
    generalize visitsOf .db log = visits at honce ⊢
    cases honce with
    | unused =>
      rw [hseen] at hlast
      cases hlast
    | attempting run => exact ⟨_, _, rfl⟩
    | failed h => exact absurd h.run (hover _)
    | connected h =>
      obtain ⟨backend, -, hret⟩ := h.run
      exact absurd hret (hover _)

/-! ## Sessions -/

/-- The account of one session, over the backends it was wired with. -/
structure Account (lib : Lib) (set : BackendSet) (log : List (Event Fx)) : Prop where
  lanes : SessionLanes lib set log
  placed : Placed log
  opened : ∀ c, c ≠ .amq → opened c log ≤ 1
  owned : ∀ e ∈ log, ∀ handle, e.op.call.handle = some handle → handle ∈ log.filterMap issued
  guarded : Guarded lib set.db log

private theorem SessionLanes.account {lib : Lib} {set : BackendSet} {log : List (Event Fx)}
    (h : SessionLanes lib set log) (hplaced : Placed log) : Account lib set log := by
  refine ⟨h, hplaced, fun c hc => ?_, fun e he handle hhandle => ?_, guarded_of_orderly h.db⟩
  · cases c with
    | db => exact h.db.opened
    | mongo => exact h.mongo.opened
    | mail => exact h.mail.opened
    | redis => exact h.redis.opened
    | auth => exact h.auth.opened
    | amq => exact absurd rfl hc
  · have hmine := Call.handle_capability hhandle
    cases handle with
    | db _ => exact h.db.owned hplaced he hmine hhandle
    | mongo _ => exact h.mongo.owned hplaced he hmine hhandle
    | mail _ => exact h.mail.owned hplaced he hmine hhandle
    | redis _ => exact h.redis.owned hplaced he hmine hhandle
    | auth _ => exact h.auth.owned hplaced he hmine hhandle

/-- The backends a session is wired with. -/
def Session.wired (shared : Shared) (session : Session) : BackendSet :=
  Fabricd.wired shared session.authenticator session.input

theorem launch_account {ι B W : Type} [DecidableEq ι] (lib : Lib) (shared : Shared)
    (sessions : ι → Session) (breaker : CircuitBreaker B) (script : Script W) (worlds : ι → W)
    (store : Store B) (schedule : List (ι × Instant)) (i : ι) :
    Account lib ((sessions i).wired shared)
        (((launch lib shared sessions worlds store).exec (daemon breaker script) schedule).party i).log ∧
      ∀ r, (((launch lib shared sessions worlds store).exec (daemon breaker script)
          schedule).party i).rest = .ret r →
        AllClosed (visits (((launch lib shared sessions worlds store).exec (daemon breaker script)
          schedule).party i).log) := by
  have hs := launch_steps lib shared sessions (H := daemon breaker script) worlds store schedule i
  obtain ⟨hplaced, hclosed⟩ := serve_placed lib shared (sessions i).authenticator hs
  exact ⟨(serve_lanes lib shared _ hs).account hplaced, hclosed⟩

/-- Connect once, and account for it, under every interleaving. Each session opens at most
one client of each capability, at the first call, whose outcome every later call meets; it
uses clients of its own only, so that no two sessions meet on one if drivers never issue one
twice. Whatever the breaker admitted at a target is on its record or in flight, at most once
for a session, and in flight only while the session's first `db` call is served. -/
theorem connect_once_accounting {ι B W : Type} [DecidableEq ι] [Fintype ι] (lib : Lib)
    (shared : Shared) (sessions : ι → Session) (breaker : CircuitBreaker B) (script : Script W)
    (worlds : ι → W) (store : Store B) (schedule : List (ι × Instant)) :
    let pool := (launch lib shared sessions worlds store).exec (daemon breaker script) schedule
    (∀ i, Account lib ((sessions i).wired shared) (pool.party i).log) ∧
    ((∀ i j handle, handle ∈ (pool.party i).log.filterMap issued →
        handle ∈ (pool.party j).log.filterMap issued → i = j) →
      ∀ i j handle, ∀ e ∈ (pool.party i).log, ∀ e' ∈ (pool.party j).log,
        e.op.call.handle = some handle → e'.op.call.handle = some handle → i = j) ∧
    ∀ target,
      pool.tally (admits target) =
        pool.tally (records target) + ∑ i, inFlight target (pool.party i).log ∧
      ∀ i, Balanced target (pool.party i).log ∧
        (inFlight target (pool.party i).log = 1 →
          ∃ call work, visitsOf .db (pool.party i).log = [⟨call, work, none⟩]) ∧
        ∀ r, (pool.party i).rest = .ret r → inFlight target (pool.party i).log = 0 := by
  intro pool
  have haccount (i : ι) :=
    launch_account lib shared sessions breaker script worlds store schedule i
  refine ⟨fun i => (haccount i).1, fun hunique i j handle e he e' he' hon hon' => ?_,
    fun target => ⟨?_, fun i => ?_⟩⟩
  · exact hunique i j handle ((haccount i).1.owned e he handle hon)
      ((haccount j).1.owned e' he' handle hon')
  · unfold Pool.tally
    rw [← Finset.sum_add_distrib]
    exact Finset.sum_congr rfl fun i _ => ((haccount i).1.guarded.balanced target).balance
  · have hguarded := (haccount i).1.guarded
    refine ⟨hguarded.balanced target, hguarded.open_flight, fun r hr => ?_⟩
    have hclosed := (haccount i).2 r hr
    by_contra hnot
    have hflight : inFlight target (pool.party i).log = 1 := by
      unfold inFlight at hnot ⊢
      split at hnot
      · rename_i hlast
        rw [if_pos hlast]
      · exact absurd rfl hnot
    obtain ⟨call, work, hvisits⟩ := hguarded.open_flight hflight
    have hmem : (⟨call, work, none⟩ : Visit) ∈ visits (pool.party i).log :=
      List.mem_of_mem_filter (hvisits ▸ List.mem_singleton_self _ :
        (⟨call, work, none⟩ : Visit) ∈ visitsOf .db (pool.party i).log)
    exact hclosed _ hmem rfl

end Fabricd
