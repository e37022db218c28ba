import Fabricd.Framework.Sum
import Fabricd.Gate
import Fabricd.Metrics

/-!
# Scrapes among the sessions

The metrics endpoint reads what the sessions move, at the same time. A scrape tells the
rejections up to the moment it looks, and no session notices it.
-/

namespace Fabricd

open Framework ClientAuth

/-- The effects of a daemon with a metrics endpoint. -/
abbrev DaemonFx : Sig := Fx.sum ScrapeFx

/-- What an accepted stream is served as. -/
inductive Peer where
  | session (session : Session)
  | scrape

def Peer.isSession : Peer → Bool
  | .session _ => true
  | .scrape => false

def Peer.program (lib : Lib) (shared : Shared) : Peer → Prog DaemonFx (Except String Unit)
  | .session s => (s.program lib shared).inl
  | .scrape => (serveMetricsOnce lib shared).run.inr

/-- What answers one scrape's own requests: its stream. -/
abbrev ScrapeScript (W : Type) := Instant → W → (op : ScrapeOp) → op.Ans × W

/-- The daemon's answer to a scrape; `trips` is the method of the breaker. -/
def scraped {B W : Type} (trips : B → UInt64) (script : ScrapeScript W) :
    Handler ScrapeFx Instant (Store B) W
  | _, store, w, .breakerTrips => (trips store.breaker, store, w)
  | _, store, w, .authFailuresLoad => (store.authFailures, store, w)
  | t, store, w, op => ((script t w op).1, store, (script t w op).2)

/-- A request that reads or moves what the connections share. -/
def isShared : DaemonFx.Op → Bool
  | .inl ⟨.breakerAllow _, _⟩ | .inl ⟨.breakerRecord _ _, _⟩ | .inl ⟨.authFailuresFetchAdd, _⟩ => true
  | .inr .breakerTrips | .inr .authFailuresLoad => true
  | _ => false

def tallies : Event DaemonFx → Bool
  | ⟨.inl op, ans⟩ => counts ⟨op, ans⟩
  | _ => false

section

variable {ι B W : Type} [DecidableEq ι] (lib : Lib) (shared : Shared) (breaker : CircuitBreaker B)
  (trips : B → UInt64) (script : Script W) (scripted : ScrapeScript W)
  (connections : ι → Peer) (worlds : ι → W) (store : Store B)

def endpoint : Handler DaemonFx Instant (Store B) W :=
  Handler.sum (daemon breaker script) (scraped trips scripted)

def sharedState : Object DaemonFx ι Instant (Store B) where
  mine := isShared
  serve _ t store op :=
    match op with
    | .inl op =>
      let answer := daemon breaker (fun _ (_ : Unit) op => ((default : op.call.Ans), ())) t store () op
      (answer.1, answer.2.1)
    | .inr .breakerTrips => (trips store.breaker, store)
    | .inr .authFailuresLoad => (store.authFailures, store)
    | .inr (.read _) => ((Except.ok [] : Except String (List UInt8)), store)
    | .inr (.writeAll _) => ((Except.ok () : Except String Unit), store)
    | .inr .shutdown => ((Except.ok () : Except String Unit), store)

def connected : Pool DaemonFx ι (Store B) W (Except String Unit) where
  store := store
  party i := ⟨(connections i).program lib shared, worlds i, []⟩

variable {breaker trips script scripted}

omit [DecidableEq ι] in
theorem endpoint_mine {i : ι} {t : Instant} {s : Store B} {w : W} {op : DaemonFx.Op}
    (hop : isShared op = true) :
    (endpoint breaker trips script scripted t s w op).1 =
        ((sharedState breaker trips).serve i t s op).1 ∧
      (endpoint breaker trips script scripted t s w op).2.1 =
        ((sharedState breaker trips).serve i t s op).2 := by
  cases op with
  | inl op =>
    obtain ⟨call, budget⟩ := op
    cases call <;> first | exact ⟨rfl, rfl⟩ | cases hop
  | inr op =>
    cases op with
    | breakerTrips | authFailuresLoad => exact ⟨rfl, rfl⟩
    | _ => cases hop

private theorem endpoint_other {t : Instant} {s : Store B} {w : W} {op : DaemonFx.Op}
    (hop : isShared op = false) : (endpoint breaker trips script scripted t s w op).2.1 = s := by
  cases op with
  | inl op =>
    obtain ⟨call, budget⟩ := op
    cases call <;> first | rfl | cases hop
  | inr op => cases op <;> rfl

private theorem endpoint_scrape {t : Instant} {s : Store B} {w : W} {op : DaemonFx.Op}
    (hop : op.isRight = true) : (endpoint breaker trips script scripted t s w op).2.1 = s := by
  cases op with
  | inl op => cases hop
  | inr op => cases op <;> rfl

omit [DecidableEq ι] in
theorem sharedState_counts (i : ι) (t : Instant) (s : Store B) (op : DaemonFx.Op)
    (answer : DaemonFx.Ans op) :
    ((sharedState breaker trips).serve i t s op).2.authFailures.toNat =
      (s.authFailures.toNat + if tallies ⟨op, answer⟩ then 1 else 0) % 2 ^ 64 := by
  have hkept : s.authFailures.toNat = (s.authFailures.toNat + 0) % 2 ^ 64 := by
    rw [Nat.add_zero, Nat.mod_eq_of_lt s.authFailures.toNat_lt]
  cases op with
  | inl op => exact daemon_counts breaker _ t s () op answer
  | inr op => cases op <;> exact hkept

/-! ## What the connections have done -/

private theorem connected_steps {H : Handler DaemonFx Instant (Store B) W}
    (schedule : List (ι × Instant))
    (i : ι) : Prog.Steps ((connections i).program lib shared)
      (((connected lib shared connections worlds store).exec H schedule).party i).log
      (((connected lib shared connections worlds store).exec H schedule).party i).rest := by
  obtain ⟨es, hlog, hrun⟩ :=
    (connected lib shared connections worlds store).exec_steps (H := H) i schedule
  rw [hlog]
  exact hrun

variable {lib shared connections worlds store}

/-- Up to a moment of the history, each connection has made a partial run of its program. -/
theorem before_steps {H : Handler DaemonFx Instant (Store B) W} {schedule : List (ι × Instant)}
    {before after : List (Moment DaemonFx ι Instant)}
    (h : (connected lib shared connections worlds store).trace H schedule = before ++ after) (i : ι) :
    ∃ q, Prog.Steps ((connections i).program lib shared) (Pool.eventsOf i before) q := by
  have hsteps := connected_steps lib shared connections worlds store (H := H) schedule i
  have hlog : (((connected lib shared connections worlds store).exec H schedule).party i).log =
      Pool.eventsOf i before ++ Pool.eventsOf i after := by
    rw [Pool.trace_log, h, Pool.eventsOf_append]
    exact List.nil_append _
  rw [hlog] at hsteps
  obtain ⟨q, hbefore, -⟩ := hsteps.cut
  exact ⟨q, hbefore⟩

omit [DecidableEq ι] in
theorem session_steps {i : ι} {session : Session} (hi : connections i = .session session)
    {es : List (Event DaemonFx)} {q : Prog DaemonFx (Except String Unit)}
    (hs : Prog.Steps ((connections i).program lib shared) es q) :
    ∃ log q', Prog.Steps (session.program lib shared) log q' ∧ es = log.map Event.inl ∧ q = q'.inl := by
  rw [hi] at hs
  exact Prog.steps_inl hs

omit [DecidableEq ι] in
theorem scrape_steps {i : ι} (hi : connections i = .scrape) {es : List (Event DaemonFx)}
    {q : Prog DaemonFx (Except String Unit)}
    (hs : Prog.Steps ((connections i).program lib shared) es q) :
    ∃ log q', Prog.Steps (serveMetricsOnce lib shared).run log q' ∧ es = log.map Event.inr ∧
      q = q'.inr := by
  rw [hi] at hs
  exact Prog.steps_inr hs

private theorem countP_tallies_inl (log : List (Event Fx)) :
    (log.map (Event.inl : Event Fx → Event DaemonFx)).countP tallies = log.countP counts := by
  rw [List.countP_map]
  rfl

private theorem countP_tallies_inr (log : List (Event ScrapeFx)) :
    (log.map (Event.inr : Event ScrapeFx → Event DaemonFx)).countP tallies = 0 := by
  rw [List.countP_map]
  exact List.countP_eq_zero.mpr fun _ _ h => nomatch h

/-- The connection is a session whose client was rejected. -/
def Peer.Rejects (connection : Peer) : Prop :=
  ∃ session, connection = .session session ∧ rejected session.authenticator session.input = true

omit [DecidableEq ι] in
theorem connection_counts {i : ι} {es : List (Event DaemonFx)}
    {q : Prog DaemonFx (Except String Unit)}
    (hs : Prog.Steps ((connections i).program lib shared) es q) :
    es.countP tallies ≤ 1 ∧ (es.countP tallies = 1 → (connections i).Rejects) := by
  cases hi : connections i with
  | session session =>
    obtain ⟨log, q', hlog, rfl, -⟩ := session_steps hi hs
    rw [countP_tallies_inl]
    obtain ⟨hone, honly, -⟩ := serve_counts lib shared hlog
    exact ⟨hone, fun h => ⟨session, rfl, honly h⟩⟩
  | scrape =>
    obtain ⟨log, q', -, rfl, -⟩ := scrape_steps hi hs
    rw [countP_tallies_inr]
    exact ⟨by omega, by omega⟩

omit [DecidableEq ι] in
theorem answered_counts {i : ι} (h : (connections i).Rejects) {es : List (Event DaemonFx)}
    {q : Prog DaemonFx (Except String Unit)}
    (hs : Prog.Steps ((connections i).program lib shared) es q) {response : WireResponse}
    {budget : Option Duration} {ans : Fx.Ans ⟨.writeFrame response, budget⟩}
    (hwrite : (⟨.inl ⟨.writeFrame response, budget⟩, ans⟩ : Event DaemonFx) ∈ es) :
    es.countP tallies = 1 := by
  obtain ⟨session, hi, hrejected⟩ := h
  obtain ⟨log, q', hlog, rfl, -⟩ := session_steps hi hs
  obtain ⟨init, rest, reject, hinput, hauth⟩ := rejected_eq_true hrejected
  have hrun : Prog.Steps (serve lib shared session.authenticator session.input).run log q' := hlog
  rw [hinput, serve_rejected lib shared session.authenticator hauth] at hrun
  rw [countP_tallies_inl]
  obtain ⟨e, he, hcall⟩ := List.mem_map.mp hwrite
  have hop : e.op = ⟨.writeFrame response, budget⟩ := Sum.inl.inj (congrArg Event.op hcall)
  cases hrun with
  | refl => cases he
  | act hrun =>
    cases hrun with
    | refl =>
      cases List.mem_singleton.mp he
      cases hop
    | act hrun =>
      cases hrun with
      | refl =>
        rcases List.mem_pair.mp he with rfl | rfl <;> cases hop
      | act hrun =>
        obtain ⟨rfl, -⟩ := Prog.steps_ret hrun
        rfl

/-! ## What a look at the counters tells -/

variable (breaker trips script scripted lib shared connections worlds store)

/-- The requests of all connections over a schedule, in the order of their turns. -/
def connectedHistory (schedule : List (ι × Instant)) : List (Moment DaemonFx ι Instant) :=
  (connected lib shared connections worlds store).trace (endpoint breaker trips script scripted) schedule

variable {breaker trips script scripted lib shared connections worlds store}

/-- A look at the shared state sees what the requests before it have made of it. -/
theorem looked {schedule : List (ι × Instant)} {before after : List (Moment DaemonFx ι Instant)}
    {m : Moment DaemonFx ι Instant}
    (h : connectedHistory lib shared breaker trips script scripted connections worlds store schedule =
      before ++ m :: after) (hm : isShared m.event.op = true) :
    ∃ d, (sharedState breaker trips).Replays store ((sharedState breaker trips).own before) d ∧
      ((sharedState breaker trips).serve m.party m.time d m.event.op).1 = m.event.ans := by
  have hall := Pool.exec_replays (connected lib shared connections worlds store)
    (H := endpoint breaker trips script scripted) (V := id)
    (O := sharedState breaker trips) (C := fun _ _ => True) (fun _ hop => endpoint_mine hop)
    (fun hop => endpoint_other hop) (fun _ => trivial) (fun _ => trivial) schedule
  have hown : (sharedState (ι := ι) breaker trips).own (m :: after) =
      m :: (sharedState breaker trips).own after := List.filter_cons_of_pos hm
  unfold connectedHistory at h
  rw [h, Object.own_append, hown] at hall
  obtain ⟨d, hbefore, hans, -⟩ := Object.replays_append.mp hall
  exact ⟨d, hbefore, hans⟩

variable [Fintype ι]

/-- The connections that have counted themselves up to a moment. -/
def tallied (before : List (Moment DaemonFx ι Instant)) : Finset ι :=
  Finset.univ.filter fun i => 0 < (Pool.eventsOf i before).countP tallies

private theorem tallied_mono (before mid : List (Moment DaemonFx ι Instant)) :
    tallied before ⊆ tallied (before ++ mid) := by
  intro i hi
  have hcount := (Finset.mem_filter.mp hi).2
  refine Finset.mem_filter.mpr ⟨Finset.mem_univ i, ?_⟩
  rw [Pool.eventsOf_append, List.countP_append]
  omega

private theorem own_tallied {H : Handler DaemonFx Instant (Store B) W}
    {schedule : List (ι × Instant)}
    {before after : List (Moment DaemonFx ι Instant)}
    (h : (connected lib shared connections worlds store).trace H schedule = before ++ after) :
    ((sharedState breaker trips).own before).countP (fun m => tallies m.event) =
      (tallied before).card := by
  have hshared : ∀ m : Moment DaemonFx ι Instant, tallies m.event = true →
      isShared m.event.op = true := by
    rintro ⟨i, t, op, answer⟩ hm
    cases op with
    | inl op =>
      obtain ⟨call, budget⟩ := op
      cases call <;> first | rfl | cases hm
    | inr op => cases hm
  have hown : ((sharedState breaker trips).own before).countP (fun m => tallies m.event) =
      before.countP fun m => tallies m.event := by
    unfold Object.own
    rw [List.countP_filter]
    refine List.countP_congr fun m _ => ?_
    have hm := hshared m
    simp only [Bool.and_eq_true]
    exact ⟨fun h => h.1, fun h => ⟨h, hm h⟩⟩
  rw [hown, Pool.countP_eventsOf]
  unfold tallied
  rw [Finset.card_filter]
  refine Finset.sum_congr rfl fun i _ => ?_
  obtain ⟨q, hs⟩ := before_steps h i
  have hone := (connection_counts hs).1
  by_cases hpos : 0 < (Pool.eventsOf i before).countP tallies
  · rw [if_pos hpos]
    omega
  · rw [if_neg hpos]
    omega

private theorem load_reads {schedule : List (ι × Instant)}
    {before after : List (Moment DaemonFx ι Instant)}
    {m : Moment DaemonFx ι Instant} {n : UInt64}
    (h : connectedHistory lib shared breaker trips script scripted connections worlds store schedule =
      before ++ m :: after) (hm : m.event = ⟨.inr .authFailuresLoad, n⟩) :
    n.toNat = (store.authFailures.toNat + (tallied before).card) % 2 ^ 64 := by
  have hop : isShared m.event.op = true := by rw [hm]; rfl
  obtain ⟨d, hbefore, hans⟩ := looked h hop
  have hseen : d.authFailures = n := by
    rw [hm] at hans
    exact hans
  rw [← hseen, ← own_tallied h]
  exact Object.Replays.modular (fun d => d.authFailures.toNat) (fun m => tallies m.event) hbefore
    (Nat.mod_eq_of_lt store.authFailures.toNat_lt).symm
    fun m _ d => sharedState_counts m.party m.time d m.event.op m.event.ans

omit [Fintype ι] in
theorem scrapes_unnoticed (schedule : List (ι × Instant)) {i : ι}
    (hi : (connections i).isSession = true) :
    ((connected lib shared connections worlds store).exec (endpoint breaker trips script scripted)
        schedule).party i =
      ((connected lib shared connections worlds store).exec (endpoint breaker trips script scripted)
        (schedule.filter fun turn => (connections turn.1).isSession)).party i := by
  have hscrape (i : ι) : ((connected lib shared connections worlds store).party i).rest.Only
      fun (op : Fx.Op ⊕ ScrapeFx.Op) => (connections i).isSession ≠ true → op.isRight = true := by
    show ((connections i).program lib shared).Only _
    cases connections i with
    | session session => exact (Prog.inl_only _).mono fun op _ h => absurd rfl h
    | scrape => exact (Prog.inr_only _).mono fun op hop _ => hop
  have hfilter := Pool.exec_filter (H := endpoint breaker trips script scripted)
    (fun i => (connections i).isSession = true)
    (P := fun i (op : Fx.Op ⊕ ScrapeFx.Op) => (connections i).isSession ≠ true → op.isRight = true)
    (V := Eq) (fun hgone hop hsame => (endpoint_scrape (hop hgone)).trans hsame)
    (fun _ _ hsame => by rw [hsame]; exact ⟨rfl, rfl, rfl⟩) hscrape rfl (fun _ _ => rfl) schedule hi
  simpa using hfilter

/-- What a scrape is told: the trips of the breaker, and the rejections counted, as they were
when it loaded each. -/
def CountersTold (shared : Shared) (breaker : CircuitBreaker B) (trips : B → UInt64) (store : Store B)
    (history : List (Moment DaemonFx ι Instant)) (i : ι) (body : String) : Prop :=
  ∃ t n : UInt64, readExposition body = [("fabricd_db_breaker_trips_total", t.toNat),
      ("fabricd_auth_failures_total", n.toNat)] ∧
    (∃ before m after, history = before ++ m :: after ∧ m.party = i ∧
      m.event = ⟨.inr .authFailuresLoad, n⟩ ∧
        n.toNat = (store.authFailures.toNat + (tallied before).card) % 2 ^ 64) ∧
    if shared.breaker then ∃ before m after d, history = before ++ m :: after ∧ m.party = i ∧
      m.event = ⟨.inr .breakerTrips, t⟩ ∧
        (sharedState breaker trips).Replays store ((sharedState breaker trips).own before) d ∧
          t = trips d.breaker
    else t = 0

private theorem scrape_told {schedule : List (ι × Instant)} {i : ι} (hi : connections i = .scrape)
    {text : List UInt8} {written : Except String Unit}
    (hwrite : (⟨.inr (.writeAll text), written⟩ : Event DaemonFx) ∈
      (((connected lib shared connections worlds store).exec
        (endpoint breaker trips script scripted) schedule).party i).log) :
    ∃ bytes, (⟨.inr (.read 1024), .ok bytes⟩ : Event DaemonFx) ∈
        (((connected lib shared connections worlds store).exec
          (endpoint breaker trips script scripted) schedule).party i).log ∧
      ((AsksMetrics (lib.fromUtf8Lossy bytes) ∧ ∃ body,
          readResponse text = some ("HTTP/1.1 200 OK", body) ∧
          CountersTold shared breaker trips store
            (connectedHistory lib shared breaker trips script scripted connections worlds store schedule)
            i body) ∨
        (¬ AsksMetrics (lib.fromUtf8Lossy bytes) ∧
          readResponse text = some ("HTTP/1.1 404 Not Found", ""))) := by
  have hsteps := connected_steps lib shared connections worlds store
    (H := endpoint breaker trips script scripted) schedule i
  obtain ⟨log, q, hrun, hlog, -⟩ := scrape_steps hi hsteps
  -- every look of the scrape is a moment of the history
  have hlook (e : Event ScrapeFx) (he : e ∈ log) : ∃ before m after,
      connectedHistory lib shared breaker trips script scripted connections worlds store schedule =
        before ++ m :: after ∧ m.party = i ∧ m.event = e.inr := by
    have hmine : (e.inr : Event DaemonFx) ∈ (((connected lib shared connections worlds store).exec
        (endpoint breaker trips script scripted) schedule).party i).log := by
      rw [hlog]
      exact List.mem_map_of_mem he
    rw [Pool.trace_log] at hmine
    have hmoment : (e.inr : Event DaemonFx) ∈ Pool.eventsOf i (connectedHistory lib shared breaker
        trips script scripted connections worlds store schedule) := hmine
    obtain ⟨m, hm, hparty, hevent⟩ := Pool.mem_eventsOf.mp hmoment
    obtain ⟨before, after, hsplit⟩ := List.append_of_mem hm
    exact ⟨before, m, after, hsplit, hparty, hevent⟩
  rw [hlog] at hwrite
  obtain ⟨⟨op, ans⟩, he, hcall⟩ := List.mem_map.mp hwrite
  have hop : op = .writeAll text := Sum.inr.inj (congrArg Event.op hcall)
  subst hop
  obtain ⟨start, rest, hsplit⟩ := List.append_of_mem he
  obtain ⟨bytes, hreply⟩ := ((metrics_run hrun).1 start text ans rest hsplit).1
  have hread (asked : (⟨.read 1024, .ok bytes⟩ : Event ScrapeFx) ∈ log) :
      (⟨.inr (.read 1024), .ok bytes⟩ : Event DaemonFx) ∈ log.map Event.inr :=
    List.mem_map_of_mem (f := Event.inr) asked
  rw [hlog]
  rcases hreply with ⟨hasks, t, n, body, rfl, ht, hresponse, hbody⟩ | ⟨hasks, rfl, hresponse⟩
  · have hmem (e : Event ScrapeFx) (he : e ∈ loads shared t n) : e ∈ log := by
      rw [hsplit]
      exact List.mem_append_left _ (List.mem_cons_of_mem _ he)
    refine ⟨bytes, hread (by simp [hsplit]), .inl ⟨hasks, body, hresponse, t, n, hbody, ?_, ?_⟩⟩
    · obtain ⟨before, m, after, hhistory, hparty, hevent⟩ :=
        hlook ⟨.authFailuresLoad, n⟩ (hmem _ (by simp [loads]))
      exact ⟨before, m, after, hhistory, hparty, hevent, load_reads hhistory hevent⟩
    · cases hbreaker : shared.breaker with
      | false => simp [ht hbreaker]
      | true =>
        obtain ⟨before, m, after, hhistory, hparty, hevent⟩ :=
          hlook ⟨.breakerTrips, t⟩ (hmem _ (by simp [loads, hbreaker]))
        obtain ⟨d, hbefore, hans⟩ := looked hhistory (by rw [hevent]; rfl)
        have hseen : trips d.breaker = t := by
          rw [hevent] at hans
          exact hans
        exact ⟨before, m, after, d, hhistory, hparty, hevent, hbefore, hseen.symm⟩
  · exact ⟨bytes, hread (by simp [hsplit]), .inr ⟨hasks, hresponse⟩⟩

/-- The metrics endpoint among the sessions. Over every interleaving: the rejections counted up
to a moment are those of rejected sessions, and all of those that have been answered; what a
scrape is answered, if it asks for the counters, tells them as they were when it looked; a later
look is told no fewer rejections; and no session does anything else for the scrapes. -/
theorem scrapes_tell (schedule : List (ι × Instant)) :
    let pool := connected lib shared connections worlds store
    let H := endpoint breaker trips script scripted
    let history :=
      connectedHistory lib shared breaker trips script scripted connections worlds store schedule
    (∀ before after, history = before ++ after →
      (∀ i ∈ tallied before, (connections i).Rejects) ∧
      ∀ i, (connections i).Rejects → ∀ response budget ans,
        (⟨.inl ⟨.writeFrame response, budget⟩, ans⟩ : Event DaemonFx) ∈ Pool.eventsOf i before →
          i ∈ tallied before) ∧
    (∀ i, connections i = .scrape → ∀ text written,
      (⟨.inr (.writeAll text), written⟩ : Event DaemonFx) ∈ ((pool.exec H schedule).party i).log →
        ∃ bytes, (⟨.inr (.read 1024), .ok bytes⟩ : Event DaemonFx) ∈
            ((pool.exec H schedule).party i).log ∧
          ((AsksMetrics (lib.fromUtf8Lossy bytes) ∧ ∃ body,
              readResponse text = some ("HTTP/1.1 200 OK", body) ∧
              CountersTold shared breaker trips store history i body) ∨
            (¬ AsksMetrics (lib.fromUtf8Lossy bytes) ∧
              readResponse text = some ("HTTP/1.1 404 Not Found", "")))) ∧
    (store.authFailures.toNat + Fintype.card ι < 2 ^ 64 → ∀ before m mid m' after,
      history = before ++ m :: (mid ++ m' :: after) → ∀ n n' : UInt64,
        m.event = ⟨.inr .authFailuresLoad, n⟩ → m'.event = ⟨.inr .authFailuresLoad, n'⟩ →
          n ≤ n') ∧
    ∀ i, (connections i).isSession = true → (pool.exec H schedule).party i =
      (pool.exec H (schedule.filter fun turn => (connections turn.1).isSession)).party i := by
  intro pool H history
  refine ⟨fun before after h => ⟨fun i hi => ?_, fun i hi response budget ans hwrite => ?_⟩,
    fun i hi text written hwrite => scrape_told hi hwrite, ?_,
    fun i hi => scrapes_unnoticed schedule hi⟩
  · obtain ⟨q, hs⟩ := before_steps h i
    obtain ⟨hone, honly⟩ := connection_counts hs
    have hpos := (Finset.mem_filter.mp hi).2
    exact honly (by omega)
  · obtain ⟨q, hs⟩ := before_steps h i
    have hone := answered_counts hi hs hwrite
    exact Finset.mem_filter.mpr ⟨Finset.mem_univ i, by omega⟩
  · intro hroom before m mid m' after h n n' hm hm'
    have hfirst := load_reads h hm
    have hlater : history = (before ++ m :: mid) ++ m' :: after := by simpa using h
    have hsecond := load_reads hlater hm'
    have hmore := Finset.card_le_card (tallied_mono before (m :: mid))
    have hall := Finset.card_le_univ (tallied (before ++ m :: mid))
    rw [Nat.mod_eq_of_lt (by omega)] at hfirst hsecond
    rw [UInt64.le_iff_toNat_le]
    omega

end

end Fabricd
