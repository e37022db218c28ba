import Fabricd.Backends.Statements
import Fabricd.Budget

/-!
# Calls after the deadline

A `db` call that starts with no time left still polls its statement, and what that queues is
sent. Which late calls send nothing, and what a late `COMMIT` does to the
transaction.
-/

namespace Fabricd

open Framework Postgres ClientAuth Db

/-! ## What reaches the server -/

/-- A message of the connection task to the server. -/
inductive Frontend where
  | simple (cmd : String)
  | parse (sql : String)
  | execute (sql : String) (params : List ParamValue)

/-- What polling a statement's future queues for the connection task, which sends it all
whatever becomes of the future: by the first poll, and by the ones after it. Of the latter,
`again` is what those still queue that come before a timer of no time at all elapses, which
may take it a tick. -/
structure Polling where
  first : Statement → List Frontend
  rest : Statement → List Frontend
  again : Statement → List Frontend
  again_rest : ∀ statement, again statement <+: rest statement
  first_batch : ∀ cmd, first (.batch cmd) = [.simple cmd]

/-- What a request hands to the server. With no time left a pending statement is polled until
the timer is; otherwise it counts as sent whole. -/
def Polling.handed (polling : Polling) : Event Fx → List Frontend
  | ⟨⟨.db (.timeout _ statement), some 0⟩, (none : Option (Except PgError statement.Reply))⟩ =>
    polling.first statement ++ polling.again statement
  | ⟨⟨.db (.timeout _ statement), _⟩, _⟩ => polling.first statement ++ polling.rest statement
  | ⟨⟨.db (.batchExecute _ cmd), _⟩, _⟩ => [.simple cmd]
  | _ => []

/-- The server's side of a connection: the statements of the open transaction, if any, and
those committed. -/
structure Txn where
  work : Option (List (String × List ParamValue))
  committed : List (String × List ParamValue)

def Txn.receive (txn : Txn) : Frontend → Txn
  | .simple "BEGIN" => { txn with work := some (txn.work.getD []) }
  | .simple "COMMIT" => ⟨none, txn.committed ++ txn.work.getD []⟩
  | .simple "ROLLBACK" => { txn with work := none }
  | .simple _ | .parse _ => txn
  | .execute sql params =>
    match txn.work with
    | some work => { txn with work := some (work ++ [(sql, params)]) }
    | none => { txn with committed := txn.committed ++ [(sql, params)] }

/-! ## Late calls -/

def statementActions : List String := ["query", "execute", "begin", "commit", "rollback"]

def Late (backend : DbBackend) (use : List (Event Fx)) : Prop :=
  ∃ t rest, use = tick t :: rest ∧ backend.deadline ≤ t

def TimedOut (result : Except EgressError String) : Prop :=
  ∃ err, result = .error err ∧ err.code = dbTimeout.code

/-- The payload reads as a statement other than `BEGIN`, `COMMIT` or `ROLLBACK` that was still
pending when the timer elapsed, and whose polls up to then queue nothing. -/
def Spared (lib : Lib) (polling : Polling) (call : WireCall) (backend : DbBackend)
    (use : List (Event Fx)) : Prop :=
  ∃ args statement, parseDbPayload lib call.payload = .ok args ∧
    statementOf lib call.action args.sql args.paramsJson = .ok statement ∧
    (∀ cmd, statement ≠ .batch cmd) ∧ polling.first statement = [] ∧
    polling.again statement = [] ∧ awaited backend.client statement 0 none ∈ use

private theorem fallback_code {err : DbError} (h : err.fault = dbFallback) :
    err.intoResourceError.code ≠ dbTimeout.code := by
  show err.fault.code ≠ _
  rw [h]
  decide

private theorem fromDriver_code (err : PgError) :
    (DbError.fromDriver err).fault.code ≠ dbTimeout.code := by
  show (classify err).code ≠ _
  intro h
  have hcode := classify_code err
  rw [h] at hcode
  revert hcode
  decide

private theorem statementOf_error {lib : Lib} {action query paramsJson : String} {err : DbError}
    (h : statementOf lib action query paramsJson = .error err) : err.fault = dbFallback := by
  have hparams {f : List ParamValue → Statement}
      (h : ((parseParams lib paramsJson).mapError DbError.fallback).map f = .error err) :
      err.fault = dbFallback := by
    cases hparse : parseParams lib paramsJson with
    | ok params =>
      rw [hparse] at h
      cases h
    | error text =>
      rw [hparse] at h
      cases h
      rfl
  unfold statementOf at h
  split at h
  · exact hparams h
  · exact hparams h
  · cases h
  · cases h
  · cases h
  · cases h
    rfl

private theorem rendered_error {lib : Lib} {maxRows : Nat} {statement : Statement}
    {reply : statement.Reply} {err : DbError}
    (h : rendered lib maxRows statement reply = .error err) : err.fault = dbFallback := by
  cases statement with
  | query sql params =>
    simp only [rendered] at h
    cases htext : lib.toStr (queryReply lib reply maxRows) with
    | ok text =>
      rw [htext] at h
      cases h
    | error text =>
      rw [htext] at h
      cases h
      rfl
  | execute sql params => cases h
  | batch cmd => cases h

private theorem outcome_timedOut {lib : Lib} {maxRows : Nat} {statement : Statement}
    {answer : Option (Except PgError statement.Reply)} :
    TimedOut ((outcome lib maxRows statement answer).mapError DbError.intoResourceError) ↔
      answer = none := by
  constructor
  · rintro ⟨err, heq, hcode⟩
    cases answer with
    | none => rfl
    | some reply =>
      cases reply with
      | error driver =>
        cases heq
        exact absurd hcode (fromDriver_code driver)
      | ok value =>
        have hrendered : (rendered lib maxRows statement value).mapError DbError.intoResourceError =
            .error err := heq
        cases hresult : rendered lib maxRows statement value with
        | ok text =>
          rw [hresult] at hrendered
          cases hrendered
        | error fallback =>
          rw [hresult] at hrendered
          cases hrendered
          exact absurd hcode (fallback_code (rendered_error hresult))
  · rintro rfl
    exact ⟨_, rfl, rfl⟩

/-- A late call of a backend, whole: it is answered `DB_TIMEOUT` with nothing handed over
exactly when it is spared. -/
theorem late_call_iff {lib : Lib} (polling : Polling) {call : WireCall} {backend : DbBackend}
    {use : List (Event Fx)} {r : Except EgressError String × DbBackend}
    (hs : Prog.Steps (BackendSet.runDb lib call.action call.payload backend) use (.ret r))
    (hlate : Late backend use) (hclock : (readings use).Pairwise (· ≤ ·)) :
    (TimedOut r.1 ∧ use.flatMap polling.handed = []) ↔ Spared lib polling call backend use := by
  obtain ⟨start, rest, huse, hdeadline⟩ := hlate
  unfold BackendSet.runDb at hs
  cases hpayload : parseDbPayload lib call.payload with
  | error err =>
    rw [hpayload] at hs
    obtain ⟨rfl, -⟩ := Prog.steps_ret hs
    cases huse
  | ok args =>
    rw [hpayload] at hs
    obtain ⟨es, fs, r', rfl, hcall, hret⟩ := Prog.steps_bind_ret hs
    obtain ⟨rfl, hr⟩ := Prog.steps_ret hret
    cases hr
    rw [List.append_nil] at huse hclock ⊢
    obtain ⟨metric, hcalled, -⟩ := call_called hcall
    obtain ⟨result, backend'⟩ := r'
    cases hcalled with
    | refused refusal =>
      constructor
      · rintro ⟨⟨err, heq, hcode⟩, -⟩
        cases heq
        exact absurd hcode (fallback_code (statementOf_error refusal))
      · rintro ⟨args', statement, hargs, hstatement, -⟩
        cases hpayload.symm.trans hargs
        cases refusal.symm.trans hstatement
    | @answered statement start' t stop answer statement_eq =>
      cases huse
      have hnow : start ≤ t := (List.pairwise_cons.mp hclock).1 t (by simp [reading, tick])
      have hzero : backend.deadline - t = 0 := Nat.sub_eq_zero_of_le (Nat.le_trans hdeadline hnow)
      rw [hzero]
      show TimedOut ((outcome lib backend.maxRows statement answer).mapError
        DbError.intoResourceError) ∧ _ ↔ _
      rw [outcome_timedOut]
      constructor
      · rintro ⟨rfl, hnothing⟩
        have hpolls : polling.first statement = [] ∧ polling.again statement = [] := by
          simpa [Polling.handed, awaited, tick] using hnothing
        obtain ⟨hfirst, hagain⟩ := hpolls
        refine ⟨args, statement, hpayload, statement_eq, ?_, hfirst, hagain, by simp⟩
        rintro cmd rfl
        rw [polling.first_batch] at hfirst
        cases hfirst
      · rintro ⟨args', statement', hargs, hstatement, -, hfirst, hagain, hpending⟩
        cases hpayload.symm.trans hargs
        cases statement_eq.symm.trans hstatement
        have hnone : answer = none := by
          simp only [List.mem_cons, List.not_mem_nil, or_false] at hpending
          rcases hpending with h | h | h | h
          · exact absurd h.symm tick_ne_awaited
          · exact absurd h.symm tick_ne_awaited
          · exact (awaited_answer h).symm
          · exact absurd h.symm tick_ne_awaited
        refine ⟨hnone, ?_⟩
        subst hnone
        simpa [Polling.handed, awaited, tick] using And.intro hfirst hagain

/-! ## Over a session -/

section

variable (lib : Lib) (polling : Polling) (slot : DbSlot) (visits : List Visit)

/-- An answered call that needs the server and started late, with the calls after it and
before it. -/
structure LateAt (newer : List Visit) (visit : Visit) (older : List Visit) (backend : DbBackend)
    (use : List (Event Fx)) (result : Except EgressError String) : Prop where
  split : visits = newer ++ visit :: older
  served : (dbLane lib).Served slot older visit backend use
  action : visit.call.action ∈ statementActions
  late : Late backend use
  answered : visit.response = some (.reply result)

/-- Every late call is answered `DB_TIMEOUT` and hands nothing to the server. -/
def NothingLate : Prop :=
  ∀ newer visit older backend use result,
    LateAt lib slot visits newer visit older backend use result →
      TimedOut result ∧ use.flatMap polling.handed = []

/-- Whatever transaction is open when a late commit starts, its timing out means that
neither it nor any later call commits it. -/
def NeverCommitted : Prop :=
  ∀ newer visit older backend use result,
    LateAt lib slot visits newer visit older backend use result → visit.call.action = "commit" →
      TimedOut result → ∀ txn : Txn,
        (((use ++ newer.reverse.flatMap Visit.work).flatMap polling.handed).foldl Txn.receive
          txn).committed = txn.committed

def AllSpared : Prop :=
  ∀ newer visit older backend use result,
    LateAt lib slot visits newer visit older backend use result →
      Spared lib polling visit.call backend use

end

private theorem Spared.not_commit {lib : Lib} {polling : Polling} {call : WireCall}
    {backend : DbBackend}
    {use : List (Event Fx)} (h : Spared lib polling call backend use) : call.action ≠ "commit" := by
  intro hcommit
  obtain ⟨args, statement, -, hstatement, hbatch, -⟩ := h
  rw [hcommit] at hstatement
  exact hbatch "COMMIT" (Except.ok.inj hstatement).symm

/-- Late calls over a session, whatever its calls and their timing: nothing is sent after
the deadline, and no late commit applies, exactly when every late call is spared. -/
theorem late_calls_iff (lib : Lib) (polling : Polling) (shared : Shared)
    (authenticator : Authenticator) {input : Input} {log : List (Event Fx)}
    {q : Fab (Except String Unit)}
    (hs : Prog.Steps (serve lib shared authenticator input).run log q)
    (hclock : (readings log).Pairwise (· ≤ ·)) {slot : DbSlot}
    (hslot : (wired shared authenticator input).db = some slot) :
    (NothingLate lib polling slot (visitsOf .db log) ∧
        NeverCommitted lib polling slot (visitsOf .db log)) ↔
      AllSpared lib polling slot (visitsOf .db log) := by
  obtain ⟨configs, deps, hwired⟩ := wired_eq shared authenticator input
  rw [fromConfigs_eq] at hwired
  have htold := serve_chronicle (dbLane lib) lib shared authenticator (dbPort lib)
    (hwired ▸ slot_fresh) hs
  have hunfolding : (dbLane lib).Unfolding slot (visitsOf .db log) := by
    have hport : (dbPort lib).get (wired shared authenticator input) = some slot := hslot
    rw [hport] at htold
    exact htold
  have hcall {newer visit older backend use result}
      (h : LateAt lib slot (visitsOf .db log) newer visit older backend use result) :
      (TimedOut result ∧ use.flatMap polling.handed = []) ↔
        Spared lib polling visit.call backend use := by
    have hat := h.split ▸ hunfolding
    obtain ⟨q, hran, hend⟩ := (dbLane lib).served_ran ((dbLane lib).unfolding_older hat) h.served
    obtain ⟨r, rfl, hresult⟩ := hend _ h.answered
    cases hresult
    refine late_call_iff polling hran h.late (hclock.sublist ?_)
    have hvisit : visit ∈ visitsOf .db log := by
      rw [h.split]
      simp
    have huse : use.Sublist visit.work := by
      cases h.served with
      | first opened work =>
        rw [work]
        exact List.sublist_append_right _ _
      | later before => exact List.Sublist.refl _
    exact (huse.trans (work_sublist (List.mem_of_mem_filter hvisit))).filterMap reading
  constructor
  · rintro ⟨hnothing, -⟩ newer visit older backend use result h
    exact (hcall h).mp (hnothing _ _ _ _ _ _ h)
  · intro hspared
    refine ⟨fun newer visit older backend use result h => ?_, ?_⟩
    · exact (hcall h).mpr (hspared _ _ _ _ _ _ h)
    · intro newer visit older backend use result h hcommit
      exact absurd hcommit (hspared _ _ _ _ _ _ h).not_commit

/-! ## A late commit -/

/-- A server that answers every statement it is given time for, under a clock that stands
still for seven readings and then two seconds later. -/
def stoppedClock : Env Fx Nat
  | n, ⟨.now, _⟩ => ((if n < 7 then 0 else 2000000000 : Nat), n + 1)
  | n, ⟨.db (.connect _), _⟩ => (Except.ok 0, n)
  | n, ⟨.db (.batchExecute _ _), _⟩ => (Except.ok (), n)
  | n, ⟨.db (.timeout _ (.batch _)), some 0⟩ => (none, n)
  | n, ⟨.db (.timeout _ (.batch _)), _⟩ => (some (.ok ()), n)
  | n, ⟨.db (.timeout _ (.execute _ _)), _⟩ => (some (.ok (1 : UInt64)), n)
  | n, ⟨call, _⟩ => ((default : call.Ans), n)

def ordersConfig : DbConfig := ⟨"pg", 5432, "app", "", "shop", false, 5000, 1000⟩

def ordersShared : Shared where
  table name := if name = "orders" then some ⟨none, .db ordersConfig⟩ else none
  maxStatementTimeoutMs := 0
  breaker := false

def ordersLib : Lib :=
  { Lib.rejecting with
    dbPayload := fun _ => .ok ⟨"UPDATE orders SET paid = true", none⟩
    fromStrArray := fun _ => .ok [] }

def ordersInput : Input :=
  [.ok (.init { WireInit.empty with db := some "orders", timeoutMs := 1000 }),
    .ok (.call ⟨"db", "begin", ""⟩), .ok (.call ⟨"db", "execute", ""⟩),
    .ok (.call ⟨"db", "commit", ""⟩)]

def ordersSession : Outcome Fx Nat (Except String Unit) :=
  Prog.run stoppedClock 0 (serve ordersLib ordersShared .none ordersInput).run

private theorem ordersSession_readings : (readings ordersSession.events).Pairwise (· ≤ ·) := by
  decide

def ordersSlot : DbSlot := .new ordersConfig ⟨false, fromMillis 1000⟩

def ordersBackend (metrics : Collector DbMetric) : DbBackend :=
  ⟨0, 0 + fromMillis 1000, 1000, metrics⟩

def ordersAttempt : List (Event Fx) :=
  [⟨⟨.db (.connect (connectParams ordersConfig)), none⟩, Except.ok 0⟩,
    ⟨⟨.db (.batchExecute 0 (timeoutCmd ordersConfig)), none⟩, Except.ok ()⟩, tick 0]

/-- A statement of that session, started and awaited at one time. -/
def ordersUse (t : Instant) (statement : Statement)
    (answer : Option (Except PgError statement.Reply)) : List (Event Fx) :=
  [tick t, tick t, awaited 0 statement (0 + fromMillis 1000 - t) answer, tick t]

def beginVisit : Visit :=
  ⟨⟨"db", "begin", ""⟩, ordersAttempt ++ ordersUse 0 (.batch "BEGIN") (some (.ok ())),
    some (.reply (.ok "\x7b\"ok\":true\x7d"))⟩

def executeVisit : Visit :=
  ⟨⟨"db", "execute", ""⟩,
    ordersUse 0 (.execute "UPDATE orders SET paid = true" []) (some (.ok (1 : UInt64))),
    some (.reply (.ok "\x7b\"rows_affected\":1\x7d"))⟩

def commitVisit : Visit :=
  ⟨⟨"db", "commit", ""⟩, ordersUse 2000000000 (.batch "COMMIT") none,
    some (.reply (.error DbError.timeout.intoResourceError))⟩

private theorem ordersSession_visits :
    visitsOf .db ordersSession.events = [commitVisit, executeVisit, beginVisit] := rfl

private theorem orders_run (action : String) {statement : Statement}
    (h : statementOf ordersLib action "UPDATE orders SET paid = true" "[]" = .ok statement)
    (t : Instant) (answer : Option (Except PgError statement.Reply)) (metrics : Collector DbMetric) :
    ∃ metrics', Prog.Steps (BackendSet.runDb ordersLib action "" (ordersBackend metrics))
      (ordersUse t statement answer)
      (.ret ((outcome ordersLib 1000 statement answer).mapError DbError.intoResourceError,
        ordersBackend metrics')) := by
  have hcalled : Called ordersLib (ordersBackend metrics) action "UPDATE orders SET paid = true" "[]"
      (ordersUse t statement answer) _ _ := .answered h
  have hrun := hcalled.steps.bind (f := fun r =>
    .ret (r.1.mapError DbError.intoResourceError, r.2)) (.refl _)
  rw [List.append_nil] at hrun
  exact ⟨_, hrun⟩

private theorem orders_before : ∃ metrics, (dbLane ordersLib).Chronicle ordersSlot
    (some (.ok (ordersBackend metrics))) [executeVisit, beginVisit] := by
  have hfits : (0 : Instant) + fromMillis 1000 ≤ instantMax := by decide
  have hopened := connectResource_opened ordersConfig 0 (anchorDeadline_added hfits)
  obtain ⟨begun, hbegin⟩ := orders_run "begin" rfl 0 (some (.ok ())) []
  obtain ⟨updated, hexecute⟩ := orders_run "execute" rfl 0 (some (.ok (1 : UInt64))) begun
  have hfirst : (dbLane ordersLib).Chronicle ordersSlot (some (.ok (ordersBackend begun)))
      [beginVisit] := .connected (r := (_, ordersBackend begun)) hopened hbegin rfl rfl
  exact ⟨updated, .served (r := (_, ordersBackend updated)) hfirst hexecute rfl⟩

/-- The driver as it is: a statement's first poll sends its text. -/
def pgPolling : Polling where
  first
    | .query sql _ | .execute sql _ => [.parse sql]
    | .batch cmd => [.simple cmd]
  rest
    | .query sql params | .execute sql params => [.execute sql params]
    | .batch _ => []
  again _ := []
  again_rest _ := List.nil_prefix
  first_batch _ := rfl

private theorem orders_late :
    ∃ backend, LateAt ordersLib ordersSlot (visitsOf .db ordersSession.events) []
    commitVisit [executeVisit, beginVisit] backend commitVisit.work
    (.error DbError.timeout.intoResourceError) := by
  obtain ⟨metrics, hbefore⟩ := orders_before
  refine ⟨ordersBackend metrics, ordersSession_visits, .later hbefore, by decide, ?_, rfl⟩
  have hpast : 0 + fromMillis 1000 ≤ 2000000000 := by decide
  exact ⟨_, _, rfl, hpast⟩

private theorem orders_committed :
    ¬ NeverCommitted ordersLib pgPolling ordersSlot (visitsOf .db ordersSession.events) := by
  intro h
  obtain ⟨backend, hlate⟩ := orders_late
  have hsame := h _ _ _ _ _ _ hlate rfl ⟨_, rfl, rfl⟩
    ⟨some [("UPDATE orders SET paid = true", [])], []⟩
  cases hsame

private theorem orders_sent :
    ¬ NothingLate ordersLib pgPolling ordersSlot (visitsOf .db ordersSession.events) := by
  intro h
  obtain ⟨backend, hlate⟩ := orders_late
  have hnothing := (h _ _ _ _ _ _ hlate).2
  cases hnothing

theorem late_calls_iff_commit :
    ¬ AllSpared ordersLib pgPolling ordersSlot (visitsOf .db ordersSession.events) := by
  intro h
  have hs : Prog.Steps (serve ordersLib ordersShared .none ordersInput).run ordersSession.events
      (.ret ordersSession.value) := Prog.run_steps _ _ _
  have hslot : (wired ordersShared .none ordersInput).db = some ordersSlot := rfl
  have hboth := (late_calls_iff ordersLib pgPolling ordersShared .none hs ordersSession_readings
    hslot).mpr h
  exact orders_committed hboth.2

/-- Both halves of the promise fail in that session: the commit is answered `DB_TIMEOUT`
and applied. -/
theorem late_commit_applies :
    ¬ (∀ (lib : Lib) (polling : Polling) (shared : Shared) (authenticator : Authenticator)
        (input : Input) (log : List (Event Fx)) (q : Fab (Except String Unit)) (slot : DbSlot),
        Prog.Steps (serve lib shared authenticator input).run log q →
        (readings log).Pairwise (· ≤ ·) → (wired shared authenticator input).db = some slot →
        NothingLate lib polling slot (visitsOf .db log)) ∧
      ¬ ∀ (lib : Lib) (polling : Polling) (shared : Shared) (authenticator : Authenticator)
        (input : Input) (log : List (Event Fx)) (q : Fab (Except String Unit)) (slot : DbSlot),
        Prog.Steps (serve lib shared authenticator input).run log q →
        (readings log).Pairwise (· ≤ ·) → (wired shared authenticator input).db = some slot →
        NeverCommitted lib polling slot (visitsOf .db log) := by
  have hs : Prog.Steps (serve ordersLib ordersShared .none ordersInput).run ordersSession.events
      (.ret ordersSession.value) := Prog.run_steps _ _ _
  have hslot : (wired ordersShared .none ordersInput).db = some ordersSlot := rfl
  constructor
  · intro h
    exact orders_sent (h _ pgPolling _ _ _ _ _ _ hs ordersSession_readings hslot)
  · intro h
    exact orders_committed (h _ pgPolling _ _ _ _ _ _ hs ordersSession_readings hslot)

end Fabricd
