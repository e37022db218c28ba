import Fabricd.Backends.Rows

/-!
# One statement a call

Each action of the `db` backend hands at most one statement to its client. What a call asks
for, and what it answers, by that statement.
-/

namespace Fabricd.Db

open Framework Postgres

/-- A statement awaited under a budget, with the client's answer. -/
def awaited (client : ClientId) (statement : Statement) (budget : Duration)
    (answer : Option (Except PgError statement.Reply)) : Event Fx :=
  ⟨⟨.db (.timeout client statement), some budget⟩, answer⟩

theorem tick_ne_awaited {t : Instant} {client : ClientId} {statement : Statement}
    {budget : Duration} {answer : Option (Except PgError statement.Reply)} :
    tick t ≠ awaited client statement budget answer := by
  intro h
  cases congrArg (fun e => e.op.budget) h

theorem awaited_answer {client : ClientId} {statement : Statement} {budget : Duration}
    {answer answer' : Option (Except PgError statement.Reply)}
    (h : awaited client statement budget answer = awaited client statement budget answer') :
    answer = answer' :=
  eq_of_heq (Event.mk.inj h).2

section

variable (lib : Lib)

/-- The statement of an action, or why there is none. -/
def statementOf (action query paramsJson : String) : Except DbError Statement :=
  match action with
  | "query" => ((parseParams lib paramsJson).mapError DbError.fallback).map (.query query)
  | "execute" => ((parseParams lib paramsJson).mapError DbError.fallback).map (.execute query)
  | "begin" => .ok (.batch "BEGIN")
  | "commit" => .ok (.batch "COMMIT")
  | "rollback" => .ok (.batch "ROLLBACK")
  | other => .error (.fallback s!"unknown db action: {other}")

def rendered (maxRows : Nat) : (statement : Statement) → statement.Reply → Except DbError String
  | .query _ _, rows =>
    (lib.toStr (queryReply lib rows maxRows)).mapError fun err => .fallback s!"serialize error: {err}"
  | .execute _ _, (affected : UInt64) =>
    .ok ("\x7b\"rows_affected\":" ++ toString affected ++ "\x7d")
  | .batch _, _ => .ok "\x7b\"ok\":true\x7d"

def outcome (maxRows : Nat) (statement : Statement)
    (answer : Option (Except PgError statement.Reply)) : Except DbError String :=
  match answer with
  | some (.ok reply) => rendered lib maxRows statement reply
  | some (.error driver) => .error (.fromDriver driver)
  | none => .error .timeout

/-- An action is its statement, awaited within what is left of the deadline. -/
theorem dispatch_run (call : DbCall) (action query paramsJson : String) (maxRows : Nat) :
    (dispatch lib call action query paramsJson maxRows).run =
      match statementOf lib action query paramsJson with
      | .error err => .ret (.error err)
      | .ok statement => now >>= fun t =>
        askWithin (call.deadline - t) (.db (.timeout call.client statement)) >>= fun answer =>
          .ret (outcome lib maxRows statement answer) := by
  have hblock (statement : Statement) (finish : statement.Reply → FabE DbError String)
      (hfinish : ∀ reply, (finish reply).run = .ret (rendered lib maxRows statement reply)) :
      (blockOnDb call statement >>= finish).run = now >>= fun t =>
        askWithin (call.deadline - t) (.db (.timeout call.client statement)) >>= fun answer =>
          .ret (outcome lib maxRows statement answer) := by
    refine congrArg (Prog.act _) (funext fun t => congrArg (Prog.act _) (funext fun answer => ?_))
    cases answer with
    | none => rfl
    | some result =>
      cases result with
      | error driver => rfl
      | ok reply => exact hfinish reply
  unfold dispatch
  split
  · unfold doQuery statementOf
    cases parseParams lib paramsJson with
    | error err => rfl
    | ok params => exact hblock (.query query params) _ fun rows => rfl
  · unfold doExecute statementOf
    cases parseParams lib paramsJson with
    | error err => rfl
    | ok params => exact hblock (.execute query params) _ fun affected => rfl
  · exact hblock (.batch "BEGIN") _ fun _ => rfl
  · exact hblock (.batch "COMMIT") _ fun _ => rfl
  · exact hblock (.batch "ROLLBACK") _ fun _ => rfl
  case h_6 hquery hexecute hbegin hcommit hrollback =>
    have hnone : statementOf lib action query paramsJson =
        .error (.fallback s!"unknown db action: {action}") := by
      unfold statementOf
      split
      · exact absurd rfl hquery
      · exact absurd rfl hexecute
      · exact absurd rfl hbegin
      · exact absurd rfl hcommit
      · exact absurd rfl hrollback
      · rfl
    rw [hnone]
    rfl

def metricOf (action : String) (result : Except DbError String) (start stop : Instant) : DbMetric :=
  let info := match result with
    | .ok json => extractMetricInfo lib action json
    | .error _ => (0, 0, false)
  { action
    durationUs := (stop - start) / 1000
    rowsReturned := info.1
    rowsAffected := info.2.1
    truncated := info.2.2 }

/-- The whole of a call: its events, its result and the metric it records. -/
inductive Called (self : DbBackend) (action query paramsJson : String) :
    List (Event Fx) → Except DbError String → DbMetric → Prop where
  | refused {err : DbError} {start stop : Instant}
      (refusal : statementOf lib action query paramsJson = .error err) :
      Called self action query paramsJson [tick start, tick stop] (.error err)
        (metricOf lib action (.error err) start stop)
  | answered {statement : Statement} {start t stop : Instant}
      {answer : Option (Except PgError statement.Reply)}
      (statement_eq : statementOf lib action query paramsJson = .ok statement) :
      Called self action query paramsJson
        [tick start, tick t, awaited self.client statement (self.deadline - t) answer, tick stop]
        (outcome lib self.maxRows statement answer)
        (metricOf lib action (outcome lib self.maxRows statement answer) start stop)

end

theorem buildMetric_bind {α : Type} (lib : Lib) (action : String) (result : Except DbError String)
    (start : Instant) (f : DbMetric → Fab α) :
    buildMetric lib action result start >>= f =
      now >>= fun stop => f (metricOf lib action result start stop) := by
  cases result with
  | ok json => rfl
  | error err => rfl

theorem call_called {lib : Lib} {self : DbBackend} {action query paramsJson : String}
    {es : List (Event Fx)} {r : Except DbError String × DbBackend}
    (hs : Prog.Steps (self.call lib action query paramsJson) es (.ret r)) :
    ∃ metric, Called lib self action query paramsJson es r.1 metric ∧
      r.2 = { self with metrics := self.metrics.record metric } := by
  obtain ⟨start, es, rfl, hrest⟩ := steps_now hs
  obtain ⟨ds, ms, result, rfl, hdispatch, hmetric⟩ := Prog.steps_bind_ret hrest
  rw [buildMetric_bind] at hmetric
  obtain ⟨stop, ms, rfl, hreturn⟩ := steps_now hmetric
  obtain ⟨rfl, hret⟩ := Prog.steps_ret hreturn
  cases hret
  rw [dispatch_run] at hdispatch
  cases hstatement : statementOf lib action query paramsJson with
  | error err =>
    rw [hstatement] at hdispatch
    obtain ⟨rfl, hret⟩ := Prog.steps_ret hdispatch
    cases hret
    exact ⟨_, .refused hstatement, rfl⟩
  | ok statement =>
    rw [hstatement] at hdispatch
    obtain ⟨t, ds, rfl, hwait⟩ := steps_now hdispatch
    obtain ⟨answer, ds, rfl, hlast⟩ := steps_askWithin hwait
    obtain ⟨rfl, hret⟩ := Prog.steps_ret hlast
    cases hret
    exact ⟨_, .answered hstatement, rfl⟩

theorem Called.steps {lib : Lib} {self : DbBackend} {action query paramsJson : String}
    {es : List (Event Fx)} {result : Except DbError String} {metric : DbMetric}
    (h : Called lib self action query paramsJson es result metric) :
    Prog.Steps (self.call lib action query paramsJson) es
      (.ret (result, { self with metrics := self.metrics.record metric })) := by
  have hmetric (result : Except DbError String) (start stop : Instant) :
      Prog.Steps (buildMetric lib action result start >>= fun metric =>
          .ret (result, { self with metrics := self.metrics.record metric })) [tick stop]
        (.ret (result, { self with
          metrics := self.metrics.record (metricOf lib action result start stop) })) := by
    rw [buildMetric_bind]
    exact .act (.refl _)
  cases h with
  | @refused err start stop refusal =>
    have hdispatch : Prog.Steps
        (dispatch lib ⟨self.client, self.deadline⟩ action query paramsJson self.maxRows).run []
        (.ret (.error err)) := by
      rw [dispatch_run, refusal]
      exact .refl _
    exact .act (hdispatch.bind (hmetric _ start stop))
  | @answered statement start t stop answer statement_eq =>
    have hdispatch : Prog.Steps
        (dispatch lib ⟨self.client, self.deadline⟩ action query paramsJson self.maxRows).run
        [tick t, awaited self.client statement (self.deadline - t) answer]
        (.ret (outcome lib self.maxRows statement answer)) := by
      rw [dispatch_run, statement_eq]
      exact .act (.act (.refl _))
    exact .act (hdispatch.bind (hmetric _ start stop))

end Fabricd.Db
