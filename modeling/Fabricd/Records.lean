import Fabricd.Backends.Rows
import Fabricd.BackendSet
import Fabricd.Framework.Journal

/-!
# One record a call

Every backend records one metric a call, whatever came of it. The two that count by reading
their own reply back count what is in it as long as `serde_json` reads what it wrote.
-/

namespace Fabricd

open Framework

/-- `serde_json` reads back what it wrote, and the object `do_execute` formats. -/
structure ReadsBack (lib : Lib) : Prop where
  written : ∀ {value text}, lib.toStr value = .ok text → lib.fromStr text = .ok value
  affected : ∀ n : UInt64, lib.fromStr ("\x7b\"rows_affected\":" ++ toString n ++ "\x7d") =
    .ok (.object [("rows_affected", .number (.posInt n))])

section

variable {ε Metric : Type} {Zero : Metric → Prop} {Counts : String → Metric → Prop}

/-- A metric counts nothing of a failure, and of a reply what is in it. -/
def Agrees (Zero : Metric → Prop) (Counts : String → Metric → Prop) :
    Except ε String → Metric → Prop
  | .error _, metric => Zero metric
  | .ok reply, metric => Counts reply metric

theorem Agrees.mapError {ε' : Type} {result : Except ε String} {metric : Metric}
    (h : Agrees Zero Counts result metric) (f : ε → ε') :
    Agrees Zero Counts (result.mapError f) metric := by
  cases result with
  | error err => exact h
  | ok reply => exact h

end

theorem measured_call {ε α Metric β : Type} {R : Except ε α → Prop}
    {M : Except ε α → Metric → Prop} {dispatch : FabE ε α}
    {build : Except ε α → Instant → Fab Metric} {finish : Except ε α → Metric → β} {U : β → Prop}
    (hdispatch : dispatch.run.Sat (fun _ => True) R)
    (hbuild : ∀ result start, R result → (build result start).Sat (fun _ => True) (M result))
    (hfinish : ∀ result metric, R result → M result metric → U (finish result metric)) :
    (now >>= fun start => dispatch.run >>= fun result => build result start >>= fun metric =>
      .ret (finish result metric)).Sat (fun _ => True) U := by
  apply Prog.Sat.after
  intro start
  refine Prog.Sat.bind hdispatch ?_
  intro result hresult
  refine Prog.Sat.bind (hbuild result start hresult) ?_
  intro metric hmetric
  exact hfinish result metric hresult hmetric

/-! ## `db` -/

namespace Db

def Zero (metric : DbMetric) : Prop :=
  metric.rowsReturned = 0 ∧ metric.rowsAffected = 0 ∧ metric.truncated = false

/-- The counts of a reply, by action. -/
def Counts (lib : Lib) (action reply : String) (metric : DbMetric) : Prop :=
  match action with
  | "query" => metric.rowsAffected = 0 ∧ ∃ value rows, lib.toStr value = .ok reply ∧
      value.get "rows" = some (.array rows) ∧ metric.rowsReturned = rows.length ∧
      value.get "truncated" = some (.bool metric.truncated)
  | "execute" => metric.rowsReturned = 0 ∧ metric.truncated = false ∧
      reply = "\x7b\"rows_affected\":" ++ toString metric.rowsAffected ++ "\x7d"
  | _ => Zero metric

def Recorded (lib : Lib) (action : String) (result : Except EgressError String)
    (metric : DbMetric) : Prop :=
  metric.action = action ∧ Agrees Zero (Counts lib action) result metric

variable {lib : Lib}

private theorem extractMetricInfo_query (hlib : ReadsBack lib) {rows : List Postgres.PgRow}
    {maxRows : Nat} (hmax : maxRows < 2 ^ 64) {text : String}
    (h : lib.toStr (queryReply lib rows maxRows) = .ok text) :
    extractMetricInfo lib "query" text =
      ((rowsToJson lib rows maxRows).1.length, 0, (rowsToJson lib rows maxRows).2) := by
  have hlength : (rowsToJson lib rows maxRows).1.length < 2 ^ 64 := by
    rw [rowsToJson_rows]
    simp only [List.length_map, List.length_take]
    omega
  have hcount : (UInt64.ofNat (rowsToJson lib rows maxRows).1.length).toNat =
      (rowsToJson lib rows maxRows).1.length := by
    simpa using Nat.mod_eq_of_lt hlength
  simp [extractMetricInfo, hlib.written h, queryReply, Json.get, Json.ofUsize, Json.asU64,
    Number.asU64, Json.asBool, Except.toOption, hcount]

private theorem extractMetricInfo_execute (hlib : ReadsBack lib) (affected : UInt64) :
    extractMetricInfo lib "execute"
        ("\x7b\"rows_affected\":" ++ toString affected ++ "\x7d") = (0, affected, false) := by
  simp [extractMetricInfo, hlib.affected, Json.get, Json.asU64, Number.asU64, Except.toOption]

def Measured (lib : Lib) (action reply : String) : Prop :=
  ∀ metric : DbMetric,
    (metric.rowsReturned, metric.rowsAffected, metric.truncated) = extractMetricInfo lib action reply →
      Counts lib action reply metric

private theorem doQuery_measured (hlib : ReadsBack lib) (call : DbCall) (sql paramsJson : String)
    (maxRows : Nat) :
    Yields (fun reply => maxRows < 2 ^ 64 → Measured lib "query" reply)
      (doQuery lib call sql paramsJson maxRows) := by
  apply Yields.after
  intro params
  apply Yields.after
  intro rows
  apply yields_ofExcept
  intro reply hreply hmax
  have htext : lib.toStr (queryReply lib rows maxRows) = .ok reply := mapError_ok hreply
  intro metric hinfo
  rw [extractMetricInfo_query hlib hmax htext] at hinfo
  obtain ⟨hrows, haffected, htruncated⟩ := Prod.mk.inj hinfo |>.imp_right Prod.mk.inj
  refine ⟨haffected, _, (rowsToJson lib rows maxRows).1, htext, rfl, hrows, ?_⟩
  rw [htruncated]
  rfl

private theorem doExecute_measured (hlib : ReadsBack lib) (call : DbCall)
    (sql paramsJson : String) :
    Yields (Measured lib "execute") (doExecute lib call sql paramsJson) := by
  apply Yields.after
  intro params
  apply Yields.after
  intro affected
  apply Yields.pure
  intro metric hinfo
  rw [extractMetricInfo_execute hlib] at hinfo
  obtain ⟨hrows, haffected, htruncated⟩ := Prod.mk.inj hinfo |>.imp_right Prod.mk.inj
  exact ⟨hrows, htruncated, by rw [haffected]⟩

private theorem doSimple_measured {action : String} (call : DbCall) (cmd : String)
    (h : ∀ reply, Measured lib action reply) : Yields (Measured lib action) (doSimple call cmd) := by
  apply Yields.after
  intro _
  exact Yields.pure (h _)

private theorem dispatch_measured (hlib : ReadsBack lib) (call : DbCall)
    (action query paramsJson : String)
    (maxRows : Nat) :
    Yields (fun reply => maxRows < 2 ^ 64 → Measured lib action reply)
      (dispatch lib call action query paramsJson maxRows) := by
  have hzero {metric : DbMetric}
      (h : (metric.rowsReturned, metric.rowsAffected, metric.truncated) = (0, 0, false)) :
      Zero metric := by
    obtain ⟨hrows, haffected, htruncated⟩ := Prod.mk.inj h |>.imp_right Prod.mk.inj
    exact ⟨hrows, haffected, htruncated⟩
  have hsimple {action : String} (cmd : String) (h : ∀ reply, Measured lib action reply) :
      Yields (fun reply => maxRows < 2 ^ 64 → Measured lib action reply) (doSimple call cmd) :=
    (doSimple_measured call cmd h).mono fun _ h _ => h
  unfold dispatch
  split
  · exact doQuery_measured hlib call query paramsJson maxRows
  · exact (doExecute_measured hlib call query paramsJson).mono fun _ h _ => h
  · apply hsimple
    intro reply metric h
    exact hzero h
  · apply hsimple
    intro reply metric h
    exact hzero h
  · apply hsimple
    intro reply metric h
    exact hzero h
  · exact Yields.throw _

private theorem buildMetric_recorded {action : String} {result : Except DbError String}
    {fits : Prop}
    (h : ∀ reply, result = .ok reply → fits → Measured lib action reply) (start : Instant) :
    (buildMetric lib action result start).Sat (fun _ => True) (fun metric =>
      fits → metric.action = action ∧ Agrees Zero (Counts lib action) result metric) := by
  cases result with
  | error err =>
    apply Prog.Sat.after
    intro durationUs _
    exact ⟨rfl, rfl, rfl, rfl⟩
  | ok reply =>
    apply Prog.Sat.after
    intro durationUs hfits
    exact ⟨rfl, h reply rfl hfits _ rfl⟩

theorem call_recorded (hlib : ReadsBack lib) (self : DbBackend) (action query paramsJson : String) :
    (self.call lib action query paramsJson).Sat (fun _ => True) (fun r => ∃ metric,
      r.2 = { self with metrics := self.metrics.record metric } ∧
        (self.maxRows < 2 ^ 64 →
          metric.action = action ∧ Agrees Zero (Counts lib action) r.1 metric)) := by
  apply measured_call (dispatch_measured hlib _ action query paramsJson self.maxRows)
  · exact fun result start h => buildMetric_recorded h start
  · exact fun result metric _ hmetric => ⟨metric, rfl, hmetric⟩

end Db

/-! ## `mongo` -/

namespace Mongo

def Zero (metric : MongoMetric) : Prop :=
  metric.docsReturned = 0 ∧ metric.docsAffected = 0 ∧ metric.truncated = false

def Listed (lib : Lib) (reply : String) (metric : MongoMetric) : Prop :=
  metric.docsAffected = 0 ∧ ∃ docs, metric.docsReturned = docs.length ∧
    reply = lib.display (.object [("docs", .array docs), ("count", .ofUsize docs.length),
      ("truncated", .bool metric.truncated)])

/-- The counts of a reply, by action; `count` neither returns nor changes a document. -/
def Counts (lib : Lib) (action reply : String) (metric : MongoMetric) : Prop :=
  match action with
  | "find" | "aggregate" => Listed lib reply metric
  | "find_one" => metric.docsAffected = 0 ∧ metric.truncated = false ∧
      (metric.docsReturned = 0 ∧ reply = "null" ∨
        metric.docsReturned = 1 ∧ ∃ fields, reply = lib.display (.object fields))
  | "insert_one" => metric.docsReturned = 0 ∧ metric.truncated = false ∧
      metric.docsAffected = 1 ∧ ∃ id, reply = "\x7b\"inserted_id\":" ++ id ++ "\x7d"
  | "insert_many" => metric.docsReturned = 0 ∧ metric.truncated = false ∧
      reply = "\x7b\"inserted_count\":" ++ toString metric.docsAffected ++ "\x7d"
  | "update_one" | "update_many" => metric.docsReturned = 0 ∧ metric.truncated = false ∧
      ∃ matched : UInt64, reply = "\x7b\"matched\":" ++ toString matched ++ ",\"modified\":"
        ++ toString metric.docsAffected ++ "\x7d"
  | "delete_one" | "delete_many" => metric.docsReturned = 0 ∧ metric.truncated = false ∧
      reply = "\x7b\"deleted\":" ++ toString metric.docsAffected ++ "\x7d"
  | _ => Zero metric

def Recorded (lib : Lib) (action : String) (result : Except EgressError String)
    (metric : MongoMetric) : Prop :=
  metric.action = action ∧ Agrees Zero (Counts lib action) result metric

def metricOf (action : String) (outcome : MongoOutcome) (durationUs : Nat) : MongoMetric :=
  ⟨action, durationUs, outcome.docsReturned, outcome.docsAffected, outcome.truncated⟩

def Measured (lib : Lib) (action : String) (outcome : MongoOutcome) : Prop :=
  ∀ durationUs, Counts lib action outcome.json (metricOf action outcome durationUs)

variable {lib : Lib}

section

variable (budget : Duration) (call : MongoCall) (collection : Mongodb.Collection)
  (payload : MongoPayload)

private theorem drainCursor_measured {action : String}
    (h : ∀ reply metric, Listed lib reply metric → Counts lib action reply metric)
    (cursor : Mongodb.CursorId) :
    Yields (Measured lib action) (drainCursor lib budget call.client cursor call.maxDocs) := by
  apply Yields.after
  rintro ⟨docs, truncated⟩
  apply Yields.pure
  intro durationUs
  exact h _ _ ⟨rfl, docs, rfl, rfl⟩

private theorem doFind_measured :
    Yields (Measured lib "find") (doFind lib budget call collection payload) := by
  iterate 4
    apply Yields.after
    intro _
  apply drainCursor_measured
  intro reply metric h
  exact h

private theorem doAggregate_measured :
    Yields (Measured lib "aggregate") (doAggregate lib budget call collection payload) := by
  iterate 2
    apply Yields.after
    intro _
  apply drainCursor_measured
  intro reply metric h
  exact h

private theorem doFindOne_measured :
    Yields (Measured lib "find_one") (doFindOne lib budget collection payload) := by
  apply Yields.after
  intro filter
  apply Yields.after
  intro found
  apply Yields.pure
  intro durationUs
  cases found with
  | none => exact ⟨rfl, rfl, .inl ⟨rfl, rfl⟩⟩
  | some doc => exact ⟨rfl, rfl, .inr ⟨rfl, _, rfl⟩⟩

private theorem doCount_measured :
    Yields (Measured lib "count") (doCount lib budget call collection payload) := by
  apply Yields.after
  intro filter
  apply Yields.after
  intro count
  apply Yields.pure
  intro durationUs
  exact ⟨rfl, rfl, rfl⟩

private theorem doInsertOne_measured :
    Yields (Measured lib "insert_one") (doInsertOne lib budget collection payload) := by
  apply Yields.after
  intro doc
  apply Yields.after
  intro insertedId
  apply Yields.pure
  intro durationUs
  exact ⟨rfl, rfl, rfl, _, rfl⟩

private theorem doInsertMany_measured :
    Yields (Measured lib "insert_many") (doInsertMany lib budget collection payload) := by
  apply Yields.after
  intro docs
  split
  · exact Yields.throw _
  · apply Yields.after
    intro inserted
    apply Yields.pure
    intro durationUs
    exact ⟨rfl, rfl, rfl⟩

private theorem doUpdate_measured {action : String}
    (haction : action = "update_one" ∨ action = "update_many")
    (many : Bool) : Yields (Measured lib action) (doUpdate lib budget collection payload many) := by
  apply Yields.after
  intro filter
  apply Yields.after
  intro update
  apply Yields.after
  intro result
  apply Yields.pure
  intro durationUs
  rcases haction with rfl | rfl
  · exact ⟨rfl, rfl, result.matchedCount, rfl⟩
  · exact ⟨rfl, rfl, result.matchedCount, rfl⟩

private theorem doDelete_measured {action : String}
    (haction : action = "delete_one" ∨ action = "delete_many")
    (many : Bool) : Yields (Measured lib action) (doDelete lib budget collection payload many) := by
  apply Yields.after
  intro filter
  apply Yields.after
  intro deleted
  apply Yields.pure
  intro durationUs
  rcases haction with rfl | rfl
  · exact ⟨rfl, rfl, rfl⟩
  · exact ⟨rfl, rfl, rfl⟩

private theorem run_measured (action : String) :
    Yields (Measured lib action) (run lib budget call collection action payload) := by
  unfold run
  split
  · exact doFind_measured budget call collection payload
  · exact doFindOne_measured budget collection payload
  · exact doCount_measured budget call collection payload
  · exact doAggregate_measured budget call collection payload
  · exact doInsertOne_measured budget collection payload
  · exact doInsertMany_measured budget collection payload
  · exact doUpdate_measured budget collection payload (.inl rfl) false
  · exact doUpdate_measured budget collection payload (.inr rfl) true
  · exact doDelete_measured budget collection payload (.inl rfl) false
  · exact doDelete_measured budget collection payload (.inr rfl) true
  · exact Yields.throw _

end

private theorem dispatch_measured (call : MongoCall) (action name payloadJson : String) :
    Yields (Measured lib action) (dispatch lib call action name payloadJson) := by
  apply Yields.after
  intro fields
  apply Yields.after
  intro t
  exact run_measured (call.deadline - t) call _ _ action

private theorem buildMetric_recorded {action : String} {result : Except MongoError MongoOutcome}
    (h : ∀ outcome, result = .ok outcome → Measured lib action outcome) (start : Instant) :
    (buildMetric action result.toOption start).Sat (fun _ => True) (fun metric =>
      metric.action = action ∧
        Agrees Zero (Counts lib action) (result.map MongoOutcome.json) metric) := by
  cases result with
  | error err =>
    apply Prog.Sat.after
    intro durationUs
    exact ⟨rfl, rfl, rfl, rfl⟩
  | ok outcome =>
    apply Prog.Sat.after
    intro durationUs
    exact ⟨rfl, h outcome rfl durationUs⟩

theorem call_recorded (self : MongoBackend) (action collection payloadJson : String) :
    (self.call lib action collection payloadJson).Sat (fun _ => True) (fun r => ∃ metric,
      r.2 = { self with metrics := self.metrics.record metric } ∧
        metric.action = action ∧ Agrees Zero (Counts lib action) r.1 metric) := by
  apply measured_call (dispatch_measured _ action collection payloadJson)
  · exact fun result start h => buildMetric_recorded h start
  · exact fun result metric _ hmetric => ⟨metric, rfl, hmetric⟩

end Mongo

/-! ## `redis` -/

namespace Kv

def Zero (metric : RedisMetric) : Prop := metric.bytes = 0 ∧ metric.hit = false

/-- The counts of a reply, by action. -/
def Counts (lib : Lib) (action reply : String) (metric : RedisMetric) : Prop :=
  match action with
  | "get" => ∃ value, lib.toStr (.object [("value", .ofOption value)]) = .ok reply ∧
      metric.hit = value.isSome ∧ metric.bytes = (value.map String.utf8ByteSize).getD 0
  | _ => Zero metric

def Recorded (lib : Lib) (action : String) (result : Except EgressError String)
    (metric : RedisMetric) : Prop :=
  metric.action = action ∧ Agrees Zero (Counts lib action) result metric

def Measured (lib : Lib) (action reply : String) : Prop :=
  ∀ metric : RedisMetric, (metric.bytes, metric.hit) = valueStats lib action reply →
    Counts lib action reply metric

variable {lib : Lib}

private theorem valueStats_get (hlib : ReadsBack lib) {value : Option String} {reply : String}
    (h : lib.toStr (.object [("value", .ofOption value)]) = .ok reply) :
    valueStats lib "get" reply = ((value.map String.utf8ByteSize).getD 0, value.isSome) := by
  cases value with
  | none => simp [valueStats, hlib.written h, Json.get, Json.ofOption, Json.asStr, Except.toOption]
  | some text =>
    simp [valueStats, hlib.written h, Json.get, Json.ofOption, Json.asStr, Except.toOption]

private theorem doGet_measured (hlib : ReadsBack lib) (conn : Redis.ConnId) (payloadJson : String) :
    Yields (Measured lib "get") (doGet lib conn payloadJson) := by
  apply Yields.after
  intro payload
  apply Yields.after
  intro _
  apply Yields.after
  intro value
  apply yields_ofExcept
  intro reply hreply metric hstats
  have htext : lib.toStr (.object [("value", .ofOption value)]) = .ok reply := mapError_ok hreply
  rw [valueStats_get hlib htext] at hstats
  obtain ⟨hbytes, hhit⟩ := Prod.mk.inj hstats
  exact ⟨value, htext, hhit, hbytes⟩

private theorem measured_other {action : String} (h : action ≠ "get") (reply : String) :
    Measured lib action reply := by
  intro metric hstats
  rw [valueStats, if_pos h] at hstats
  obtain ⟨hbytes, hhit⟩ := Prod.mk.inj hstats
  unfold Counts
  split
  · exact absurd rfl h
  · exact ⟨hbytes, hhit⟩

private theorem dispatch_measured (hlib : ReadsBack lib) (conn : Redis.ConnId)
    (action payloadJson : String) :
    Yields (Measured lib action) (dispatch lib conn action payloadJson) := by
  by_cases hget : action = "get"
  · subst hget
    exact doGet_measured hlib conn payloadJson
  · exact (Yields.any _).mono fun reply _ => measured_other hget reply

private theorem buildMetric_recorded {action : String} {result : Except RedisError String}
    (h : ∀ reply, result = .ok reply → Measured lib action reply) (start : Instant) :
    (buildMetric lib action result start).Sat (fun _ => True) (fun metric =>
      metric.action = action ∧ Agrees Zero (Counts lib action) result metric) := by
  cases result with
  | error err =>
    apply Prog.Sat.after
    intro durationUs
    exact ⟨rfl, rfl, rfl⟩
  | ok reply =>
    apply Prog.Sat.after
    intro durationUs
    exact ⟨rfl, h reply rfl _ rfl⟩

theorem call_recorded (hlib : ReadsBack lib) (self : RedisBackend) (action payloadJson : String) :
    (self.call lib action payloadJson).Sat (fun _ => True) (fun r => ∃ metric,
      r.2 = { self with metrics := self.metrics.record metric } ∧
        metric.action = action ∧ Agrees Zero (Counts lib action) r.1 metric) := by
  apply measured_call (dispatch_measured hlib self.conn action payloadJson)
  · exact fun result start h => buildMetric_recorded h start
  · exact fun result metric _ hmetric => ⟨metric, rfl, hmetric⟩

end Kv

/-! ## `mail` -/

namespace Mail

def Zero (metric : MailMetric) : Prop :=
  metric.recipients = 0 ∧ metric.bytes = 0 ∧ metric.accepted = false

/-- The flag of a reply. -/
def Counts (reply : String) (metric : MailMetric) : Prop :=
  ∃ line, reply =
    "\x7b\"accepted\":" ++ toString metric.accepted ++ ",\"response\":" ++ line ++ "\x7d"

def Recorded (action : String) (result : Except EgressError String) (metric : MailMetric) : Prop :=
  metric.action = action ∧ Agrees Zero Counts result metric

def Measured (outcome : SendOutcome) : Prop :=
  ∀ metric : MailMetric, metric.accepted = outcome.accepted → Counts outcome.json metric

variable {lib : Lib}

private theorem doSend_measured (ctx : SendCtx) (payloadJson : String) :
    Yields Measured (doSend lib ctx payloadJson) := by
  apply Yields.after
  intro fields
  dsimp only
  split
  · exact Yields.throw _
  · split
    · exact Yields.throw _
    · iterate 3
        apply Yields.after
        intro _
      apply Yields.pure
      intro metric haccepted
      exact ⟨_, by rw [haccepted]⟩

private theorem dispatch_measured (ctx : SendCtx) (action payloadJson : String) :
    Yields Measured (dispatch lib ctx action payloadJson) := by
  unfold dispatch
  split
  · exact doSend_measured ctx payloadJson
  · exact Yields.throw _

private theorem buildMetric_recorded {action : String} {result : Except MailError SendOutcome}
    (h : ∀ outcome, result = .ok outcome → Measured outcome) (start : Instant) :
    (buildMetric action result.toOption start).Sat (fun _ => True) (fun metric =>
      metric.action = action ∧ Agrees Zero Counts (result.map SendOutcome.json) metric) := by
  cases result with
  | error err =>
    apply Prog.Sat.after
    intro durationUs
    exact ⟨rfl, rfl, rfl, rfl⟩
  | ok outcome =>
    apply Prog.Sat.after
    intro durationUs
    exact ⟨rfl, h outcome rfl _ rfl⟩

/-- Whether the send budget leaves room for one more call. -/
def withinBudget (maxSends sent : Nat) : Bool := maxSends = 0 ∨ sent < maxSends

theorem MailBackend.spent_iff (self : MailBackend) :
    (self.maxSends ≠ 0 ∧ self.maxSends ≤ self.metrics.opCount) ↔
      withinBudget self.maxSends self.metrics.length = false := by
  simp [withinBudget, Collector.opCount]

theorem call_recorded (self : MailBackend) (action payloadJson : String) :
    (self.call lib action payloadJson).Sat (fun _ => True) (fun r => r.2.maxSends = self.maxSends ∧
      Entered (withinBudget self.maxSends self.metrics.length)
        (fun metric => metric.action = action ∧ Agrees Zero Counts r.1 metric)
        self.metrics r.2.metrics) := by
  unfold MailBackend.call
  split
  case isTrue hspent =>
    rw [self.spent_iff.mp hspent]
    exact ⟨rfl, rfl⟩
  case isFalse hroom =>
    have hunder : withinBudget self.maxSends self.metrics.length = true := by
      simpa using mt self.spent_iff.mpr hroom
    rw [hunder]
    apply measured_call (dispatch_measured _ action payloadJson)
    · exact fun result start h => buildMetric_recorded h start
    · exact fun result metric _ hmetric => ⟨rfl, metric, hmetric, rfl⟩

end Mail

/-! ## `amq` -/

namespace Amq

def Zero (metric : AmqMetric) : Prop :=
  metric.messages = 0 ∧ metric.bytes = 0 ∧ metric.published = false

/-- The counts of a reply, by action. -/
def Counts (action reply : String) (metric : AmqMetric) : Prop :=
  metric.published = true ∧
    match action with
    | "send" => reply = "\x7b\"published\":" ++ toString metric.messages ++ "\x7d"
    | _ => metric.messages = 1

def Recorded (action : String) (result : Except EgressError String) (metric : AmqMetric) : Prop :=
  metric.action = action ∧ Agrees Zero (Counts action) result metric

def Measured (action : String) (outcome : SendOutcome) : Prop :=
  ∀ metric : AmqMetric, metric.messages = outcome.messages → metric.published = true →
    Counts action outcome.json metric

variable {lib : Lib}

private theorem doSend_measured (config : AmqConfig) (payloadJson : String) :
    Yields (Measured "send") (doSend lib config payloadJson) := by
  apply Yields.after
  intro fields
  dsimp only
  generalize (fields.messages.getD []).map AmqMessage.ofFields = messages
  have hsent (bytes : Nat) : Measured "send"
      ⟨"\x7b\"published\":" ++ toString messages.length ++ "\x7d", messages.length, bytes⟩ := by
    intro metric hmessages hpublished
    refine ⟨hpublished, ?_⟩
    rw [hmessages]
    rfl
  by_cases hnone : messages.length = 0
  · rw [if_pos hnone]
    exact Yields.throw _
  · rw [if_neg hnone]
    by_cases hmany : config.maxBatch < messages.length
    · rw [if_pos hmany]
      exact Yields.throw _
    · rw [if_neg hmany]
      apply Yields.after
      intro _
      cases config.backend with
      | rabbitmq => exact Yields.after fun bytes => Yields.pure (hsent bytes)
      | nats => exact Yields.after fun bytes => Yields.pure (hsent bytes)

private theorem doRequest_measured (config : AmqConfig) (payloadJson : String) :
    Yields (Measured "request") (doRequest lib config payloadJson) := by
  unfold doRequest
  split
  · exact Yields.throw _
  · iterate 3
      apply Yields.after
      intro _
    apply Yields.pure
    intro metric hmessages hpublished
    exact ⟨hpublished, hmessages⟩

private theorem dispatch_measured (config : AmqConfig) (action payloadJson : String) :
    Yields (Measured action) (dispatch lib config action payloadJson) := by
  unfold dispatch
  split
  · exact doSend_measured config payloadJson
  · exact doRequest_measured config payloadJson
  · exact Yields.throw _

private theorem buildMetric_recorded {action : String} {result : Except AmqError SendOutcome}
    (h : ∀ outcome, result = .ok outcome → Measured action outcome) (start : Instant) :
    (buildMetric action result.toOption start).Sat (fun _ => True) (fun metric =>
      metric.action = action ∧
        Agrees Zero (Counts action) (result.map SendOutcome.json) metric) := by
  cases result with
  | error err =>
    apply Prog.Sat.after
    intro durationUs
    exact ⟨rfl, rfl, rfl, rfl⟩
  | ok outcome =>
    apply Prog.Sat.after
    intro durationUs
    exact ⟨rfl, h outcome rfl _ rfl rfl⟩

theorem call_recorded (self : AmqProducer) (action payloadJson : String) :
    (self.call lib action payloadJson).Sat (fun _ => True) (fun r => ∃ metric,
      r.2 = { self with metrics := self.metrics.record metric } ∧
        metric.action = action ∧ Agrees Zero (Counts action) r.1 metric) := by
  apply measured_call (dispatch_measured self.config action payloadJson)
  · exact fun result start h => buildMetric_recorded h start
  · exact fun result metric _ hmetric => ⟨metric, rfl, hmetric⟩

end Amq

/-! ## `auth` -/

namespace Auth

/-- A failed call has no status. -/
def Recorded (action : String) (result : Except EgressError String) (metric : AuthMetric) : Prop :=
  metric.action = action ∧ Agrees (fun metric => metric.status = 0) (fun _ _ => True) result metric

theorem call_recorded {lib : Lib} (self : AuthBackend) (action token : String) :
    (self.call lib action token).Sat (fun _ => True) (fun r => ∃ metric,
      r.2.metrics = self.metrics.record metric ∧ Recorded action r.1 metric) := by
  apply Prog.Sat.after
  intro start
  apply Prog.Sat.after
  rintro ⟨result, state⟩
  have hmetric (status : UInt16) (start : Instant) :
      (buildMetric action self.host status start).Sat (fun _ => True)
        (fun metric => metric.action = action ∧ metric.status = status) := by
    apply Prog.Sat.after
    intro durationUs
    exact ⟨rfl, rfl⟩
  refine Prog.Sat.bind (hmetric _ start) ?_
  rintro metric ⟨haction, hstatus⟩
  refine ⟨metric, rfl, haction, ?_⟩
  cases result with
  | error err => exact hstatus
  | ok outcome => trivial

end Auth

/-! ## At the gate of a backend -/

namespace BackendSet

variable {lib : Lib} (action payload : String)

theorem runDb_entered (hlib : ReadsBack lib) (backend : Db.DbBackend) :
    (runDb lib action payload backend).Sat (fun _ => True) (fun r => r.2.maxRows = backend.maxRows ∧
      Entered (parseDbPayload lib payload).isOk
        (fun metric => backend.maxRows < 2 ^ 64 → Db.Recorded lib action r.1 metric)
        backend.metrics r.2.metrics) := by
  unfold runDb
  cases parseDbPayload lib payload with
  | error err => exact ⟨rfl, rfl⟩
  | ok args =>
    refine (Db.call_recorded hlib backend action args.sql args.paramsJson).bind ?_
    rintro ⟨result, _⟩ ⟨metric, rfl, hmetric⟩
    refine ⟨rfl, metric, fun hmax => ?_, rfl⟩
    obtain ⟨haction, hagrees⟩ := hmetric hmax
    exact ⟨haction, hagrees.mapError _⟩

theorem runMongo_entered (backend : Mongo.MongoBackend) :
    (runMongo lib action payload backend).Sat (fun _ => True) (fun r =>
      Entered (parseMongoPayload lib payload).isOk (Mongo.Recorded lib action r.1)
        backend.metrics r.2.metrics) := by
  unfold runMongo
  cases parseMongoPayload lib payload with
  | error err => exact rfl
  | ok args =>
    refine (Mongo.call_recorded backend action args.1 args.2).bind ?_
    rintro ⟨result, _⟩ ⟨metric, rfl, haction, hagrees⟩
    exact ⟨metric, ⟨haction, hagrees.mapError _⟩, rfl⟩

theorem runMail_entered (backend : Mail.MailBackend) :
    (runMail lib action payload backend).Sat (fun _ => True) (fun r =>
      r.2.maxSends = backend.maxSends ∧
        Entered (Mail.withinBudget backend.maxSends backend.metrics.length)
          (Mail.Recorded action r.1) backend.metrics r.2.metrics) := by
  refine (Mail.call_recorded backend action payload).bind ?_
  rintro ⟨result, backend'⟩ ⟨hsends, hentered⟩
  refine ⟨hsends, hentered.mono ?_⟩
  rintro metric ⟨haction, hagrees⟩
  exact ⟨haction, hagrees.mapError _⟩

theorem runRedis_entered (hlib : ReadsBack lib) (backend : Kv.RedisBackend) :
    (runRedis lib action payload backend).Sat (fun _ => True) (fun r =>
      Entered true (Kv.Recorded lib action r.1) backend.metrics r.2.metrics) := by
  refine (Kv.call_recorded hlib backend action payload).bind ?_
  rintro ⟨result, _⟩ ⟨metric, rfl, haction, hagrees⟩
  exact ⟨metric, ⟨haction, hagrees.mapError _⟩, rfl⟩

theorem runAuth_entered (backend : Auth.AuthBackend) :
    (runAuth lib action payload backend).Sat (fun _ => True) (fun r =>
      Entered (parseAuthToken lib payload).isOk (Auth.Recorded action r.1)
        backend.metrics r.2.metrics) := by
  unfold runAuth
  cases parseAuthToken lib payload with
  | error err => exact rfl
  | ok token =>
    refine (Auth.call_recorded backend action token).mono (fun _ h => h) ?_
    rintro ⟨result, backend'⟩ ⟨metric, hmetrics, hrecorded⟩
    exact ⟨metric, hrecorded, hmetrics⟩

end BackendSet

end Fabricd
