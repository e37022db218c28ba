import Fabricd.Backends.Footprint

/-!
# What the backends under a deadline ask for

A `db` or `mongo` action reads the clock to bound its requests. With other readings it
makes the same requests on the same client, and answers the same as long as these do.
-/

namespace Fabricd

open Framework

/-! ## `db` -/

namespace Db

open Postgres

variable (lib : Lib) {call call' : DbCall} (h : call.client = call'.client)

include h

private theorem blockOnDb_lockstep (statement : Statement) :
    Lockstep (untimed (OnHandle (.db call.client))) Eq (blockOnDb call statement).run
      (blockOnDb call' statement).run := by
  obtain ⟨client, deadline⟩ := call
  obtain ⟨client', deadline'⟩ := call'
  simp only at h
  subst h
  refine lockstep_now fun t t' => ?_
  refine lockstep_askWithin ⟨rfl, rfl⟩ fun answer => ?_
  cases answer with
  | none => exact .ret rfl
  | some reply =>
    cases reply with
    | ok value => exact .ret rfl
    | error driver => exact .ret rfl

private theorem doQuery_lockstep (sql paramsJson : String) (maxRows : Nat) :
    Lockstep (untimed (OnHandle (.db call.client))) Eq (doQuery lib call sql paramsJson maxRows).run
      (doQuery lib call' sql paramsJson maxRows).run := by
  refine (lockstep_only (only_ofExcept _)).bindE (fun params => ?_) fun _ => rfl
  refine (blockOnDb_lockstep h _).bindE (fun rows => ?_) fun _ => rfl
  exact lockstep_only (only_ofExcept _)

private theorem doExecute_lockstep (sql paramsJson : String) :
    Lockstep (untimed (OnHandle (.db call.client))) Eq (doExecute lib call sql paramsJson).run
      (doExecute lib call' sql paramsJson).run := by
  refine (lockstep_only (only_ofExcept _)).bindE (fun params => ?_) fun _ => rfl
  refine (blockOnDb_lockstep h _).bindE (fun affected => ?_) fun _ => rfl
  exact .ret rfl

private theorem doSimple_lockstep (cmd : String) :
    Lockstep (untimed (OnHandle (.db call.client))) Eq (doSimple call cmd).run
      (doSimple call' cmd).run := by
  refine (blockOnDb_lockstep h _).bindE (fun _ => ?_) fun _ => rfl
  exact .ret rfl

private theorem dispatch_lockstep (action query paramsJson : String) (maxRows : Nat) :
    Lockstep (untimed (OnHandle (.db call.client))) Eq
      (dispatch lib call action query paramsJson maxRows).run
      (dispatch lib call' action query paramsJson maxRows).run := by
  unfold dispatch
  split
  · exact doQuery_lockstep lib h query paramsJson maxRows
  · exact doExecute_lockstep lib h query paramsJson
  · exact doSimple_lockstep h "BEGIN"
  · exact doSimple_lockstep h "COMMIT"
  · exact doSimple_lockstep h "ROLLBACK"
  · exact lockstep_only (only_ofExcept _)

omit h

/-- A backend but for its deadline and the time its calls took. -/
def DbBackend.timeless (self : DbBackend) : DbBackend :=
  { self with
    deadline := 0
    metrics := self.metrics.map fun metric => { metric with durationUs := 0 } }

theorem buildMetric_lockstep {P : Call → Prop} {α β : Type} {Q : α → β → Prop} (action : String)
    (result : Except DbError String) (start start' : Instant) {f : DbMetric → Fab α}
    {g : DbMetric → Fab β}
    (h : ∀ metric d', Lockstep (untimed P) Q (f metric) (g { metric with durationUs := d' })) :
    Lockstep (untimed P) Q (buildMetric lib action result start >>= f)
      (buildMetric lib action result start' >>= g) := by
  unfold buildMetric
  simp only [bind_assoc, pure_bind]
  exact lockstep_elapsed fun d d' => h _ d'

theorem call_lockstep {self self' : DbBackend} (h : self.timeless = self'.timeless)
    (action query paramsJson : String) :
    Lockstep (untimed (OnHandle (.db self.client)))
      (fun r r' => r.1 = r'.1 ∧ r.2.timeless = r'.2.timeless ∧ r.2.client = self.client ∧
        r.2.maxRows = self.maxRows)
      (self.call lib action query paramsJson) (self'.call lib action query paramsJson) := by
  obtain ⟨client, deadline, maxRows, metrics⟩ := self
  obtain ⟨client', deadline', maxRows', metrics'⟩ := self'
  simp only [DbBackend.timeless, DbBackend.mk.injEq, true_and] at h
  obtain ⟨rfl, rfl, hmetrics⟩ := h
  refine lockstep_now fun start start' => ?_
  have hdispatch := @dispatch_lockstep lib ⟨client, deadline⟩ ⟨client, deadline'⟩ rfl
  refine (hdispatch action query paramsJson maxRows).bind fun result _ heq => ?_
  subst heq
  refine buildMetric_lockstep lib action result start start' fun metric d' => .ret ?_
  refine ⟨rfl, ?_, rfl, rfl⟩
  simp [DbBackend.timeless, Collector.record, hmetrics]

end Db

/-! ## `mongo` -/

namespace Mongo

open Mongodb

variable (lib : Lib) (b b' : Duration)

private theorem await_lockstep {α : Type} {client : ClientId} (op : Mongodb.Op)
    (hans : op.Ans = Option (Except DriverError α)) (hclient : OnHandle (.mongo client) (.mongo op)) :
    Lockstep (untimed (OnHandle (.mongo client))) Eq (await b op hans).run (await b' op hans).run := by
  refine lockstep_askWithin hclient fun answer => ?_
  generalize (cast hans answer : Option (Except DriverError α)) = reply
  cases reply with
  | none => exact .ret rfl
  | some reply =>
    cases reply with
    | ok value => exact .ret rfl
    | error err => exact .ret rfl

private theorem drainDocs_lockstep (client : ClientId) (cursor : CursorId) (room : Nat)
    (docs : List Json) :
    Lockstep (untimed (OnHandle (.mongo client))) Eq (drainDocs lib b client cursor room docs).run
      (drainDocs lib b' client cursor room docs).run := by
  induction room generalizing docs with
  | zero =>
    refine (await_lockstep b b' _ rfl ⟨rfl, rfl⟩).bindE (fun more => ?_) fun _ => rfl
    cases more with
    | true => exact .ret rfl
    | false => exact .ret rfl
  | succ room ih =>
    refine (await_lockstep b b' _ rfl ⟨rfl, rfl⟩).bindE (fun more => ?_) fun _ => rfl
    cases more with
    | false => exact .ret rfl
    | true =>
      refine Lockstep.bindE ?_ (fun doc => ih _) fun _ => rfl
      refine lockstep_askWithin ⟨rfl, rfl⟩ fun read => ?_
      exact .ret rfl

private theorem drainCursor_lockstep (client : ClientId) (cursor : CursorId) (maxDocs : Nat) :
    Lockstep (untimed (OnHandle (.mongo client))) Eq (drainCursor lib b client cursor maxDocs).run
      (drainCursor lib b' client cursor maxDocs).run := by
  refine (drainDocs_lockstep lib b b' client cursor maxDocs []).bindE (fun drained => ?_)
    fun _ => rfl
  exact .ret rfl

abbrev MongoCall.on (call : MongoCall) (name : String) : Collection :=
  ⟨call.client, call.database, name⟩

section

variable (call : MongoCall) (d' : Instant) (name : String) (payload : MongoPayload)

private theorem doFind_lockstep :
    Lockstep (untimed (OnHandle (.mongo call.client))) Eq (doFind lib b call (call.on name) payload).run
      (doFind lib b' { call with deadline := d' } (call.on name) payload).run := by
  refine (lockstep_only (only_ofExcept _)).bindE (fun filter => ?_) fun _ => rfl
  refine (lockstep_only (only_ofExcept _)).bindE (fun sort => ?_) fun _ => rfl
  refine (lockstep_only (only_ofExcept _)).bindE (fun projection => ?_) fun _ => rfl
  refine (await_lockstep b b' _ rfl ⟨rfl, rfl⟩).bindE (fun cursor => ?_) fun _ => rfl
  exact drainCursor_lockstep lib b b' call.client cursor call.maxDocs

private theorem doFindOne_lockstep :
    Lockstep (untimed (OnHandle (.mongo call.client))) Eq (doFindOne lib b (call.on name) payload).run
      (doFindOne lib b' (call.on name) payload).run := by
  refine (lockstep_only (only_ofExcept _)).bindE (fun filter => ?_) fun _ => rfl
  refine (await_lockstep b b' _ rfl ⟨rfl, rfl⟩).bindE (fun found => ?_) fun _ => rfl
  exact .ret rfl

private theorem doCount_lockstep :
    Lockstep (untimed (OnHandle (.mongo call.client))) Eq (doCount lib b call (call.on name) payload).run
      (doCount lib b' { call with deadline := d' } (call.on name) payload).run := by
  refine (lockstep_only (only_ofExcept _)).bindE (fun filter => ?_) fun _ => rfl
  refine (await_lockstep b b' _ rfl ⟨rfl, rfl⟩).bindE (fun count => ?_) fun _ => rfl
  exact .ret rfl

private theorem doAggregate_lockstep :
    Lockstep (untimed (OnHandle (.mongo call.client))) Eq (doAggregate lib b call (call.on name) payload).run
      (doAggregate lib b' { call with deadline := d' } (call.on name) payload).run := by
  refine (lockstep_only (only_ofExcept _)).bindE (fun pipeline => ?_) fun _ => rfl
  refine (await_lockstep b b' _ rfl ⟨rfl, rfl⟩).bindE (fun cursor => ?_) fun _ => rfl
  exact drainCursor_lockstep lib b b' call.client cursor call.maxDocs

private theorem doInsertOne_lockstep :
    Lockstep (untimed (OnHandle (.mongo call.client))) Eq (doInsertOne lib b (call.on name) payload).run
      (doInsertOne lib b' (call.on name) payload).run := by
  refine (lockstep_only (only_ofExcept _)).bindE (fun doc => ?_) fun _ => rfl
  refine (await_lockstep b b' _ rfl ⟨rfl, rfl⟩).bindE (fun id => ?_) fun _ => rfl
  exact .ret rfl

private theorem doInsertMany_lockstep :
    Lockstep (untimed (OnHandle (.mongo call.client))) Eq (doInsertMany lib b (call.on name) payload).run
      (doInsertMany lib b' (call.on name) payload).run := by
  refine (lockstep_only (only_ofExcept _)).bindE (fun docs => ?_) fun _ => rfl
  split
  · exact lockstep_only (only_ofExcept _)
  · refine (await_lockstep b b' _ rfl ⟨rfl, rfl⟩).bindE (fun inserted => ?_)
      fun _ => rfl
    exact .ret rfl

private theorem doUpdate_lockstep (many : Bool) :
    Lockstep (untimed (OnHandle (.mongo call.client))) Eq (doUpdate lib b (call.on name) payload many).run
      (doUpdate lib b' (call.on name) payload many).run := by
  refine (lockstep_only (only_ofExcept _)).bindE (fun filter => ?_) fun _ => rfl
  refine (lockstep_only (only_ofExcept _)).bindE (fun update => ?_) fun _ => rfl
  refine (await_lockstep b b' _ rfl ⟨rfl, rfl⟩).bindE (fun result => ?_) fun _ => rfl
  exact .ret rfl

private theorem doDelete_lockstep (many : Bool) :
    Lockstep (untimed (OnHandle (.mongo call.client))) Eq (doDelete lib b (call.on name) payload many).run
      (doDelete lib b' (call.on name) payload many).run := by
  refine (lockstep_only (only_ofExcept _)).bindE (fun filter => ?_) fun _ => rfl
  refine (await_lockstep b b' _ rfl ⟨rfl, rfl⟩).bindE (fun deleted => ?_) fun _ => rfl
  exact .ret rfl

theorem run_lockstep (action : String) :
    Lockstep (untimed (OnHandle (.mongo call.client))) Eq (run lib b call (call.on name) action payload).run
      (run lib b' { call with deadline := d' } (call.on name) action payload).run := by
  unfold run
  split
  · exact doFind_lockstep lib b b' call d' name payload
  · exact doFindOne_lockstep lib b b' call name payload
  · exact doCount_lockstep lib b b' call d' name payload
  · exact doAggregate_lockstep lib b b' call d' name payload
  · exact doInsertOne_lockstep lib b b' call name payload
  · exact doInsertMany_lockstep lib b b' call name payload
  · exact doUpdate_lockstep lib b b' call name payload false
  · exact doUpdate_lockstep lib b b' call name payload true
  · exact doDelete_lockstep lib b b' call name payload false
  · exact doDelete_lockstep lib b b' call name payload true
  · exact lockstep_only (only_ofExcept _)

end

private theorem dispatch_lockstep (call : MongoCall) (d' : Instant)
    (action name payloadJson : String) :
    Lockstep (untimed (OnHandle (.mongo call.client))) Eq (dispatch lib call action name payloadJson).run
      (dispatch lib { call with deadline := d' } action name payloadJson).run := by
  refine (lockstep_only (only_ofExcept _)).bindE (fun fields => ?_) fun _ => rfl
  refine lockstep_now fun t t' => ?_
  exact run_lockstep lib _ _ call d' name _ action

/-- A backend but for its deadline and the time its calls took. -/
def MongoBackend.timeless (self : MongoBackend) : MongoBackend :=
  { self with
    deadline := 0
    metrics := self.metrics.map fun metric => { metric with durationUs := 0 } }

theorem buildMetric_lockstep {P : Call → Prop} {α β : Type} {Q : α → β → Prop} (action : String)
    (outcome : Option MongoOutcome) (start start' : Instant) {f : MongoMetric → Fab α}
    {g : MongoMetric → Fab β}
    (h : ∀ metric d', Lockstep (untimed P) Q (f metric) (g { metric with durationUs := d' })) :
    Lockstep (untimed P) Q (buildMetric action outcome start >>= f)
      (buildMetric action outcome start' >>= g) := by
  unfold buildMetric
  simp only [bind_assoc, pure_bind]
  exact lockstep_elapsed fun d d' => h _ d'

theorem call_lockstep {self self' : MongoBackend} (h : self.timeless = self'.timeless)
    (action collection payloadJson : String) :
    Lockstep (untimed (OnHandle (.mongo self.client)))
      (fun r r' => r.1 = r'.1 ∧ r.2.timeless = r'.2.timeless ∧ r.2.client = self.client ∧
        r.2 = { self with metrics := r.2.metrics })
      (self.call lib action collection payloadJson)
      (self'.call lib action collection payloadJson) := by
  obtain ⟨client, database, deadline, maxDocs, opTimeoutMs, metrics⟩ := self
  obtain ⟨client', database', deadline', maxDocs', opTimeoutMs', metrics'⟩ := self'
  simp only [MongoBackend.timeless, MongoBackend.mk.injEq, true_and] at h
  obtain ⟨rfl, rfl, rfl, rfl, hmetrics⟩ := h
  refine lockstep_now fun start start' => ?_
  refine (dispatch_lockstep lib ⟨client, database, deadline, maxDocs, opTimeoutMs⟩ deadline'
    action collection payloadJson).bind fun result _ heq => ?_
  subst heq
  refine buildMetric_lockstep action _ start start' fun metric d' => .ret ?_
  refine ⟨rfl, ?_, rfl, rfl⟩
  simp [MongoBackend.timeless, Collector.record, hmetrics]

end Mongo

end Fabricd
