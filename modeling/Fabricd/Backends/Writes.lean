import Fabricd.Deliveries
import Fabricd.Backends.Documents

/-!
# The writes of a session

What a session changes in its collections: at most one write a call, the one its payload says.
An `aggregate` writes if its pipeline stores what it comes to; the other actions that read do not.
-/

namespace Fabricd.Mongo

open Framework Mongodb ClientAuth

/-- A change. That of a pipeline is where its `$out` or `$merge` says, which may be another
collection or another database. -/
inductive Change where
  | insertOne (doc : Document)
  | insertMany (docs : List Document)
  | update (many : Bool) (filter update : Document)
  | delete (many : Bool) (filter : Document)
  | pipeline (stages : List Document)

/-- A change, and the collection it is asked of. -/
structure Write where
  database : String
  collection : String
  change : Change

/-- The driver reports the success of a write. -/
def acknowledged {α : Type} : Option (Except DriverError α) → Bool
  | some (.ok _) => true
  | _ => false

/-- The stage of a pipeline stores what the pipeline comes to. -/
def stores (stage : Document) : Bool :=
  stage.any fun field => field.1 = "$out" || field.1 = "$merge"

/-- The change a pipeline makes, if it stores anything. -/
def storing (pipeline : List Document) : Option Change :=
  if pipeline.any stores then some (.pipeline pipeline) else none

/-- The write a request hands over, and whether its success was reported. -/
def offer : Event Fx → Option (Write × Bool)
  | ⟨⟨.mongo (.insertOne on doc), _⟩, (answer : Option (Except DriverError Bson))⟩ =>
    some (⟨on.database, on.name, .insertOne doc⟩, acknowledged answer)
  | ⟨⟨.mongo (.insertMany on docs), _⟩, (answer : Option (Except DriverError Nat))⟩ =>
    some (⟨on.database, on.name, .insertMany docs⟩, acknowledged answer)
  | ⟨⟨.mongo (.update many on filter update), _⟩,
      (answer : Option (Except DriverError UpdateResult))⟩ =>
    some (⟨on.database, on.name, .update many filter update⟩, acknowledged answer)
  | ⟨⟨.mongo (.delete many on filter), _⟩, (answer : Option (Except DriverError UInt64))⟩ =>
    some (⟨on.database, on.name, .delete many filter⟩, acknowledged answer)
  | ⟨⟨.mongo (.aggregate on pipeline _), _⟩, (answer : Option (Except DriverError CursorId))⟩ =>
    (storing pipeline).map fun change => (⟨on.database, on.name, change⟩, acknowledged answer)
  | _ => none

private theorem offer_mongo (e : Event Fx) (h : e.op.call.capability ≠ some .mongo) :
    offer e = none := by
  obtain ⟨⟨call, budget⟩, answer⟩ := e
  cases call with
  | mongo op => exact absurd rfl h
  | _ => rfl

/-! ## Plans -/

def writeActions : List String :=
  ["insert_one", "insert_many", "update_one", "update_many", "delete_one", "delete_many"]

def batch (lib : Lib) (docs : Json) : Option (List Document) :=
  match docsToDocs lib docs with
  | .ok (doc :: docs) => some (doc :: docs)
  | _ => none

/-- The change a payload asks for. -/
def change (lib : Lib) (payload : MongoPayload) : String → Option Change
  | "insert_one" => (jsonToDoc lib payload.doc).toOption.map .insertOne
  | "insert_many" => (batch lib payload.docs).map .insertMany
  | "update_one" => updates false
  | "update_many" => updates true
  | "delete_one" => (jsonToDoc lib payload.filter).toOption.map (.delete false)
  | "delete_many" => (jsonToDoc lib payload.filter).toOption.map (.delete true)
  | "aggregate" => (pipelineToDocs lib payload.pipeline).toOption.bind storing
  | _ => none
where
  updates (many : Bool) : Option Change :=
    match jsonToDoc lib payload.filter, jsonToDoc lib payload.update with
    | .ok filter, .ok update => some (.update many filter update)
    | _, _ => none

def writes (database collection : String) (change : Option Change) : List Write :=
  change.toList.map (⟨database, collection, ·⟩)

def planOn (lib : Lib) (database collection action payloadJson : String) : List Write :=
  match lib.mongoPayload payloadJson with
  | .error _ => []
  | .ok fields => writes database collection (change lib (.ofFields fields) action)

/-- What a call is to write: one change, asked of the collection it names in the operator's
database. -/
def plan (lib : Lib) (config : MongoConfig) (action payloadJson : String) : List Write :=
  match parseMongoPayload lib payloadJson with
  | .error _ => []
  | .ok (name, dataJson) => planOn lib config.database name action dataJson

/-- A write action that succeeds has written. A pipeline may have stored what it comes to
although its cursor cannot be drained. -/
def contract (lib : Lib) (config : MongoConfig) : Contract Write where
  plan := plan lib config
  acts action := action ∈ writeActions
  spares action := action = "aggregate"

/-! ## Awaiting -/

section

variable {budget : Duration} {α : Type} {op : Mongodb.Op}
  {hans : op.Ans = Option (Except DriverError α)}

/-- A request that hands over nothing. -/
def Reads (op : FxOp) : Prop := ∀ ans, offer ⟨op, ans⟩ = none

private theorem await_only (h : Reads ⟨.mongo op, some budget⟩) :
    OnlyE Reads (await budget op hans) := by
  refine Prog.Only.bind (Prog.Only.perform h) fun answer => ?_
  generalize (cast hans answer : Option (Except DriverError α)) = reply
  rcases reply with _ | _ | _ <;> trivial

private theorem await_offers {write : Write}
    (h : ∀ answer, offer ⟨⟨.mongo op, some budget⟩, answer⟩ =
      some (write, acknowledged (cast hans answer))) :
    (await budget op hans).run.Meets (delivery offer)
      (fun left r => left = if r.isOk then some [] else none) (some [write]) := by
  refine (Prog.perform_offer (fun answer => acknowledged (cast hans answer)) h).bind
    fun left answer hleft => ?_
  rw [hleft]
  generalize (cast hans answer : Option (Except DriverError α)) = reply
  rcases reply with _ | _ | _ <;> exact rfl

private theorem await_write {write : Write} {acts spares : Prop} {f : α → MongoOutcome}
    (h : ∀ answer, offer ⟨⟨.mongo op, some budget⟩, answer⟩ =
      some (write, acknowledged (cast hans answer))) :
    (await budget op hans >>= fun a => pure (f a)).run.Meets (delivery offer)
      (fun left r => Tells [write] acts spares (left = some []) r) (some [write]) := by
  apply Meets.stages (await_offers h)
  · rintro _ err rfl
    exact .stopped err
  · rintro _ a rfl
    exact .sent (fun _ => List.cons_ne_nil _ _) _

end

/-! ## Actions -/

/-- The course of a call that has something planned. -/
def Delivers {α : Type} (acts spares : Prop) (planned : List Write) (p : Fab (Except MongoError α)) :
    Prop :=
  p.Meets (delivery offer) (fun left r => Tells planned acts spares (left = some []) r) (some planned)

private theorem reads_deliver {α : Type} {acts spares : Prop} {p : Fab (Except MongoError α)}
    (h : p.Only Reads) (hacts : ¬acts) : Delivers acts spares [] p := by
  have hquiet : p.Only (delivery offer).Overlooks := h.mono fun op hop => delivery_overlooks hop
  refine (Prog.Sat.overlooked hquiet (some [])).mono ?_
  rintro _ r ⟨rfl, -⟩
  exact .idle hacts r

section

variable (lib : Lib) (budget : Duration) (call : MongoCall) (on : Collection) (payload : MongoPayload)

private theorem pure_reads {α : Type} (r : Except MongoError α) : OnlyE Reads (ofExcept r) :=
  Prog.Only.pure r

private theorem drainDocs_reads (client : ClientId) (cursor : CursorId) (room : Nat)
    (docs : List Json) :
    OnlyE Reads (drainDocs lib budget client cursor room docs) := by
  have hadvance : OnlyE Reads
      (await budget (.advance client cursor) rfl : FabE MongoError Bool) := await_only fun _ => rfl
  induction room generalizing docs with
  | zero =>
    refine hadvance.bind fun more => ?_
    cases more <;> trivial
  | succ room ih =>
    refine hadvance.bind fun more => ?_
    cases more with
    | false => trivial
    | true =>
      refine OnlyE.bind ?_ fun doc => ih _
      exact Prog.Only.bind (Prog.Only.perform fun _ => rfl) fun read => trivial

private theorem drainCursor_reads (client : ClientId) (cursor : CursorId) (maxDocs : Nat) :
    OnlyE Reads (drainCursor lib budget client cursor maxDocs) :=
  (drainDocs_reads lib budget client cursor maxDocs []).bind fun _ => trivial

private theorem doFind_reads : OnlyE Reads (doFind lib budget call on payload) := by
  refine (pure_reads _).bind fun _ => (pure_reads _).bind fun _ => (pure_reads _).bind fun _ => ?_
  exact (await_only fun _ => rfl).bind fun cursor => drainCursor_reads lib budget _ cursor _

private theorem doFindOne_reads : OnlyE Reads (doFindOne lib budget on payload) :=
  (pure_reads _).bind fun _ => (await_only fun _ => rfl).bind fun _ => trivial

private theorem doCount_reads : OnlyE Reads (doCount lib budget call on payload) :=
  (pure_reads _).bind fun _ => (await_only fun _ => rfl).bind fun _ => trivial

/-- A pipeline is a read, or a write whose answer is then drained. -/
theorem doAggregate_delivers {acts : Prop} (hacts : ¬acts) :
    Delivers acts True
      (writes on.database on.name ((pipelineToDocs lib payload.pipeline).toOption.bind storing))
      (doAggregate lib budget call on payload).run := by
  unfold doAggregate
  cases pipelineToDocs lib payload.pipeline with
  | error err => exact .unsent err
  | ok pipeline =>
    show Delivers acts True (writes on.database on.name (storing pipeline)) _
    cases hstoring : storing pipeline with
    | none =>
      have hreads : Reads ⟨.mongo (.aggregate on pipeline call.opTimeoutMs), some budget⟩ :=
        fun ans => by simp only [offer, hstoring, Option.map_none]
      refine reads_deliver ?_ hacts
      exact (await_only hreads).bind fun cursor => drainCursor_reads lib budget _ cursor _
    | some change =>
      have hawait : (await budget (.aggregate on pipeline call.opTimeoutMs) rfl :
          FabE MongoError CursorId).run.Meets (delivery offer)
          (fun left r => left = if r.isOk then some [] else none)
          (some [⟨on.database, on.name, change⟩]) :=
        await_offers fun answer => by
          simp only [offer, hstoring, Option.map_some]
          rfl
      show Prog.Meets _ _ _ ((await budget (.aggregate on pipeline call.opTimeoutMs) rfl :
        FabE MongoError CursorId) >>= fun cursor =>
          drainCursor lib budget call.client cursor call.maxDocs).run
      apply Meets.stages hawait
      · rintro _ err rfl
        exact .stopped err
      · rintro _ cursor rfl
        have hdrain : (drainCursor lib budget call.client cursor call.maxDocs).run.Only
            (delivery offer).Overlooks :=
          (drainCursor_reads lib budget _ cursor _).mono fun op hop => delivery_overlooks hop
        refine (Prog.Sat.overlooked hdrain (some [])).mono ?_
        rintro _ r ⟨rfl, -⟩
        exact ⟨fun _ => ⟨rfl, fun h => absurd h hacts⟩, fun _ _ _ => trivial⟩

private theorem doInsertOne_delivers (acts spares : Prop) :
    Delivers acts spares (writes on.database on.name ((jsonToDoc lib payload.doc).toOption.map .insertOne))
      (doInsertOne lib budget on payload).run := by
  unfold doInsertOne
  cases jsonToDoc lib payload.doc with
  | error err => exact .unsent err
  | ok doc => exact await_write fun _ => rfl

private theorem doInsertMany_delivers (acts spares : Prop) :
    Delivers acts spares (writes on.database on.name ((batch lib payload.docs).map .insertMany))
      (doInsertMany lib budget on payload).run := by
  unfold doInsertMany batch
  cases docsToDocs lib payload.docs with
  | error err => exact .unsent err
  | ok docs =>
    cases docs with
    | nil => exact .unsent _
    | cons doc docs => exact await_write fun _ => rfl

private theorem doUpdate_delivers (acts spares : Prop) (many : Bool) :
    Delivers acts spares (writes on.database on.name (change.updates lib payload many))
      (doUpdate lib budget on payload many).run := by
  unfold doUpdate change.updates
  cases jsonToDoc lib payload.filter with
  | error err => exact .unsent err
  | ok filter =>
    cases jsonToDoc lib payload.update with
    | error err => exact .unsent err
    | ok update => exact await_write fun _ => rfl

private theorem doDelete_delivers (acts spares : Prop) (many : Bool) :
    Delivers acts spares (writes on.database on.name ((jsonToDoc lib payload.filter).toOption.map (.delete many)))
      (doDelete lib budget on payload many).run := by
  unfold doDelete
  cases jsonToDoc lib payload.filter with
  | error err => exact .unsent err
  | ok filter => exact await_write fun _ => rfl

/-- One case an action. -/
theorem run_delivers (action : String) :
    Delivers (action ∈ writeActions) (action = "aggregate")
      (writes on.database on.name (change lib payload action))
      (run lib budget call on action payload).run := by
  unfold run
  split
  · exact reads_deliver (doFind_reads lib budget call on payload) (by simp [writeActions])
  · exact reads_deliver (doFindOne_reads lib budget on payload) (by simp [writeActions])
  · exact reads_deliver (doCount_reads lib budget call on payload) (by simp [writeActions])
  · refine (doAggregate_delivers lib budget call on payload (by simp [writeActions])).mono
      fun left r h => ⟨h.success, fun _ _ _ => rfl⟩
  · exact doInsertOne_delivers lib budget on payload _ _
  · exact doInsertMany_delivers lib budget on payload _ _
  · exact doUpdate_delivers lib budget on payload _ _ false
  · exact doUpdate_delivers lib budget on payload _ _ true
  · exact doDelete_delivers lib budget on payload _ _ false
  · exact doDelete_delivers lib budget on payload _ _ true
  · exact .unsent _

end

/-! ## One call -/

section

variable (lib : Lib)

theorem dispatch_delivers (call : MongoCall) (action name payloadJson : String) :
    Delivers (action ∈ writeActions) (action = "aggregate")
      (planOn lib call.database name action payloadJson)
      (dispatch lib call action name payloadJson).run := by
  unfold dispatch planOn
  cases lib.mongoPayload payloadJson with
  | error err => exact .unsent _
  | ok fields =>
    refine (Prog.perform_quiet (fun _ => rfl) _).bind ?_
    rintro _ (t : Instant) rfl
    have hrun := run_delivers lib (call.deadline - t) call ⟨call.client, call.database, name⟩
      (.ofFields fields) action
    exact hrun

theorem buildMetric_only (action : String) (outcome : Option MongoOutcome) (start : Instant) :
    (buildMetric action outcome start).Only (On (· = .now)) := by
  cases outcome with
  | none | some out => exact ⟨rfl, fun _ => trivial⟩

/-- A backend is on the operator's database. -/
def OnDatabase (config : MongoConfig) (backend : MongoBackend) : Prop :=
  backend.database = config.database

private theorem call_delivers (config : MongoConfig) {backend : MongoBackend}
    (hdatabase : OnDatabase config backend) (action name payloadJson : String) :
    (backend.call lib action name payloadJson).Meets (delivery offer)
      (fun left r => Tells (planOn lib config.database name action payloadJson)
        (action ∈ writeActions) (action = "aggregate") (left = some []) r.1 ∧ OnDatabase config r.2)
      (some (planOn lib config.database name action payloadJson)) := by
  have hdispatch := dispatch_delivers lib
    ⟨backend.client, backend.database, backend.deadline, backend.maxDocs, backend.opTimeoutMs⟩
    action name payloadJson
  have hsame : backend.database = config.database := hdatabase
  rw [← hsame]
  refine measured_meets (fun op hop => delivery_overlooks (offer_now offer_mongo op hop))
    (fun result start => buildMetric_only action _ start) hdispatch fun left result metric h => ?_
  refine ⟨h.of_isOk ?_, hsame⟩
  cases result <;> rfl

private theorem runMongo_delivers (config : MongoConfig) (backend : MongoBackend)
    (hdatabase : OnDatabase config backend) (action payloadJson : String) :
    (BackendSet.runMongo lib action payloadJson backend).Meets (delivery offer)
      (fun left r => (contract lib config).Tells action payloadJson (left = some []) r.1 ∧
        OnDatabase config r.2)
      (some ((contract lib config).plan action payloadJson)) := by
  have hplan : (contract lib config).plan action payloadJson = plan lib config action payloadJson := rfl
  unfold Contract.Tells
  rw [hplan]
  unfold BackendSet.runMongo plan
  cases parseMongoPayload lib payloadJson with
  | error err => exact ⟨.unsent err, hdatabase⟩
  | ok named =>
    obtain ⟨name, dataJson⟩ := named
    refine (call_delivers lib config hdatabase action name dataJson).bind fun left r h => ?_
    refine ⟨h.1.of_isOk ?_, h.2⟩
    cases r.1 <;> rfl

end

theorem connect_quiet (slot : MongoSlot) :
    (MongoSlot.connect slot).Sat (fun op => ∀ ans, offer ⟨op, ans⟩ = none)
      (fun r => ∀ backend, r = .ok backend → OnDatabase slot.config backend) := by
  have hbuild : (ask (.mongo (.build (buildUri slot.config)))).Only
      (fun op => ∀ ans, offer ⟨op, ans⟩ = none) := Prog.Only.perform fun _ => rfl
  refine Prog.Sat.bind hbuild fun built _ => ?_
  cases built with
  | error err => exact nofun
  | ok client =>
    have hanchor : (anchorDeadline slot.deps.timeout).Only (fun op => ∀ ans, offer ⟨op, ans⟩ = none) :=
      (only_anchorDeadline slot.deps.timeout).mono (offer_now offer_mongo)
    refine Prog.Sat.bind hanchor fun deadline _ => ?_
    rintro _ ⟨rfl⟩
    exact rfl

/-! ## One session -/

/-- A server that takes inserts and pipelines in time, and no more. -/
def slowServer : Env Fx Unit
  | w, ⟨.now, _⟩ => ((0 : Nat), w)
  | w, ⟨.mongo (.build _), _⟩ => (Except.ok 0, w)
  | w, ⟨.mongo (.insertOne _ _), _⟩ => (some (.ok .null), w)
  | w, ⟨.mongo (.findOne _ _), _⟩ => (some (.ok none), w)
  | w, ⟨.mongo (.aggregate _ _ _), _⟩ => (some (.ok 0), w)
  | w, ⟨call, _⟩ => ((default : call.Ans), w)

def shopLib : Lib :=
  { serdeLib with
    mongoEnvelope := fun _ => .ok ⟨some "orders", none⟩
    mongoPayload := fun _ =>
      .ok ⟨none, none, none, none, some (.array [.object [("$out", .string "backup")]]), none⟩
    toStr := fun _ => .ok "" }

def shopConfig : MongoConfig :=
  ⟨"mongo.test", 27017, none, none, "shop", "admin", false, none, 5000, 10⟩

def shopShared : Shared where
  table name := if name = "shop" then some ⟨none, .mongo shopConfig⟩ else none
  maxStatementTimeoutMs := 0
  breaker := false

/-- An insert, a read, a copy that cannot be drained and an update that is not answered in time. -/
def shopInput : Input :=
  [.ok (.init { WireInit.empty with mongo := some "shop", timeoutMs := 1000 }),
    .ok (.call ⟨"mongo", "insert_one", ""⟩), .ok (.call ⟨"mongo", "find_one", ""⟩),
    .ok (.call ⟨"mongo", "aggregate", ""⟩), .ok (.call ⟨"mongo", "update_one", ""⟩)]

def shopSession : Outcome Fx Unit (Except String Unit) :=
  Prog.run slowServer () (serve shopLib shopShared .none shopInput).run

end Fabricd.Mongo
