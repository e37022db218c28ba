import Fabricd.Effects
import Fabricd.Lib
import Fabricd.Framework.Bytes

/-!
# The `mongo` backend

Building the connection string, running one operation under the execution deadline,
and converting documents in both directions.
-/

namespace Fabricd.Mongo

open Framework Mongodb

def mongoFallback : Fault := ⟨"MONGO_ERROR", true, .operator⟩

def mongoConnection : Fault := ⟨"MONGO_CONNECTION", true, .operator⟩

def mongoTimeout : Fault := ⟨"MONGO_TIMEOUT", true, .operator⟩

def mongoWrite : Fault := ⟨"MONGO_WRITE", false, .developer⟩

def mongoQuery : Fault := ⟨"MONGO_QUERY", false, .developer⟩

structure MongoConfig where
  host : String
  port : UInt16
  username : Option String
  password : Option String
  database : String
  authSource : String
  tls : Bool
  caCert : Option String
  opTimeoutMs : UInt64
  maxDocs : Nat
  deriving DecidableEq

structure MongoError where
  fault : Fault
  message : String
  details : Option Json

def classifyCommand (code : Int32) : Fault :=
  match code.toInt with
  | 11000 | 11001 => mongoWrite
  | 13 | 18 => mongoConnection
  | 2 | 4 | 9 | 14 | 40 | 51 | 52 | 168 => mongoQuery
  | _ => mongoFallback

def classify (err : DriverError) : Fault :=
  match err.kind with
  | .authentication | .io | .serverSelection => mongoConnection
  | .write | .bulkWrite => mongoWrite
  | .command code => classifyCommand code
  | .invalidArgument => mongoQuery
  | _ => mongoFallback

namespace MongoError

def query (message : String) : MongoError := ⟨mongoQuery, message, none⟩

def timeout : MongoError :=
  ⟨mongoTimeout, "mongo operation exceeded the execution deadline", none⟩

def fromDriver (err : DriverError) : MongoError := ⟨classify err, err.message, none⟩

def intoResourceError (self : MongoError) : EgressError :=
  { code := self.fault.code
    message := self.message
    source := "mongo"
    details := self.details
    retryable := self.fault.retryable
    owner := self.fault.owner }

end MongoError

/-! ## Connecting -/

def hexDigit (n : Nat) : Char := "0123456789ABCDEF".toList.getD n '0'

def isAlphanumeric (b : UInt8) : Bool :=
  (48 ≤ b && b ≤ 57) || (65 ≤ b && b ≤ 90) || (97 ≤ b && b ≤ 122)

/-- One byte under `NON_ALPHANUMERIC`: itself, or a percent triplet. -/
def encodeByte (b : UInt8) : List Char :=
  if isAlphanumeric b then [Char.ofNat b.toNat]
  else ['%', hexDigit (b.toNat / 16), hexDigit (b.toNat % 16)]

/-- `utf8_percent_encode(value, NON_ALPHANUMERIC)`. -/
def encode (value : String) : String :=
  String.ofList ((utf8Bytes value).flatMap encodeByte)

/-- Builds the `mongodb://` connection URI of one operator-supplied host. -/
def buildUri (config : MongoConfig) : String :=
  let userinfo :=
    match config.username with
    | none => ""
    | some username =>
      let password :=
        match config.password with
        | none => ""
        | some password => ":" ++ encode password
      encode username ++ password ++ "@"
  let authSource :=
    match config.username with
    | none => ""
    | some _ => "&authSource=" ++ encode config.authSource
  let tls :=
    if config.tls then
      let ca :=
        match config.caCert with
        | none => ""
        | some ca => "&tlsCAFile=" ++ encode ca
      "&tls=true" ++ ca
    else ""
  "mongodb://" ++ userinfo ++ config.host ++ ":" ++ toString config.port
    ++ "/?directConnection=true&appName=runlet"
    ++ "&connectTimeoutMS=5000&serverSelectionTimeoutMS=5000"
    ++ authSource ++ tls

/-- A built backend. The driver connects on its first operation. -/
structure MongoBackend where
  client : ClientId
  database : String
  deadline : Instant
  maxDocs : Nat
  opTimeoutMs : UInt64
  metrics : Collector MongoMetric

def MongoBackend.connectResource (config : MongoConfig) (timeout : Duration) :
    Fab (Except EgressError MongoBackend) := do
  let built : Except DriverError ClientId ← ask (.mongo (.build (buildUri config)))
  match built with
  | .error err => return .error (MongoError.fromDriver err).intoResourceError
  | .ok client =>
    let deadline ← anchorDeadline timeout
    return .ok
      { client
        database := config.database
        deadline
        maxDocs := config.maxDocs
        opTimeoutMs := config.opTimeoutMs
        metrics := [] }

/-! ## BSON to JSON -/

mutual

/-- Values a JSON number does not hold exactly come back as text. -/
def bsonToJson (lib : Lib) : Bson → Json
  | .double num =>
    match Number.fromF64 num with
    | some num => .number num
    | none => .null
  | .string text => .string text
  | .boolean flag => .bool flag
  | .null => .null
  | .int32 int => .ofInt int.toInt
  | .int64 int => .string (toString int.toInt)
  | .objectId oid => .string (lib.toHex oid)
  | .decimal128 dec => .string (lib.decimal128ToString dec)
  | .dateTime date =>
    match lib.tryToRfc3339 date with
    | .ok text => .string text
    | .error _ => .string (toString date.toInt)
  | .binary bin => .string (lib.base64 bin)
  | .array items => .array (arrayToJson lib items)
  | .document doc => .object (documentFields lib [] doc)
  | .exotic text => .string text

def arrayToJson (lib : Lib) : List Bson → List Json
  | [] => []
  | item :: items => bsonToJson lib item :: arrayToJson lib items

/-- Inserts the fields of a document one by one into an object. -/
def documentFields (lib : Lib) (obj : List (String × Json)) : Document → List (String × Json)
  | [] => obj
  | (key, val) :: fields => documentFields lib (Json.insert obj key (bsonToJson lib val)) fields

end

def documentToJson (lib : Lib) (doc : Document) : Json := .object (documentFields lib [] doc)

/-- Renders an inserted id as a string. -/
def idToString (lib : Lib) : Bson → String
  | .objectId oid => lib.toHex oid
  | .string text => text
  | other => lib.display (bsonToJson lib other)

/-! ## JSON to BSON -/

/-- A JSON value as a document: null is the empty one, other non-objects are refused. -/
def jsonToDoc (lib : Lib) (value : Json) : Except MongoError Document :=
  if value.isNull then .ok []
  else
    match lib.toBson value with
    | .ok (.document doc) => .ok doc
    | .ok _ => .error (.query "expected a JSON object")
    | .error err => .error (.query s!"invalid document: {err}")

/-- A JSON array as a list of documents. -/
def docsToDocs (lib : Lib) : Json → Except MongoError (List Document)
  | .null => .ok []
  | .array items => items.mapM (jsonToDoc lib)
  | _ => .error (.query "expected a JSON array")

def pipelineToDocs (lib : Lib) (value : Json) : Except MongoError (List Document) :=
  docsToDocs lib value

/-! ## Payloads -/

structure FindOpts where
  limit : Option Int64
  skip : Option UInt64
  sort : Option Json
  projection : Option Json

/-- A parsed payload: every field optional, interpreted per action. -/
structure MongoPayload where
  filter : Json
  update : Json
  doc : Json
  docs : Json
  pipeline : Json
  options : FindOpts

def FindOpts.ofFields : Option FindOptFields → FindOpts
  | none => ⟨none, none, none, none⟩
  | some fields => ⟨fields.limit, fields.skip, fields.sort, fields.projection⟩

def MongoPayload.ofFields (fields : MongoPayloadFields) : MongoPayload :=
  { filter := fields.filter.getD .null
    update := fields.update.getD .null
    doc := fields.doc.getD .null
    docs := fields.docs.getD .null
    pipeline := fields.pipeline.getD .null
    options := .ofFields fields.options }

/-! ## Operations -/

/-- The handle, the deadline and the limits of one call. -/
structure MongoCall where
  client : ClientId
  database : String
  deadline : Instant
  maxDocs : Nat
  opTimeoutMs : UInt64

structure MongoOutcome where
  json : String
  docsReturned : Nat
  docsAffected : UInt64
  truncated : Bool

/-- Awaits one driver request within the call's budget. When the timer elapses the
whole operation is dropped at this await. -/
def await {α : Type} (budget : Duration) (op : Mongodb.Op)
    (h : op.Ans = Option (Except DriverError α)) : FabE MongoError α :=
  ExceptT.mk do
    let answer ← askWithin budget (.mongo op)
    match (cast h answer : Option (Except DriverError α)) with
    | some (.ok value) => return .ok value
    | some (.error err) => return .error (.fromDriver err)
    | none => return .error .timeout

/-- Drains a cursor, stopping at the first document past `room` more. -/
def drainDocs (lib : Lib) (budget : Duration) (client : ClientId) (cursor : CursorId) :
    Nat → List Json → FabE MongoError (List Json × Bool)
  | room, docs => do
    let more : Bool ← await budget (.advance client cursor) rfl
    if more then
      match room with
      | 0 => return (docs, true)
      | room + 1 =>
        let doc : Document ← ExceptT.mk do
          let read : Except DriverError Document ←
            askWithin budget (.mongo (.deserializeCurrent client cursor))
          return read.mapError .fromDriver
        drainDocs lib budget client cursor room (docs ++ [documentToJson lib doc])
    else
      return (docs, false)

/-- Drains a cursor into a `{docs, count, truncated}` outcome, capped at `maxDocs`. -/
def drainCursor (lib : Lib) (budget : Duration) (client : ClientId) (cursor : CursorId)
    (maxDocs : Nat) : FabE MongoError MongoOutcome := do
  let (docs, truncated) ← drainDocs lib budget client cursor maxDocs []
  let count := docs.length
  let json : Json := .object
    [("docs", .array docs), ("count", .ofUsize count), ("truncated", .bool truncated)]
  return { json := lib.display json, docsReturned := count, docsAffected := 0, truncated }

/-- `Option::map` over an optional JSON document, `?` on a bad one. -/
def optionalDoc (lib : Lib) : Option Json → Except MongoError (Option Document)
  | none => .ok none
  | some value => (jsonToDoc lib value).map some

def doFind (lib : Lib) (budget : Duration) (call : MongoCall) (collection : Collection)
    (payload : MongoPayload) : FabE MongoError MongoOutcome := do
  let filter ← ofExcept (jsonToDoc lib payload.filter)
  let sort ← ofExcept (optionalDoc lib payload.options.sort)
  let projection ← ofExcept (optionalDoc lib payload.options.projection)
  let action : FindAction :=
    { filter
      maxTimeMs := call.opTimeoutMs
      limit := payload.options.limit
      skip := payload.options.skip
      sort
      projection }
  let cursor : CursorId ← await budget (.find collection action) rfl
  drainCursor lib budget call.client cursor call.maxDocs

def doFindOne (lib : Lib) (budget : Duration) (collection : Collection)
    (payload : MongoPayload) : FabE MongoError MongoOutcome := do
  let filter ← ofExcept (jsonToDoc lib payload.filter)
  let found : Option Document ← await budget (.findOne collection filter) rfl
  let json :=
    match found with
    | none => "null"
    | some doc => lib.display (documentToJson lib doc)
  return { json, docsReturned := found.toList.length, docsAffected := 0, truncated := false }

def doCount (lib : Lib) (budget : Duration) (call : MongoCall) (collection : Collection)
    (payload : MongoPayload) : FabE MongoError MongoOutcome := do
  let filter ← ofExcept (jsonToDoc lib payload.filter)
  let count : UInt64 ← await budget (.countDocuments collection filter call.opTimeoutMs) rfl
  let json := "\x7b\"count\":" ++ toString count ++ "\x7d"
  return { json, docsReturned := 0, docsAffected := 0, truncated := false }

def doAggregate (lib : Lib) (budget : Duration) (call : MongoCall) (collection : Collection)
    (payload : MongoPayload) : FabE MongoError MongoOutcome := do
  let pipeline ← ofExcept (pipelineToDocs lib payload.pipeline)
  let cursor : CursorId ← await budget (.aggregate collection pipeline call.opTimeoutMs) rfl
  drainCursor lib budget call.client cursor call.maxDocs

def doInsertOne (lib : Lib) (budget : Duration) (collection : Collection)
    (payload : MongoPayload) : FabE MongoError MongoOutcome := do
  let doc ← ofExcept (jsonToDoc lib payload.doc)
  let insertedId : Bson ← await budget (.insertOne collection doc) rfl
  let id := idToString lib insertedId
  let encoded :=
    match lib.toStr (.string id) with
    | .ok text => text
    | .error _ => "\"\""
  let json := "\x7b\"inserted_id\":" ++ encoded ++ "\x7d"
  return { json, docsReturned := 0, docsAffected := 1, truncated := false }

def doInsertMany (lib : Lib) (budget : Duration) (collection : Collection)
    (payload : MongoPayload) : FabE MongoError MongoOutcome := do
  let docs ← ofExcept (docsToDocs lib payload.docs)
  if docs.isEmpty then
    ofExcept (.error (.query "mongo.insert_many requires at least one document"))
  else
    let inserted : Nat ← await budget (.insertMany collection docs) rfl
    let count := UInt64.ofNat inserted
    let json := "\x7b\"inserted_count\":" ++ toString count ++ "\x7d"
    return { json, docsReturned := 0, docsAffected := count, truncated := false }

def doUpdate (lib : Lib) (budget : Duration) (collection : Collection)
    (payload : MongoPayload) (many : Bool) : FabE MongoError MongoOutcome := do
  let filter ← ofExcept (jsonToDoc lib payload.filter)
  let update ← ofExcept (jsonToDoc lib payload.update)
  let result : UpdateResult ← await budget (.update many collection filter update) rfl
  let json := "\x7b\"matched\":" ++ toString result.matchedCount ++ ",\"modified\":"
    ++ toString result.modifiedCount ++ "\x7d"
  return { json, docsReturned := 0, docsAffected := result.modifiedCount, truncated := false }

def doDelete (lib : Lib) (budget : Duration) (collection : Collection)
    (payload : MongoPayload) (many : Bool) : FabE MongoError MongoOutcome := do
  let filter ← ofExcept (jsonToDoc lib payload.filter)
  let deleted : UInt64 ← await budget (.delete many collection filter) rfl
  let json := "\x7b\"deleted\":" ++ toString deleted ++ "\x7d"
  return { json, docsReturned := 0, docsAffected := deleted, truncated := false }

def run (lib : Lib) (budget : Duration) (call : MongoCall) (collection : Collection)
    (action : String) (payload : MongoPayload) : FabE MongoError MongoOutcome :=
  match action with
  | "find" => doFind lib budget call collection payload
  | "find_one" => doFindOne lib budget collection payload
  | "count" => doCount lib budget call collection payload
  | "aggregate" => doAggregate lib budget call collection payload
  | "insert_one" => doInsertOne lib budget collection payload
  | "insert_many" => doInsertMany lib budget collection payload
  | "update_one" => doUpdate lib budget collection payload false
  | "update_many" => doUpdate lib budget collection payload true
  | "delete_one" => doDelete lib budget collection payload false
  | "delete_many" => doDelete lib budget collection payload true
  | other => ofExcept (.error (.query s!"unknown mongo action: {other}"))

/-- Parses the payload and drives the operation within what is left of the deadline. -/
def dispatch (lib : Lib) (call : MongoCall) (action name payloadJson : String) :
    FabE MongoError MongoOutcome := do
  let fields ← ofExcept ((lib.mongoPayload payloadJson).mapError
    fun err => .query s!"invalid mongo payload: {err}")
  let collection : Collection := { client := call.client, database := call.database, name }
  let t : Instant ← ExceptT.lift now
  let remaining := call.deadline - t
  run lib remaining call collection action (.ofFields fields)

def buildMetric (action : String) (outcome : Option MongoOutcome) (start : Instant) :
    Fab MongoMetric := do
  let (docsReturned, docsAffected, truncated) :=
    match outcome with
    | none => (0, 0, false)
    | some out => (out.docsReturned, out.docsAffected, out.truncated)
  let durationUs ← elapsedMicros start
  return { action, durationUs, docsReturned, docsAffected, truncated }

/-- Runs one action on `collection` and records its metric. -/
def MongoBackend.call (lib : Lib) (self : MongoBackend) (action collection payloadJson : String) :
    Fab (Except MongoError String × MongoBackend) := do
  let start ← now
  let mongoCall : MongoCall :=
    { client := self.client
      database := self.database
      deadline := self.deadline
      maxDocs := self.maxDocs
      opTimeoutMs := self.opTimeoutMs }
  let result ← (dispatch lib mongoCall action collection payloadJson).run
  let metric ← buildMetric action result.toOption start
  return (result.map MongoOutcome.json, { self with metrics := self.metrics.record metric })

def MongoBackend.drainMetrics (self : MongoBackend) : List MongoMetric := self.metrics.drain

end Fabricd.Mongo
