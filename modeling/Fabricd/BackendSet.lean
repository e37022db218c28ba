import Fabricd.Resources

/-!
# The backends of one session

Each capability but `amq` connects on its first call and keeps the outcome, a backend
or the classified error, for the rest of the session.
-/

namespace Fabricd

open Framework Db Mongo Mail Kv Amq Auth

/-- What the asynchronous backends share: the breaker switch and the wall-clock budget. -/
structure AsyncDeps where
  breaker : Bool
  timeout : Duration

def notConfigured (name : String) : EgressError :=
  (EgressError.new name (String.ofList (name.toList.map Char.toUpper) ++ "_NOT_CONFIGURED")
    (name ++ " egress is not configured")).withOwner .developer

/-! ## Lazy slots -/

/-- A connect-once cell: empty, or the outcome of the one attempt. -/
abbrev OnceLock (Backend : Type) := Option (Except EgressError Backend)

/-- A capability's config, the shared parts it connects with, and its cell. -/
structure Slot (Config Deps Backend : Type) where
  config : Config
  deps : Deps
  backend : OnceLock Backend

abbrev DbSlot := Slot DbConfig AsyncDeps DbBackend
abbrev MongoSlot := Slot MongoConfig AsyncDeps MongoBackend
abbrev MailSlot := Slot MailConfig Unit MailBackend
abbrev RedisSlot := Slot RedisConfig Unit RedisBackend
abbrev AuthSlot := Slot AuthConfig Unit AuthBackend

def Slot.new {Config Deps Backend : Type} (config : Config) (deps : Deps) :
    Slot Config Deps Backend := { config, deps, backend := none }

/-- `get_or_init`: the kept outcome, or the initializer's. -/
def OnceLock.getOrInit {Backend : Type} (cell : OnceLock Backend)
    (initializer : Fab (Except EgressError Backend)) : Fab (Except EgressError Backend) :=
  match cell with
  | some outcome => return outcome
  | none => initializer

def DbSlot.connect (slot : DbSlot) : Fab (Except EgressError DbBackend) :=
  DbBackend.connectResource slot.config { timeout := slot.deps.timeout, breaker := slot.deps.breaker }

def MongoSlot.connect (slot : MongoSlot) : Fab (Except EgressError MongoBackend) :=
  MongoBackend.connectResource slot.config slot.deps.timeout

def MailSlot.connect (slot : MailSlot) : Fab (Except EgressError MailBackend) :=
  MailBackend.connectResource slot.config

def RedisSlot.connect (slot : RedisSlot) : Fab (Except EgressError RedisBackend) :=
  RedisBackend.connectResource slot.config

def AuthSlot.connect (lib : Lib) (slot : AuthSlot) : Fab (Except EgressError AuthBackend) :=
  AuthBackend.connectResource lib slot.config

/-- One call through a lazy slot: `NOT_CONFIGURED` without one, else the connect-once
backend, else its error again. The slot keeps the outcome and what the call changed. -/
def callSlot {Config Deps Backend : Type} (name : String)
    (slot : Option (Slot Config Deps Backend))
    (connect : Slot Config Deps Backend → Fab (Except EgressError Backend))
    (run : Backend → Fab (Except EgressError String × Backend)) :
    Fab (Except EgressError String × Option (Slot Config Deps Backend)) :=
  match slot with
  | none => return (.error (notConfigured name), none)
  | some slot => do
    let outcome ← slot.backend.getOrInit (connect slot)
    match outcome with
    | .error err => return (.error err, some { slot with backend := some (.error err) })
    | .ok backend =>
      let (result, backend) ← run backend
      return (result, some { slot with backend := some (.ok backend) })

/-! ## Payload unpacking -/

/-- The SQL with the re-serialized params array. -/
structure DbArgs where
  sql : String
  paramsJson : String
  deriving DecidableEq

/-- Re-serializes an optional JSON field; an absent or null one is the default. -/
def serializeOr (lib : Lib) (default : String) (field : Option Json) : String :=
  let value := field.getD .null
  if value.isNull then default
  else
    match lib.toStr value with
    | .ok text => text
    | .error _ => default

/-- Parses the `db` payload; missing or null params are `[]`. -/
def parseDbPayload (lib : Lib) (payloadJson : String) : Except EgressError DbArgs :=
  match lib.dbPayload payloadJson with
  | .error err =>
    .error ((EgressError.new "db" "DB_BAD_PAYLOAD" s!"invalid db payload: {err}").withOwner .developer)
  | .ok payload => .ok { sql := payload.sql, paramsJson := serializeOr lib "[]" payload.params }

/-- Parses the `mongo` envelope; null data is the empty object. -/
def parseMongoPayload (lib : Lib) (payloadJson : String) : Except EgressError (String × String) :=
  match lib.mongoEnvelope payloadJson with
  | .error err =>
    .error ((EgressError.new "mongo" "MONGO_QUERY" s!"invalid mongo payload: {err}").withOwner
      .developer)
  | .ok envelope => .ok (envelope.collection.getD "", serializeOr lib "\x7b\x7d" envelope.data)

/-- Parses the `auth` payload into the bearer token. -/
def parseAuthToken (lib : Lib) (payloadJson : String) : Except EgressError String :=
  match lib.authPayload payloadJson with
  | .error err =>
    .error ((EgressError.new "auth" "AUTH_REQUEST" s!"invalid auth payload: {err}").withOwner
      .developer)
  | .ok payload => .ok (payload.token.getD "")

/-! ## The set -/

/-- The backends of one session. -/
structure BackendSet where
  db : Option DbSlot
  mongo : Option MongoSlot
  mail : Option MailSlot
  redis : Option RedisSlot
  auth : Option AuthSlot
  amq : Option AmqProducer

namespace BackendSet

def new : BackendSet := ⟨none, none, none, none, none, none⟩

def withDb (self : BackendSet) (config : DbConfig) (deps : AsyncDeps) : BackendSet :=
  { self with db := some (.new config deps) }

def withMongo (self : BackendSet) (config : MongoConfig) (deps : AsyncDeps) : BackendSet :=
  { self with mongo := some (.new config deps) }

def withMail (self : BackendSet) (config : MailConfig) : BackendSet :=
  { self with mail := some (.new config ()) }

def withRedis (self : BackendSet) (config : RedisConfig) : BackendSet :=
  { self with redis := some (.new config ()) }

def withAmq (self : BackendSet) (config : AmqConfig) : BackendSet :=
  { self with amq := some (AmqProducer.new config) }

def withAuth (self : BackendSet) (config : AuthConfig) : BackendSet :=
  { self with auth := some (.new config ()) }

/-- Wires a backend for each config that resolved. -/
def fromConfigs (configs : ResolvedConfigs) (deps : AsyncDeps) : BackendSet :=
  let set := new
  let set := match configs.db with
    | some config => set.withDb config deps
    | none => set
  let set := match configs.mongo with
    | some config => set.withMongo config deps
    | none => set
  let set := match configs.mail with
    | some config => set.withMail config
    | none => set
  let set := match configs.redis with
    | some config => set.withRedis config
    | none => set
  let set := match configs.amq with
    | some config => set.withAmq config
    | none => set
  match configs.auth with
  | some config => set.withAuth config
  | none => set

/-- The metrics of a slot's backend, empty unless it connected. -/
def slotMetrics {Config Deps Backend α : Type} (slot : Option (Slot Config Deps Backend))
    (drain : Backend → List α) : List α :=
  match slot.bind Slot.backend with
  | some (.ok backend) => drain backend
  | _ => []

def metrics (self : BackendSet) : BackendMetrics :=
  { db := slotMetrics self.db DbBackend.drainMetrics
    mongo := slotMetrics self.mongo MongoBackend.drainMetrics
    mail := slotMetrics self.mail MailBackend.drainMetrics
    redis := slotMetrics self.redis RedisBackend.drainMetrics
    amq := match self.amq with
      | some producer => producer.drainMetrics
      | none => []
    auth := slotMetrics self.auth AuthBackend.drainMetrics }

/-! ## Calls -/

/-- What a `db` call does once its backend is there. -/
def runDb (lib : Lib) (action payloadJson : String) (backend : DbBackend) :
    Fab (Except EgressError String × DbBackend) :=
  match parseDbPayload lib payloadJson with
  | .error err => return (.error err, backend)
  | .ok args => do
    let (result, backend) ← backend.call lib action args.sql args.paramsJson
    return (result.mapError DbError.intoResourceError, backend)

def runMongo (lib : Lib) (action payloadJson : String) (backend : MongoBackend) :
    Fab (Except EgressError String × MongoBackend) :=
  match parseMongoPayload lib payloadJson with
  | .error err => return (.error err, backend)
  | .ok (collection, dataJson) => do
    let (result, backend) ← backend.call lib action collection dataJson
    return (result.mapError MongoError.intoResourceError, backend)

def runMail (lib : Lib) (action payloadJson : String) (backend : MailBackend) :
    Fab (Except EgressError String × MailBackend) := do
  let (result, backend) ← backend.call lib action payloadJson
  return (result.mapError MailError.intoResourceError, backend)

def runRedis (lib : Lib) (action payloadJson : String) (backend : RedisBackend) :
    Fab (Except EgressError String × RedisBackend) := do
  let (result, backend) ← backend.call lib action payloadJson
  return (result.mapError RedisError.intoResourceError, backend)

def runAuth (lib : Lib) (action payloadJson : String) (backend : AuthBackend) :
    Fab (Except EgressError String × AuthBackend) :=
  match parseAuthToken lib payloadJson with
  | .error err => return (.error err, backend)
  | .ok token => backend.call lib action token

def callDb (lib : Lib) (self : BackendSet) (action payloadJson : String) :
    Fab (Except EgressError String × BackendSet) := do
  let (result, slot) ← callSlot "db" self.db DbSlot.connect (runDb lib action payloadJson)
  return (result, { self with db := slot })

def callMongo (lib : Lib) (self : BackendSet) (action payloadJson : String) :
    Fab (Except EgressError String × BackendSet) := do
  let (result, slot) ← callSlot "mongo" self.mongo MongoSlot.connect (runMongo lib action payloadJson)
  return (result, { self with mongo := slot })

def callMail (lib : Lib) (self : BackendSet) (action payloadJson : String) :
    Fab (Except EgressError String × BackendSet) := do
  let (result, slot) ← callSlot "mail" self.mail MailSlot.connect (runMail lib action payloadJson)
  return (result, { self with mail := slot })

def callRedis (lib : Lib) (self : BackendSet) (action payloadJson : String) :
    Fab (Except EgressError String × BackendSet) := do
  let (result, slot) ← callSlot "redis" self.redis RedisSlot.connect (runRedis lib action payloadJson)
  return (result, { self with redis := slot })

/-- The producer has no connection of its own, so there is no cell. -/
def callAmq (lib : Lib) (self : BackendSet) (action payloadJson : String) :
    Fab (Except EgressError String × BackendSet) :=
  match self.amq with
  | none => return (.error (notConfigured "amq"), self)
  | some producer => do
    let (result, producer) ← producer.call lib action payloadJson
    return (result.mapError AmqError.intoResourceError, { self with amq := some producer })

def callAuth (lib : Lib) (self : BackendSet) (action payloadJson : String) :
    Fab (Except EgressError String × BackendSet) := do
  let (result, slot) ← callSlot "auth" self.auth (AuthSlot.connect lib) (runAuth lib action payloadJson)
  return (result, { self with auth := slot })

/-- Dispatches one call by the capability's name. -/
def call (lib : Lib) (self : BackendSet) (request : WireCall) :
    Fab (Except EgressError String × BackendSet) :=
  match request.name with
  | "db" => self.callDb lib request.action request.payload
  | "mongo" => self.callMongo lib request.action request.payload
  | "mail" => self.callMail lib request.action request.payload
  | "redis" => self.callRedis lib request.action request.payload
  | "amq" => self.callAmq lib request.action request.payload
  | "auth" => self.callAuth lib request.action request.payload
  | other =>
    return (.error ((EgressError.new "engine" "IO_UNKNOWN"
      s!"unknown egress '{other}'").withOwner .developer), self)

end BackendSet

end Fabricd
