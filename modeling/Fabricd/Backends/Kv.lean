import Fabricd.Effects
import Fabricd.Lib

/-!
# The `redis` backend

One connection per session behind a mutex; strings in, strings out.
-/

namespace Fabricd.Kv

open Framework Redis

def redisFallback : Fault := ⟨"REDIS_ERROR", true, .operator⟩

def redisTimeout : Fault := ⟨"REDIS_TIMEOUT", true, .operator⟩

def redisConnectionFault : Fault := ⟨"REDIS_CONNECTION", true, .operator⟩

structure RedisConfig where
  url : String
  timeoutMs : UInt64
  deriving DecidableEq

structure RedisError where
  fault : Fault
  message : String
  deriving DecidableEq

def classify (err : RedisErr) : Fault :=
  if err.timeout then redisTimeout
  else if err.io then redisConnectionFault
  else redisFallback

namespace RedisError

def fallback (message : String) : RedisError := ⟨redisFallback, message⟩

def fromDriver (err : RedisErr) : RedisError := ⟨classify err, err.message⟩

def intoResourceError (self : RedisError) : EgressError :=
  { code := self.fault.code
    message := self.message
    source := "redis"
    details := none
    retryable := self.fault.retryable
    owner := self.fault.owner }

end RedisError

structure RedisBackend where
  conn : ConnId
  metrics : Collector RedisMetric

/-- Opens a connection and applies the read and write timeouts. -/
def connect (config : RedisConfig) : FabE RedisErr ConnId := do
  let _ : Unit ← ExceptT.mk (ask (.redis (.openUrl config.url)))
  let conn : ConnId ← ExceptT.mk (ask (.redis (.getConnection config.url)))
  let _ : Unit ← ExceptT.mk (ask (.redis (.setReadTimeout conn config.timeoutMs)))
  let _ : Unit ← ExceptT.mk (ask (.redis (.setWriteTimeout conn config.timeoutMs)))
  return conn

/-- `RedisBackend::connect_resource`. Every failure of `connect` is a boxed driver error,
so `is_connect_error` always holds of it. -/
def RedisBackend.connectResource (config : RedisConfig) :
    Fab (Except EgressError RedisBackend) := do
  let result ← (connect config).run
  match result with
  | .ok conn => return .ok { conn, metrics := [] }
  | .error err =>
    return .error
      { code := redisConnectionFault.code
        message := err.message
        source := "redis"
        details := none
        retryable := redisConnectionFault.retryable
        owner := redisConnectionFault.owner }

/-! ## Operations -/

def lockConn (conn : ConnId) : FabE RedisError Unit :=
  orFail (fun err => .fallback s!"lock error: {err}") (ask (.redis (.lock conn)))

/-- Parses a payload, mapping failures to the fallback error. -/
def parse {α : Type} (fields : Except String α) : FabE RedisError α :=
  ofExcept (fields.mapError fun err => .fallback s!"invalid redis payload: {err}")

def encode (lib : Lib) (value : Json) : FabE RedisError String :=
  ofExcept ((lib.toStr value).mapError fun err => .fallback s!"serialize error: {err}")

def doGet (lib : Lib) (conn : ConnId) (payloadJson : String) : FabE RedisError String := do
  let payload ← parse (lib.keyPayload payloadJson)
  lockConn conn
  let value : Option String ←
    orFail .fromDriver (ask (.redis (.get conn (payload.key.getD ""))))
  encode lib (.object [("value", .ofOption value)])

def doSet (lib : Lib) (conn : ConnId) (payloadJson : String) : FabE RedisError String := do
  let payload ← parse (lib.setPayload payloadJson)
  let key := payload.key.getD ""
  let value := payload.value.getD ""
  lockConn conn
  match payload.ttl with
  | some ttl =>
    let _ : Unit ← orFail .fromDriver (ask (.redis (.setEx conn key value ttl)))
  | none =>
    let _ : Unit ← orFail .fromDriver (ask (.redis (.set conn key value)))
  encode lib (.object [("ok", .bool true)])

def doDelete (lib : Lib) (conn : ConnId) (payloadJson : String) : FabE RedisError String := do
  let payload ← parse (lib.keyPayload payloadJson)
  lockConn conn
  let count : Int64 ← orFail .fromDriver (ask (.redis (.del conn (payload.key.getD ""))))
  encode lib (.object [("count", .ofInt count.toInt)])

def doIncrement (lib : Lib) (conn : ConnId) (payloadJson : String) : FabE RedisError String := do
  let payload ← parse (lib.keyPayload payloadJson)
  lockConn conn
  let value : Int64 ← orFail .fromDriver (ask (.redis (.incr conn (payload.key.getD "") 1)))
  encode lib (.object [("value", .ofInt value.toInt)])

def doExpire (lib : Lib) (conn : ConnId) (payloadJson : String) : FabE RedisError String := do
  let payload ← parse (lib.expirePayload payloadJson)
  lockConn conn
  let set : Bool ←
    orFail .fromDriver (ask (.redis (.expire conn (payload.key.getD "") (payload.seconds.getD 0))))
  encode lib (.object [("set", .bool set)])

def dispatch (lib : Lib) (conn : ConnId) (action payloadJson : String) : FabE RedisError String :=
  match action with
  | "get" => doGet lib conn payloadJson
  | "set" => doSet lib conn payloadJson
  | "delete" => doDelete lib conn payloadJson
  | "increment" => doIncrement lib conn payloadJson
  | "expire" => doExpire lib conn payloadJson
  | other => ofExcept (.error (.fallback s!"unknown redis action: {other}"))

/-! ## Metrics -/

/-- Bytes and hit flag of a `get` reply, zero for the other actions. -/
def valueStats (lib : Lib) (action json : String) : Nat × Bool :=
  if action ≠ "get" then (0, false)
  else
    let parsed := (lib.fromStr json).toOption.getD .null
    match (parsed.get "value").bind Json.asStr with
    | none => (0, false)
    | some text => (text.utf8ByteSize, true)

def buildMetric (lib : Lib) (action : String) (result : Except RedisError String)
    (start : Instant) : Fab RedisMetric := do
  let (bytes, hit) :=
    match result with
    | .ok json => valueStats lib action json
    | .error _ => (0, false)
  let durationUs ← elapsedMicros start
  return { action, durationUs, bytes, hit }

/-- Runs one action and records its metric. -/
def RedisBackend.call (lib : Lib) (self : RedisBackend) (action payloadJson : String) :
    Fab (Except RedisError String × RedisBackend) := do
  let start ← now
  let result ← (dispatch lib self.conn action payloadJson).run
  let metric ← buildMetric lib action result start
  return (result, { self with metrics := self.metrics.record metric })

def RedisBackend.drainMetrics (self : RedisBackend) : List RedisMetric := self.metrics.drain

end Fabricd.Kv
