import Fabricd.Backends.Params
import Fabricd.Effects

/-!
# The `db` backend

Connecting through the daemon's circuit breaker, dispatching one action under the
execution deadline, and turning rows into JSON.
-/

namespace Fabricd.Db

open Framework Postgres

def dbFallback : Fault := ⟨"DB_ERROR", true, .operator⟩

def dbConnectionFault : Fault := ⟨"DB_CONNECTION", true, .operator⟩

def dbTimeout : Fault := ⟨"DB_TIMEOUT", true, .operator⟩

def dbCircuitOpenFault : Fault := ⟨"DB_CIRCUIT_OPEN", true, .operator⟩

/-- A db error: its classified fault, the raw message and structured details. -/
structure DbError where
  fault : Fault
  message : String
  details : Option Json

/-- Classifies by `SqlState` class, the first two characters. -/
def classifyByClass (code : String) : Fault :=
  match code.toList with
  | '0' :: '8' :: _ => dbConnectionFault
  | '2' :: '3' :: _ => ⟨"DB_CONSTRAINT", false, .developer⟩
  | '4' :: '2' :: _ => ⟨"DB_QUERY", false, .developer⟩
  | _ => dbFallback

/-- Maps a driver error to a fault by `SqlState`. -/
def classify (err : PgError) : Fault :=
  match err.sqlstate with
  | none => dbFallback
  | some "40001" => ⟨"DB_SERIALIZATION", true, .operator⟩
  | some "40P01" => ⟨"DB_DEADLOCK", true, .operator⟩
  | some "57014" => ⟨"DB_CANCELED", true, .operator⟩
  | some other => classifyByClass other

theorem classify_code (err : PgError) :
    (classify err).code ∈ ["DB_ERROR", "DB_SERIALIZATION", "DB_DEADLOCK", "DB_CANCELED",
      "DB_CONNECTION", "DB_CONSTRAINT", "DB_QUERY"] := by
  unfold classify
  split
  · decide
  · decide
  · decide
  · decide
  · unfold classifyByClass
    split
    · decide
    · decide
    · decide
    · decide

namespace DbError

def fallback (message : String) : DbError := ⟨dbFallback, message, none⟩

def fromDriver (err : PgError) : DbError :=
  { fault := classify err
    message := err.message
    details := err.sqlstate.map fun state => .object [("sqlstate", .string state)] }

def timeout : DbError :=
  ⟨dbTimeout, "database query exceeded the execution deadline", none⟩

def intoResourceError (self : DbError) : EgressError :=
  { code := self.fault.code
    message := self.message
    source := "db"
    details := self.details
    retryable := self.fault.retryable
    owner := self.fault.owner }

end DbError

structure DbConfig where
  host : String
  port : UInt16
  user : String
  password : String
  database : String
  ssl : Bool
  statementTimeoutMs : UInt64
  maxRows : Nat
  deriving DecidableEq

/-- The execution budget and whether a breaker guards connects. -/
structure DbDeps where
  timeout : Duration
  breaker : Bool

/-! ## Connecting -/

/-- Why a connect failed: refused by the open breaker, or by the driver. -/
inductive ConnectError where
  | circuitOpen
  | driver (err : PgError)

def ConnectError.isCircuitOpen : ConnectError → Bool
  | circuitOpen => true
  | driver _ => false

def ConnectError.display : ConnectError → String
  | circuitOpen => "db circuit breaker open"
  | driver err => err.message

def connectParams (config : DbConfig) : ConnectParams :=
  { host := config.host
    port := config.port
    user := config.user
    password := config.password
    dbname := config.database
    ssl := config.ssl
    connectTimeoutSecs := 5 }

def timeoutCmd (config : DbConfig) : String :=
  s!"SET statement_timeout = '{config.statementTimeoutMs}'"

/-- Connects and applies the per-request `statement_timeout`. -/
def connect (config : DbConfig) : FabE PgError ClientId := do
  let client : ClientId ← ExceptT.mk (ask (.db (.connect (connectParams config))))
  let _ : Unit ← ExceptT.mk (ask (.db (.batchExecute client (timeoutCmd config))))
  return client

/-- The breaker's key for a binding. -/
def breakerTarget (config : DbConfig) : String := s!"{config.host}:{config.port}"

/-- Connects, guarded by the circuit breaker: an open breaker refuses without an
attempt, otherwise the outcome is recorded. -/
def connectThroughBreaker (config : DbConfig) (breaker : Bool) : Fab (Except ConnectError ClientId) :=
  if breaker then do
    let allowed : Bool ← ask (.breakerAllow (breakerTarget config))
    if allowed then
      let result : Except PgError ClientId ← (connect config).run
      let _ : Unit ← ask (.breakerRecord (breakerTarget config) result.isOk)
      return result.mapError .driver
    else
      return .error .circuitOpen
  else do
    let result : Except PgError ClientId ← (connect config).run
    return result.mapError .driver

/-- A connected backend: the client, the deadline of every statement, the row cap and
the metrics recorded so far. -/
structure DbBackend where
  client : ClientId
  deadline : Instant
  maxRows : Nat
  metrics : Collector DbMetric

/-- `DbBackend::connect`: the deadline is anchored once the connect has returned. -/
def DbBackend.connect (config : DbConfig) (deps : DbDeps) : FabE ConnectError DbBackend := do
  let client : ClientId ← ExceptT.mk (connectThroughBreaker config deps.breaker)
  let deadline : Instant ← ExceptT.lift (anchorDeadline deps.timeout)
  return { client, deadline, maxRows := config.maxRows, metrics := [] }

def connectErrorToResource (err : ConnectError) : EgressError :=
  let fault := if err.isCircuitOpen then dbCircuitOpenFault else dbConnectionFault
  { code := fault.code
    message := err.display
    source := "db"
    details := none
    retryable := fault.retryable
    owner := fault.owner }

def DbBackend.connectResource (config : DbConfig) (deps : DbDeps) : Fab (Except EgressError DbBackend) := do
  let result ← (DbBackend.connect config deps).run
  return result.mapError connectErrorToResource

/-! ## Rows to JSON -/

def extractColumns (rows : List PgRow) : List String :=
  match rows with
  | [] => []
  | first :: _ => first.cells.map fun cell => cell.1.name

/-- A typed read; on a mismatch the column is retried as text, and else is null. -/
def getOrNull (lib : Lib) (T : FromSql) (type : PgType) (cell : Option (List UInt8))
    (convert : T.Val → Json) : Json :=
  match lib.tryGet T type cell with
  | .ok (some val) => convert val
  | .ok none => .null
  | .error _ =>
    match lib.tryGet .string type cell with
    | .ok (some text) => .string text
    | _ => .null

def numberOrNull (x : F64) : Json :=
  match Number.fromF64 x with
  | some num => .number num
  | none => .null

/-- Converts a column value: 32-bit integers and smaller are numbers, wider ones text. -/
def columnToJson (lib : Lib) (type : PgType) (cell : Option (List UInt8)) : Json :=
  match type with
  | .int2 => getOrNull lib .i16 type cell fun (val : Int16) => .ofInt val.toInt
  | .int4 | .oid => getOrNull lib .i32 type cell fun (val : Int32) => .ofInt val.toInt
  | .int8 => getOrNull lib .i64 type cell fun (val : Int64) => .string (toString val.toInt)
  | .float4 => getOrNull lib .f32 type cell numberOrNull
  | .float8 => getOrNull lib .f64 type cell numberOrNull
  | .bool => getOrNull lib .bool type cell .bool
  | .text | .varchar | .bpchar | .name => getOrNull lib .string type cell .string
  | .json | .jsonb => getOrNull lib .value type cell id
  | .uuid => getOrNull lib .uuid type cell .string
  | .timestamp => getOrNull lib .naiveDateTime type cell .string
  | .timestamptz => getOrNull lib .dateTimeUtc type cell .string
  | .date => getOrNull lib .naiveDate type cell .string
  | .time => getOrNull lib .naiveTime type cell .string
  | .numeric => getOrNull lib .decimal type cell fun val => .string (lib.decimalToString val)
  | .bytea => getOrNull lib .bytes type cell fun val => .string (lib.base64 val)
  | .other _ => getOrNull lib .string type cell .string

/-- One row as an object keyed by column name. -/
def rowToJson (lib : Lib) (row : PgRow) : Json :=
  .object (row.cells.foldl
    (fun obj cell => Json.insert obj cell.1.name (columnToJson lib cell.1.type cell.2)) [])

/-- Rows as JSON, cut at `maxRows`. -/
def rowsToJson (lib : Lib) (rows : List PgRow) (maxRows : Nat) : List Json × Bool :=
  let truncated := decide (maxRows < rows.length)
  let limit := if truncated then maxRows else rows.length
  ((rows.take limit).map (rowToJson lib), truncated)

/-! ## Dispatch -/

/-- The client and the deadline of one call. -/
structure DbCall where
  client : ClientId
  deadline : Instant

/-- Awaits a statement within what is left of the execution deadline. -/
def blockOnDb (call : DbCall) (statement : Statement) : FabE DbError statement.Reply :=
  ExceptT.mk do
    let t ← now
    let remaining := call.deadline - t
    let answer : Option (Except PgError statement.Reply) ←
      askWithin remaining (.db (.timeout call.client statement))
    match answer with
    | some (.ok value) => return .ok value
    | some (.error driver) => return .error (.fromDriver driver)
    | none => return .error .timeout

/-- SELECT: `{columns, rows, row_count, truncated}`. -/
def doQuery (lib : Lib) (call : DbCall) (sql paramsJson : String) (maxRows : Nat) :
    FabE DbError String := do
  let params ← ofExcept ((parseParams lib paramsJson).mapError .fallback)
  let rows : List PgRow ← blockOnDb call (.query sql params)
  let columns := extractColumns rows
  let (jsonRows, truncated) := rowsToJson lib rows maxRows
  let result : Json := .object
    [("columns", .array (columns.map .string)),
     ("rows", .array jsonRows),
     ("row_count", .ofUsize jsonRows.length),
     ("truncated", .bool truncated)]
  ofExcept ((lib.toStr result).mapError fun err => .fallback s!"serialize error: {err}")

/-- INSERT/UPDATE/DELETE: `{rows_affected}`. -/
def doExecute (lib : Lib) (call : DbCall) (sql paramsJson : String) : FabE DbError String := do
  let params ← ofExcept ((parseParams lib paramsJson).mapError .fallback)
  let affected : UInt64 ← blockOnDb call (.execute sql params)
  return "\x7b\"rows_affected\":" ++ toString affected ++ "\x7d"

def doSimple (call : DbCall) (cmd : String) : FabE DbError String := do
  let _ : Unit ← blockOnDb call (.batch cmd)
  return "\x7b\"ok\":true\x7d"

def dispatch (lib : Lib) (call : DbCall) (action query paramsJson : String) (maxRows : Nat) :
    FabE DbError String :=
  match action with
  | "query" => doQuery lib call query paramsJson maxRows
  | "execute" => doExecute lib call query paramsJson
  | "begin" => doSimple call "BEGIN"
  | "commit" => doSimple call "COMMIT"
  | "rollback" => doSimple call "ROLLBACK"
  | other => ofExcept (.error (.fallback s!"unknown db action: {other}"))

/-! ## Metrics -/

/-- Row counts and the truncation flag, read back from the reply. -/
def extractMetricInfo (lib : Lib) (action json : String) : Nat × UInt64 × Bool :=
  let parsed := (lib.fromStr json).toOption.getD .null
  match action with
  | "query" =>
    let rows := ((parsed.get "row_count").bind Json.asU64).getD 0
    let trunc := ((parsed.get "truncated").bind Json.asBool).getD false
    (rows.toNat, 0, trunc)
  | "execute" =>
    let affected := ((parsed.get "rows_affected").bind Json.asU64).getD 0
    (0, affected, false)
  | _ => (0, 0, false)

def buildMetric (lib : Lib) (action : String) (result : Except DbError String) (start : Instant) :
    Fab DbMetric := do
  let (rowsReturned, rowsAffected, truncated) :=
    match result with
    | .ok json => extractMetricInfo lib action json
    | .error _ => (0, 0, false)
  let durationUs ← elapsedMicros start
  return { action, durationUs, rowsReturned, rowsAffected, truncated }

/-- Runs one action and records its metric. -/
def DbBackend.call (lib : Lib) (self : DbBackend) (action query paramsJson : String) :
    Fab (Except DbError String × DbBackend) := do
  let start ← now
  let call : DbCall := { client := self.client, deadline := self.deadline }
  let result ← (dispatch lib call action query paramsJson self.maxRows).run
  let metric ← buildMetric lib action result start
  return (result, { self with metrics := self.metrics.record metric })

def DbBackend.drainMetrics (self : DbBackend) : List DbMetric := self.metrics.drain

end Fabricd.Db
