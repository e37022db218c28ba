import Fabricd.Json

/-!
# The Postgres driver

What the `db` backend asks of `tokio_postgres`, and the values that cross: bound
parameters going in, rows coming out.
-/

namespace Fabricd.Postgres

open Framework

abbrev ClientId := Nat

/-- A driver error: the server's `SqlState`, when it sent one, and the rendered text. -/
structure PgError where
  sqlstate : Option String
  message : String
  deriving DecidableEq, Inhabited

/-- What `tokio_postgres::Config` is filled with before `connect`. -/
structure ConnectParams where
  host : String
  port : UInt16
  user : String
  password : String
  dbname : String
  ssl : Bool
  connectTimeoutSecs : Nat
  deriving DecidableEq

/-- The column types the backend tells apart. -/
inductive PgType where
  | int2 | int4 | oid | int8 | float4 | float8 | bool
  | text | varchar | bpchar | name
  | json | jsonb | uuid | timestamp | timestamptz | date | time | numeric | bytea
  | other (oid : Nat)
  deriving DecidableEq

structure PgColumn where
  name : String
  type : PgType
  deriving DecidableEq

/-- A result row: each column with the bytes the server sent for it (`none` is NULL). -/
structure PgRow where
  cells : List (PgColumn × Option (List UInt8))
  deriving DecidableEq

/-- `rust_decimal::Decimal`: a 96-bit mantissa over a power of ten. -/
structure Decimal where
  negative : Bool
  mantissa : Nat
  scale : Nat
  deriving DecidableEq

/-- The Rust types a column is read as (`T` of `try_get::<_, Option<T>>`). -/
inductive FromSql where
  | i16 | i32 | i64 | f32 | f64 | bool | string | value | uuid
  | naiveDateTime | dateTimeUtc | naiveDate | naiveTime | decimal | bytes
  deriving DecidableEq

/-- The value a column read yields. The `uuid` and `chrono` types appear by the text
the backend renders them to; `f32` is already widened to a double. -/
def FromSql.Val : FromSql → Type
  | i16 => Int16
  | i32 => Int32
  | i64 => Int64
  | f32 => F64
  | f64 => F64
  | bool => Bool
  | string => String
  | value => Json
  | uuid => String
  | naiveDateTime => String
  | dateTimeUtc => String
  | naiveDate => String
  | naiveTime => String
  | decimal => Decimal
  | bytes => List UInt8

/-- A bound parameter, after the JSON value it came from. -/
inductive ParamValue where
  | null
  | bool (val : Bool)
  | int4 (val : Int32)
  | int8 (val : Int64)
  | float8 (val : F64)
  | text (val : String)
  deriving DecidableEq

/-- The statements a session hands to its client. -/
inductive Statement where
  | query (sql : String) (params : List ParamValue)
  | execute (sql : String) (params : List ParamValue)
  | batch (cmd : String)
  deriving DecidableEq

def Statement.Reply : Statement → Type
  | query _ _ => List PgRow
  | execute _ _ => UInt64
  | batch _ => Unit

/-- Requests to the driver. `timeout` is a statement awaited under a budget, whose
answer is `none` when the timer elapsed first. -/
inductive Op where
  | connect (params : ConnectParams)
  | batchExecute (client : ClientId) (cmd : String)
  | timeout (client : ClientId) (statement : Statement)
  deriving DecidableEq

def Op.Ans : Op → Type
  | connect _ => Except PgError ClientId
  | batchExecute _ _ => Except PgError Unit
  | timeout _ statement => Option (Except PgError statement.Reply)

def Op.client : Op → Option ClientId
  | connect _ => none
  | batchExecute client _ | timeout client _ => some client

end Fabricd.Postgres
