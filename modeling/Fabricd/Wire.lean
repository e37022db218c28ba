import Fabricd.Json

/-!
# The wire contract

The messages of one session and the error and metric records they carry, as the
daemon uses them from `runlet_wire`.
-/

namespace Fabricd

inductive ErrorOwner where
  | caller
  | developer
  | operator
  deriving DecidableEq, Repr

/-- A stable code with its retry hint and owner. -/
structure Fault where
  code : String
  retryable : Bool
  owner : ErrorOwner
  deriving DecidableEq

/-- The capability-agnostic error a failed call answers with. -/
structure EgressError where
  code : String
  message : String
  source : String
  details : Option Json
  retryable : Bool
  owner : ErrorOwner

namespace EgressError

def new (source code message : String) : EgressError :=
  { code, message, source, details := none, retryable := false, owner := .operator }

def withOwner (err : EgressError) (owner : ErrorOwner) : EgressError := { err with owner }

end EgressError

/-- A session's opening frame: one optional logical name per capability, the
wall-clock budget, the acting tenant and the client's credential. -/
structure WireInit where
  db : Option String
  mongo : Option String
  mail : Option String
  redis : Option String
  amq : Option String
  auth : Option String
  timeoutMs : UInt64
  tenant : Option String
  token : Option String
  deriving DecidableEq

def WireInit.empty : WireInit := ⟨none, none, none, none, none, none, 0, none, none⟩

structure WireCall where
  name : String
  action : String
  payload : String
  deriving DecidableEq

inductive WireRequest where
  | init (init : WireInit)
  | call (call : WireCall)
  | drain
  deriving DecidableEq

structure DbMetric where
  action : String
  durationUs : Nat
  rowsReturned : Nat
  rowsAffected : UInt64
  truncated : Bool
  deriving DecidableEq

structure MongoMetric where
  action : String
  durationUs : Nat
  docsReturned : Nat
  docsAffected : UInt64
  truncated : Bool
  deriving DecidableEq

structure MailMetric where
  action : String
  durationUs : Nat
  recipients : Nat
  bytes : Nat
  accepted : Bool
  deriving DecidableEq

structure RedisMetric where
  action : String
  durationUs : Nat
  bytes : Nat
  hit : Bool
  deriving DecidableEq

structure AmqMetric where
  action : String
  durationUs : Nat
  messages : Nat
  bytes : Nat
  published : Bool
  deriving DecidableEq

structure AuthMetric where
  action : String
  host : String
  status : UInt16
  durationUs : Nat
  deriving DecidableEq

structure BackendMetrics where
  db : List DbMetric
  mongo : List MongoMetric
  mail : List MailMetric
  redis : List RedisMetric
  amq : List AmqMetric
  auth : List AuthMetric
  deriving DecidableEq

inductive WireResponse where
  | ack
  | initError (code message : String)
  | reply (result : Except EgressError String)
  | metrics (metrics : BackendMetrics)
  | protocolError (message : String)

/-! ## Metric collectors

`metrics::record` appends, `metrics::drain` clones and leaves the records in
place, `metrics::op_count` counts them. -/

abbrev Collector (α : Type) := List α

def Collector.record {α : Type} (metrics : Collector α) (metric : α) : Collector α :=
  metrics ++ [metric]

def Collector.drain {α : Type} (metrics : Collector α) : List α := metrics

def Collector.opCount {α : Type} (metrics : Collector α) : Nat := metrics.length

end Fabricd
