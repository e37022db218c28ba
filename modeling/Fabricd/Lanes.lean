import Fabricd.Backends.Connecting
import Fabricd.BackendSet

/-!
# The lanes of a session

Each lazy capability connects and runs on requests of its own. What a slot does over one
call follows from what its cell holds.
-/

namespace Fabricd

open Framework Db Mongo Mail Kv Amq Auth

inductive Capability where
  | db
  | mongo
  | mail
  | redis
  | amq
  | auth
  deriving DecidableEq

def Capability.name : Capability → String
  | db => "db"
  | mongo => "mongo"
  | mail => "mail"
  | redis => "redis"
  | amq => "amq"
  | auth => "auth"

/-- The capability a request is made for. -/
def Call.capability : Call → Option Capability
  | .breakerAllow _ | .breakerRecord _ _ | .db _ => some .db
  | .mongo _ => some .mongo
  | .mail _ => some .mail
  | .redis _ => some .redis
  | .amq _ => some .amq
  | .auth _ => some .auth
  | _ => none

def Handle.capability : Handle → Capability
  | db _ => .db
  | mongo _ => .mongo
  | mail _ => .mail
  | redis _ => .redis
  | auth _ => .auth

theorem Call.handle_capability {handle : Handle} {call : Call} (h : call.handle = some handle) :
    call.capability = some handle.capability := by
  cases call <;> simp only [Call.handle, Option.map_eq_some_iff, reduceCtorEq] at h
  all_goals
    obtain ⟨_, -, rfl⟩ := h
    rfl

theorem OnHandle.capability {handle : Handle} {call : Call} (h : OnHandle handle call) :
    call.capability = some handle.capability :=
  Call.handle_capability h.1

/-- A lazy capability: how its slot connects and what it runs, with the requests of each. -/
structure Lane (Config Deps Backend : Type) where
  capability : Capability
  connect : Slot Config Deps Backend → Fab (Except EgressError Backend)
  run : String → String → Backend → Fab (Except EgressError String × Backend)
  handle : Backend → Handle
  timeless : Backend → Backend
  Connects : Config → Call → Prop
  handle_capability : ∀ backend, (handle backend).capability = capability
  connects_capability : ∀ {config call}, Connects config call → call.capability = some capability
  connect_cell : ∀ slot cell, connect { slot with backend := cell } = connect slot
  connect_issues : ∀ slot, Issues handle (connect slot)
  connect_lockstep : ∀ slot, Lockstep (untimed (Connects slot.config))
    (fun r r' => r.map timeless = r'.map timeless) (connect slot) (connect slot)
  run_lockstep : ∀ action payload {backend backend'}, timeless backend = timeless backend' →
    Lockstep (untimed (OnHandle (handle backend)))
      (fun r r' => r.1 = r'.1 ∧ timeless r.2 = timeless r'.2 ∧ handle r.2 = handle backend)
      (run action payload backend) (run action payload backend')

private theorem lockstep_of_only {P : Call → Prop} {α β : Type} {f : α → β}
    {p : Fab (Except EgressError α)}
    (h : Prog.Only (On P) p) :
    Lockstep (untimed P) (fun r r' => r.map f = r'.map f) p p :=
  (lockstep_only h).mono fun _ _ h => congrArg _ h

def dbLane (lib : Lib) : Lane DbConfig AsyncDeps DbBackend where
  capability := .db
  connect := DbSlot.connect
  run := BackendSet.runDb lib
  handle backend := .db backend.client
  timeless := DbBackend.timeless
  Connects := Db.Connects
  handle_capability _ := rfl
  connects_capability {config call} h := by
    cases call with
    | breakerAllow _ => rfl
    | breakerRecord _ _ => rfl
    | db _ => rfl
    | _ => exact h.elim
  connect_cell _ _ := rfl
  connect_issues slot := Db.connectResource_issues slot.config _
  connect_lockstep slot := Db.connectResource_lockstep slot.config _ _ _
  run_lockstep action payload backend backend' h := by
    unfold BackendSet.runDb
    split
    · exact .ret ⟨rfl, h, rfl⟩
    · refine (Db.call_lockstep lib h action _ _).bind fun r r' hr => ?_
      exact .ret ⟨congrArg (Except.mapError _) hr.1, hr.2.1, congrArg Handle.db hr.2.2.1⟩

def mongoLane (lib : Lib) : Lane MongoConfig AsyncDeps MongoBackend where
  capability := .mongo
  connect := MongoSlot.connect
  run := BackendSet.runMongo lib
  handle backend := .mongo backend.client
  timeless := MongoBackend.timeless
  Connects := Mongo.Connects
  handle_capability _ := rfl
  connects_capability h := congrArg Call.capability h
  connect_cell _ _ := rfl
  connect_issues slot := Mongo.connectResource_issues slot.config _
  connect_lockstep slot := Mongo.connectResource_lockstep slot.config _ _
  run_lockstep action payload backend backend' h := by
    unfold BackendSet.runMongo
    split
    · exact .ret ⟨rfl, h, rfl⟩
    · refine (Mongo.call_lockstep lib h action _ _).bind fun r r' hr => ?_
      exact .ret ⟨congrArg (Except.mapError _) hr.1, hr.2.1, congrArg Handle.mongo hr.2.2.1⟩

def mailLane (lib : Lib) : Lane MailConfig Unit MailBackend where
  capability := .mail
  connect := MailSlot.connect
  run := BackendSet.runMail lib
  handle backend := .mail backend.transport
  timeless := MailBackend.timeless
  Connects := Mail.Connects
  handle_capability _ := rfl
  connects_capability h := by
    rcases h with rfl | rfl
    · rfl
    · rfl
  connect_cell _ _ := rfl
  connect_issues slot := Mail.connectResource_issues slot.config
  connect_lockstep slot := lockstep_of_only (Mail.connectResource_only slot.config)
  run_lockstep action payload backend backend' h := by
    refine (Mail.call_lockstep lib payload h action).bind fun r r' hr => ?_
    exact .ret ⟨congrArg (Except.mapError _) hr.1, hr.2.1, congrArg Handle.mail hr.2.2⟩

def redisLane (lib : Lib) : Lane RedisConfig Unit RedisBackend where
  capability := .redis
  connect := RedisSlot.connect
  run := BackendSet.runRedis lib
  handle backend := .redis backend.conn
  timeless := RedisBackend.timeless
  Connects := Kv.Connects
  handle_capability _ := rfl
  connects_capability {config call} h := by
    cases call with
    | redis _ => rfl
    | _ => exact h.elim
  connect_cell _ _ := rfl
  connect_issues slot := Kv.connectResource_issues slot.config
  connect_lockstep slot := lockstep_of_only (Kv.connectResource_only slot.config)
  run_lockstep action payload backend backend' h := by
    refine (Kv.call_lockstep lib payload h action).bind fun r r' hr => ?_
    exact .ret ⟨congrArg (Except.mapError _) hr.1, hr.2.1, congrArg Handle.redis hr.2.2⟩

def authLane (lib : Lib) : Lane AuthConfig Unit AuthBackend where
  capability := .auth
  connect := AuthSlot.connect lib
  run := BackendSet.runAuth lib
  handle backend := .auth backend.state.client
  timeless := AuthBackend.timeless
  Connects := Auth.Connects
  handle_capability _ := rfl
  connects_capability h := congrArg Call.capability h
  connect_cell _ _ := rfl
  connect_issues slot := Auth.connectResource_issues lib slot.config
  connect_lockstep slot := lockstep_of_only (Auth.connectResource_only lib slot.config)
  run_lockstep action payload backend backend' h := by
    unfold BackendSet.runAuth
    split
    · exact .ret ⟨rfl, h, rfl⟩
    · refine (Auth.call_lockstep lib _ h action).mono fun r r' hr => ?_
      exact ⟨hr.1, hr.2.1, congrArg Handle.auth hr.2.2.1⟩

/-! ## One call -/

namespace Lane

variable {Config Deps Backend : Type} (lane : Lane Config Deps Backend)

def call (slot : Option (Slot Config Deps Backend)) (action payload : String) :
    Fab (Except EgressError String × Option (Slot Config Deps Backend)) :=
  callSlot lane.capability.name slot lane.connect (lane.run action payload)

/-- An event of a connected backend: a request on its handle, or a look at the clock. -/
def Uses (handle : Handle) (e : Event Fx) : Prop :=
  OnHandle handle e.op.call ∨ e.op.call = .now

theorem sat_of_lockstep {P : Call → Prop} {α β : Type} {Q : α → β → Prop} {p : Fab α} {q : Fab β}
    (h : Lockstep (untimed P) Q p q) :
    p.Sat (On fun call => P call ∨ call = .now) (fun a => ∃ b, Q a b) := by
  refine h.sat_left (fun op hop => ⟨.inr hop, ?_⟩) fun op op' hop => .inl hop.2
  obtain ⟨call, budget⟩ := op
  cases hop
  exact ⟨(0 : Instant)⟩

theorem connect_only (slot : Slot Config Deps Backend) :
    Prog.Only (On fun call => lane.Connects slot.config call ∨ call = .now) (lane.connect slot) :=
  (sat_of_lockstep (lane.connect_lockstep slot)).mono (fun _ h => h) fun _ _ => trivial

theorem run_keeps (action payload : String) (backend : Backend) :
    (lane.run action payload backend).Sat
      (On fun call => OnHandle (lane.handle backend) call ∨ call = .now)
      (fun r => lane.handle r.2 = lane.handle backend) :=
  (sat_of_lockstep (lane.run_lockstep action payload rfl)).mono (fun _ h => h)
    fun _ ⟨_, _, _, h⟩ => h

theorem call_failed {slot : Slot Config Deps Backend} {err : EgressError}
    (h : slot.backend = some (.error err)) (action payload : String) :
    lane.call (some slot) action payload = .ret (.error err, some slot) := by
  obtain ⟨config, deps, cell⟩ := slot
  simp only at h
  subst h
  rfl

theorem call_connected {slot : Slot Config Deps Backend} {backend : Backend}
    (h : slot.backend = some (.ok backend)) (action payload : String) :
    (lane.call (some slot) action payload).Sat
      (On fun call => OnHandle (lane.handle backend) call ∨ call = .now)
      (fun r => ∃ backend', r.2 = some { slot with backend := some (.ok backend') } ∧
        lane.handle backend' = lane.handle backend) := by
  obtain ⟨config, deps, cell⟩ := slot
  simp only at h
  subst h
  refine (lane.run_keeps action payload backend).bind fun r hr => ?_
  exact ⟨r.2, rfl, hr⟩

theorem call_first {slot : Slot Config Deps Backend} (h : slot.backend = none)
    (action payload : String) :
    lane.call (some slot) action payload =
      lane.connect slot >>= fun outcome =>
        lane.call (some { slot with backend := some outcome }) action payload := by
  obtain ⟨config, deps, cell⟩ := slot
  simp only at h
  subst h
  rfl

theorem call_only (slot : Option (Slot Config Deps Backend)) (action payload : String) :
    Prog.Only (On fun call => call.capability = some lane.capability ∨ call = .now)
      (lane.call slot action payload) := by
  have hcell (slot : Slot Config Deps Backend) (outcome : Except EgressError Backend) :
      Prog.Only (On fun call => call.capability = some lane.capability ∨ call = .now)
        (lane.call (some { slot with backend := some outcome }) action payload) := by
    cases outcome with
    | error err =>
      rw [lane.call_failed rfl]
      exact Prog.Only.pure _
    | ok backend =>
      refine (lane.call_connected rfl action payload).mono (fun op hop => ?_) fun _ _ => trivial
      refine hop.imp_left fun hhandle => ?_
      rw [hhandle.capability, lane.handle_capability]
  cases slot with
  | none => exact Prog.Only.pure _
  | some slot =>
    cases hslot : slot.backend with
    | none =>
      rw [lane.call_first hslot]
      refine Prog.Only.bind ?_ (hcell slot)
      exact (lane.connect_only slot).mono fun op hop => hop.imp_left lane.connects_capability
    | some outcome =>
      have h := hcell slot outcome
      rwa [← hslot] at h

end Lane

end Fabricd
