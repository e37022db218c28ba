import Fabricd.Sessions

/-!
# Sessions up to their clock

Two sets of backends that differ in deadlines and durations only make the same requests on
the same calls, get the same answers, and are left differing in these only.
-/

namespace Fabricd

open Framework Db Mongo Mail Kv Amq Auth

theorem Lockstep.widen {P P' : Call → Prop} {α β : Type} {Q : α → β → Prop} {p : Fab α}
    {q : Fab β} (h : Lockstep (untimed P) Q p q) (hP : ∀ call, P call → P' call) :
    Lockstep (untimed P') Q p q := by
  induction h with
  | ret h => exact .ret h
  | left hop _ ih => exact .left hop ih
  | right hop _ ih => exact .right hop ih
  | both hop _ ih => exact .both ⟨hop.1, hP _ hop.2⟩ ih

/-! ## Lanes -/

namespace Lane

variable {Config Deps Backend : Type} (lane : Lane Config Deps Backend)

/-- A slot but for the times its backend keeps. -/
def timelessSlot (slot : Slot Config Deps Backend) : Slot Config Deps Backend :=
  { slot with backend := slot.backend.map fun outcome => outcome.map lane.timeless }

private theorem call_set_lockstep (slot : Slot Config Deps Backend)
    {outcome outcome' : Except EgressError Backend}
    (h : outcome.map lane.timeless = outcome'.map lane.timeless) (action payload : String) :
    Lockstep (untimed fun call => call.capability = some lane.capability)
      (fun r r' => r.1 = r'.1 ∧ r.2.map lane.timelessSlot = r'.2.map lane.timelessSlot)
      (lane.call (some { slot with backend := some outcome }) action payload)
      (lane.call (some { slot with backend := some outcome' }) action payload) := by
  cases outcome with
  | error err =>
    cases outcome' with
    | ok backend' => cases h
    | error err' =>
      cases h
      rw [lane.call_failed rfl]
      exact .ret ⟨rfl, rfl⟩
  | ok backend =>
    cases outcome' with
    | error err' => cases h
    | ok backend' =>
      have hsame : lane.timeless backend = lane.timeless backend' := Except.ok.inj h
      refine (Lockstep.widen (lane.run_lockstep action payload hsame) fun call hcall => ?_).bind
        fun r r' hr => .ret ⟨hr.1, ?_⟩
      · rw [hcall.capability, lane.handle_capability]
      · simp only [Option.map_some, timelessSlot, Except.map, hr.2.1]

theorem call_lockstep {slot slot' : Option (Slot Config Deps Backend)}
    (h : slot.map lane.timelessSlot = slot'.map lane.timelessSlot) (action payload : String) :
    Lockstep (untimed fun call => call.capability = some lane.capability)
      (fun r r' => r.1 = r'.1 ∧ r.2.map lane.timelessSlot = r'.2.map lane.timelessSlot)
      (lane.call slot action payload) (lane.call slot' action payload) := by
  cases slot with
  | none =>
    cases slot' with
    | some slot' => cases h
    | none => exact .ret ⟨rfl, rfl⟩
  | some slot =>
    cases slot' with
    | none => cases h
    | some slot' =>
      obtain ⟨config, deps, cell⟩ := slot
      obtain ⟨config', deps', cell'⟩ := slot'
      simp only [Option.map_some, Option.some.injEq, timelessSlot, Slot.mk.injEq] at h
      obtain ⟨rfl, rfl, hcell⟩ := h
      cases cell with
      | none =>
        cases cell' with
        | some outcome' => cases hcell
        | none =>
          rw [lane.call_first rfl]
          refine (Lockstep.widen (lane.connect_lockstep ⟨config, deps, none⟩)
            fun call hcall => lane.connects_capability hcall).bind fun r r' hr => ?_
          exact lane.call_set_lockstep ⟨config, deps, none⟩ hr action payload
      | some outcome =>
        cases cell' with
        | none => cases hcell
        | some outcome' =>
          exact lane.call_set_lockstep ⟨config, deps, none⟩ (Option.some.inj hcell) action payload

end Lane

/-! ## The set -/

/-- A set but for the times its backends keep. -/
def BackendSet.timeless (lib : Lib) (self : BackendSet) : BackendSet where
  db := self.db.map (dbLane lib).timelessSlot
  mongo := self.mongo.map (mongoLane lib).timelessSlot
  mail := self.mail.map (mailLane lib).timelessSlot
  redis := self.redis.map (redisLane lib).timelessSlot
  auth := self.auth.map (authLane lib).timelessSlot
  amq := self.amq.map AmqProducer.timeless

def Asked (call : Call) : Prop := call.capability.isSome

private theorem Port.lockstep {σ : Type} {lib : Lib} {capability : Capability}
    {call : σ → String → String → Fab (Except EgressError String × σ)}
    (port : Port lib capability call) {τ : Type} (f : σ → τ) {self self' : BackendSet}
    {request : WireCall} (hname : request.name = capability.name)
    (hcall : Lockstep (untimed fun call => call.capability = some capability)
      (fun r r' => r.1 = r'.1 ∧ f r.2 = f r'.2) (call (port.get self) request.action request.payload)
      (call (port.get self') request.action request.payload))
    (hset : ∀ {s s'}, f s = f s' → (port.set self s).timeless lib = (port.set self' s').timeless lib) :
    Lockstep (untimed Asked) (fun r r' => r.1 = r'.1 ∧ r.2.timeless lib = r'.2.timeless lib)
      (self.call lib request) (self'.call lib request) := by
  rw [port.call_own self request hname, port.call_own self' request hname]
  refine (Lockstep.widen hcall fun call hcall => ?_).bind fun r r' hr => .ret ⟨hr.1, hset hr.2⟩
  unfold Asked
  rw [hcall]
  rfl

private theorem amqCall_lockstep (lib : Lib) {now now' : Option AmqProducer}
    (h : now.map AmqProducer.timeless = now'.map AmqProducer.timeless) (action payload : String) :
    Lockstep (untimed fun call => call.capability = some .amq)
      (fun r r' => r.1 = r'.1 ∧ r.2.map AmqProducer.timeless = r'.2.map AmqProducer.timeless)
      (amqCall lib now action payload) (amqCall lib now' action payload) := by
  cases now with
  | none =>
    cases now' with
    | some now' => cases h
    | none => exact .ret ⟨rfl, rfl⟩
  | some now =>
    cases now' with
    | none => cases h
    | some now' =>
      refine (Lockstep.widen (Amq.call_lockstep lib payload (Option.some.inj h) action)
        fun call hcall => ?_).bind fun r r' hr => ?_
      · cases call with
        | amq op => rfl
        | _ => exact hcall.elim
      · exact .ret ⟨congrArg (Except.mapError _) hr.1, congrArg some hr.2.1⟩

theorem BackendSet.call_lockstep (lib : Lib) {self self' : BackendSet}
    (h : self.timeless lib = self'.timeless lib) (request : WireCall) :
    Lockstep (untimed Asked) (fun r r' => r.1 = r'.1 ∧ r.2.timeless lib = r'.2.timeless lib)
      (self.call lib request) (self'.call lib request) := by
  have hsame := h
  simp only [BackendSet.timeless, BackendSet.mk.injEq] at hsame
  obtain ⟨hdb, hmongo, hmail, hredis, hauth, hamq⟩ := hsame
  by_cases hname : ∃ c : Capability, request.name = c.name
  · obtain ⟨c, hname⟩ := hname
    cases c with
    | db =>
      refine (dbPort lib).lockstep (Option.map (dbLane lib).timelessSlot) hname
        ((dbLane lib).call_lockstep hdb request.action request.payload) fun {s s'} hs => ?_
      simp only [BackendSet.timeless, dbPort, hs, hmongo, hmail, hredis, hauth, hamq]
    | mongo =>
      refine (mongoPort lib).lockstep (Option.map (mongoLane lib).timelessSlot) hname
        ((mongoLane lib).call_lockstep hmongo request.action request.payload) fun {s s'} hs => ?_
      simp only [BackendSet.timeless, mongoPort, hs, hdb, hmail, hredis, hauth, hamq]
    | mail =>
      refine (mailPort lib).lockstep (Option.map (mailLane lib).timelessSlot) hname
        ((mailLane lib).call_lockstep hmail request.action request.payload) fun {s s'} hs => ?_
      simp only [BackendSet.timeless, mailPort, hs, hdb, hmongo, hredis, hauth, hamq]
    | redis =>
      refine (redisPort lib).lockstep (Option.map (redisLane lib).timelessSlot) hname
        ((redisLane lib).call_lockstep hredis request.action request.payload) fun {s s'} hs => ?_
      simp only [BackendSet.timeless, redisPort, hs, hdb, hmongo, hmail, hauth, hamq]
    | amq =>
      refine (amqPort lib).lockstep (Option.map AmqProducer.timeless) hname
        (amqCall_lockstep lib hamq request.action request.payload) fun {s s'} hs => ?_
      simp only [BackendSet.timeless, amqPort, hs, hdb, hmongo, hmail, hredis, hauth]
    | auth =>
      refine (authPort lib).lockstep (Option.map (authLane lib).timelessSlot) hname
        ((authLane lib).call_lockstep hauth request.action request.payload) fun {s s'} hs => ?_
      simp only [BackendSet.timeless, authPort, hs, hdb, hmongo, hmail, hredis, hamq]
  · have hunknown := fun c h => hname ⟨c, h⟩
    rw [self.call_unknown lib hunknown, self'.call_unknown lib hunknown]
    exact .ret ⟨rfl, h⟩

end Fabricd
