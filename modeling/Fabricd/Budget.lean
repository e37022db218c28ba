import Fabricd.Chronicle

/-!
# The wall-clock budget of a session

`db` and `mongo` bound their operations by a deadline they anchor when their connect has
returned. Where that leaves the operations of a session, by the readings of its clock.
-/

namespace Fabricd

open Framework Db Mongo ClientAuth

/-! ## Clock readings -/

def reading : Event Fx → Option Instant
  | ⟨⟨.now, _⟩, t⟩ => some (t : Instant)
  | _ => none

/-- The readings of a log, in order. -/
def readings (log : List (Event Fx)) : List Instant := log.filterMap reading

@[simp] theorem readings_nil : readings [] = [] := rfl

@[simp] theorem readings_append (es fs : List (Event Fx)) :
    readings (es ++ fs) = readings es ++ readings fs := List.filterMap_append

private theorem readings_eq_nil {es : List (Event Fx)} (h : ∀ e ∈ es, e.op.call ≠ .now) :
    readings es = [] := by
  refine List.filterMap_eq_nil_iff.mpr fun e he => ?_
  obtain ⟨⟨call, budget⟩, answer⟩ := e
  cases call with
  | now => exact absurd rfl (h _ he)
  | _ => rfl

private theorem mem_readings {log : List (Event Fx)} {t : Instant} (h : t ∈ readings log) :
    ∃ e ∈ log, reading e = some t := List.mem_filterMap.mp h

/-- No request of the log is bounded in time. -/
def Unbudgeted (es : List (Event Fx)) : Prop := ∀ e ∈ es, e.op.budget = none

/-- The ghost state is the last reading; a bounded request gets what was left of the
deadline at that reading. -/
def pacing (deadline : Instant) : Monitor Fx (Option Instant) where
  ok last e := ∀ budget, e.op.budget = some budget → ∃ t, last = some t ∧ budget = deadline - t
  next last e := (reading e).or last

/-- Every bounded request of the work ends by the deadline. -/
def Paced (deadline : Instant) (work : List (Event Fx)) : Prop :=
  ∀ before e after budget, work = before ++ e :: after → e.op.budget = some budget →
    ∃ t, (readings before).getLast? = some t ∧ budget = deadline - t

private theorem pacing_after (deadline : Instant) (es : List (Event Fx)) (last : Option Instant) :
    (pacing deadline).after last es = (readings es).getLast?.or last := by
  induction es generalizing last with
  | nil => rfl
  | cons e es ih =>
    rw [Monitor.after_cons, ih]
    show (readings es).getLast?.or ((reading e).or last) = (readings (e :: es)).getLast?.or last
    have hcons : readings (e :: es) = (reading e).toList ++ readings es := by
      cases he : reading e <;> simp [readings, he]
    have hlast : (reading e).toList.getLast? = reading e := by
      cases reading e <;> rfl
    rw [hcons, List.getLast?_append, hlast, Option.or_assoc]

private theorem paced_of_accepts {deadline : Instant} {work : List (Event Fx)}
    (h : (pacing deadline).Accepts none work) : Paced deadline work := by
  intro before e after budget hwork hbudget
  rw [hwork] at h
  obtain ⟨t, hlast, hrest⟩ := h.ok_at budget hbudget
  rw [pacing_after, Option.or_none] at hlast
  exact ⟨t, hlast, hrest⟩

private theorem accepts_unbudgeted {deadline : Instant} {es : List (Event Fx)} (h : Unbudgeted es)
    (last : Option Instant) : (pacing deadline).Accepts last es := by
  induction es generalizing last with
  | nil => trivial
  | cons e es ih =>
    refine ⟨fun budget hbudget => ?_, ih (fun e he => h e (List.mem_cons_of_mem _ he)) _⟩
    rw [h e List.mem_cons_self] at hbudget
    cases hbudget

/-! ## Anchored deadlines -/

/-- A deadline and the readings it was anchored by: the budget after the first, or the
second one itself when that overflows. -/
inductive Anchors (timeout : Duration) : List Instant → Instant → Prop where
  | added {t : Instant} (fits : t + timeout ≤ instantMax) : Anchors timeout [t] (t + timeout)
  | overflow {t t' : Instant} (exceeds : instantMax < t + timeout) : Anchors timeout [t, t'] t'

private theorem anchorDeadline_eq (timeout : Duration) :
    anchorDeadline timeout = (.act ⟨.now, none⟩ fun (t : Instant) =>
      if t + timeout ≤ instantMax then .ret (t + timeout)
      else .act ⟨.now, none⟩ fun (t' : Instant) => .ret t' : Fab Instant) := by
  unfold anchorDeadline checkedAdd
  refine congrArg (Prog.act (S := Fx) _) (funext fun (t : Instant) => ?_)
  by_cases hfits : t + timeout ≤ instantMax
  · simp only [Prog.bind, if_pos hfits]
    rfl
  · simp only [Prog.bind, if_neg hfits]
    rfl

private theorem anchorDeadline_anchors {timeout : Duration} {es : List (Event Fx)}
    {deadline : Instant}
    (hs : Prog.Steps (anchorDeadline timeout) es (.ret deadline)) :
    Anchors timeout (readings es) deadline := by
  rw [anchorDeadline_eq] at hs
  cases es with
  | nil =>
    have hstuck := Prog.steps_act_nil hs
    cases hstuck
  | cons first rest =>
    obtain ⟨t, rfl, hrest⟩ := Prog.steps_act_cons hs
    split at hrest
    next hfits =>
      obtain ⟨rfl, hret⟩ := Prog.steps_ret hrest
      cases hret
      exact .added hfits
    next hover =>
      cases rest with
      | nil =>
        have hstuck := Prog.steps_act_nil hrest
        cases hstuck
      | cons second rest =>
        obtain ⟨t', rfl, hlast⟩ := Prog.steps_act_cons hrest
        obtain ⟨rfl, hret⟩ := Prog.steps_ret hlast
        cases hret
        exact .overflow (Nat.lt_of_not_le hover)

theorem anchorDeadline_added {timeout : Duration} {t : Instant} (fits : t + timeout ≤ instantMax) :
    Prog.Steps (anchorDeadline timeout) [⟨⟨.now, none⟩, t⟩] (.ret (t + timeout)) := by
  rw [anchorDeadline_eq]
  refine .act ?_
  rw [if_pos fits]
  exact .refl _

/-- The connect took no time at all: its first reading is the start of the budget, or, when
the sum overflows, its second one is within the budget. -/
def Prompt (start : Instant) (timeout : Duration) : List Instant → Prop
  | [t] => t = start
  | times => ∀ t ∈ times.getLast?, t ≤ start + timeout

private theorem Anchors.within_iff {timeout : Duration} {times : List Instant}
    {deadline start : Instant}
    (h : Anchors timeout times deadline) (hclock : ∀ t ∈ times, start ≤ t) :
    deadline ≤ start + timeout ↔ Prompt start timeout times := by
  cases h with
  | @added t _ =>
    have hstart : start ≤ t := hclock t List.mem_cons_self
    show t + timeout ≤ start + timeout ↔ t = start
    rw [Nat.add_le_add_iff_right]
    exact ⟨fun h => Nat.le_antisymm h hstart, fun h => Nat.le_of_eq h⟩
  | @overflow t t' _ => simp [Prompt]

/-! ## What the two backends bound -/

def Unbounded (op : FxOp) : Prop := op.budget = none

private theorem unbounded_ask (call : Call) : Prog.Only (S := Fx) Unbounded (ask call) :=
  Prog.Only.perform (S := Fx) rfl

private theorem unbounded_anchorDeadline (timeout : Duration) :
    Prog.Only (S := Fx) Unbounded (anchorDeadline timeout) := by
  rw [anchorDeadline_eq]
  refine ⟨rfl, fun (t : Instant) => ?_⟩
  show Prog.Only (S := Fx) Unbounded (if t + timeout ≤ instantMax then _ else _)
  split
  · trivial
  · exact ⟨rfl, fun t' => trivial⟩

private theorem unbudgeted_steps {α : Type} {p q : Fab α} {es : List (Event Fx)}
    (h : Prog.Only (S := Fx) Unbounded p) (hs : Prog.Steps p es q) : Unbudgeted es :=
  (Prog.Sat.steps h hs).1

def Bounded (budget : Duration) (op : FxOp) : Prop := op.budget = some budget ∧ op.call ≠ .now

private theorem meets_bounded {deadline t : Instant} {α : Type} {p : Fab α}
    (h : Prog.Only (S := Fx) (Bounded (deadline - t)) p) :
    Prog.Meets (pacing deadline) (fun _ _ => True) (some t) p := by
  refine Prog.Meets.mono (h.meets (s := some t) fun op hop answer => ⟨?_, ?_⟩) fun _ _ _ => trivial
  · intro budget hbudget
    refine ⟨t, rfl, ?_⟩
    have hsame : some (deadline - t) = some budget := hop.1.symm.trans hbudget
    exact (Option.some.inj hsame).symm
  · obtain ⟨call, budget⟩ := op
    cases call with
    | now => exact absurd rfl hop.2
    | _ => rfl

private theorem meets_now {deadline : Instant} {last : Option Instant} {α : Type}
    {U : Option Instant → α → Prop} {f : Instant → Fab α}
    (h : ∀ t, Prog.Meets (pacing deadline) U (some t) (f t)) :
    Prog.Meets (pacing deadline) U last (now >>= f) := by
  intro t
  refine ⟨?_, h t⟩
  rintro budget ⟨⟩

private theorem meets_elapsed {deadline start : Instant} {last : Option Instant} {α : Type}
    {U : Option Instant → α → Prop} {f : Nat → Fab α}
    (h : ∀ d t, Prog.Meets (pacing deadline) U (some t) (f d)) :
    Prog.Meets (pacing deadline) U last (elapsedMicros start >>= f) := by
  unfold elapsedMicros
  rw [bind_assoc]
  exact meets_now fun t => h _ t

private theorem meets_bindE {deadline : Instant} {last : Option Instant} {ε α β : Type}
    {x : FabE ε α} {f : α → FabE ε β}
    (h : Prog.Meets (pacing deadline) (fun _ _ => True) last x.run)
    (hf : ∀ last a, Prog.Meets (pacing deadline) (fun _ _ => True) last (f a).run) :
    Prog.Meets (pacing deadline) (fun _ _ => True) last (x >>= f).run := by
  refine Prog.Meets.bind h fun last r _ => ?_
  cases r with
  | ok a => exact hf last a
  | error err => trivial

namespace Db

private theorem unbounded_connectThroughBreaker (config : DbConfig) (breaker : Bool) :
    Prog.Only (S := Fx) Unbounded (connectThroughBreaker config breaker) := by
  have hconnect : OnlyE (S := Fx) Unbounded (connect config) := by
    refine OnlyE.bind (unbounded_ask _) fun client => ?_
    exact OnlyE.bind (unbounded_ask _) fun _ => OnlyE.pure _
  unfold connectThroughBreaker
  split
  · refine Prog.Only.bind (unbounded_ask _) fun allowed => ?_
    split
    · refine Prog.Only.bind hconnect fun result => ?_
      exact Prog.Only.bind (unbounded_ask _) fun _ => Prog.Only.pure _
    · exact Prog.Only.pure _
  · exact Prog.Only.bind hconnect fun result => Prog.Only.pure _

private theorem unbounded_connectResource (config : DbConfig) (deps : DbDeps) :
    Prog.Only (S := Fx) Unbounded (DbBackend.connectResource config deps) := by
  have hconnect : OnlyE (S := Fx) Unbounded (DbBackend.connect config deps) := by
    refine OnlyE.bind (unbounded_connectThroughBreaker config deps.breaker) fun client => ?_
    refine OnlyE.bind (OnlyE.lift (unbounded_anchorDeadline deps.timeout)) fun deadline => ?_
    exact OnlyE.pure _
  exact Prog.Only.bind hconnect fun result => Prog.Only.pure _

private theorem connect_opened (config : DbConfig) (deps : DbDeps) :
    (DbBackend.connect config deps).run =
      connectThroughBreaker config deps.breaker >>= fun opened =>
        match opened with
        | .ok client => anchorDeadline deps.timeout >>= fun deadline =>
            .ret (.ok { client, deadline, maxRows := config.maxRows, metrics := [] })
        | .error err => .ret (.error err) := by
  show (connectThroughBreaker config deps.breaker >>= fun opened => _) = _
  refine congrArg (_ >>= ·) (funext fun opened => ?_)
  cases opened with
  | error err => rfl
  | ok client => exact ExceptT.run_bind_lift (anchorDeadline deps.timeout) _

private theorem connectResource_anchors {config : DbConfig} {deps : DbDeps} {es : List (Event Fx)}
    {backend : DbBackend}
    (hs : Prog.Steps (DbBackend.connectResource config deps) es (.ret (.ok backend))) :
    Anchors deps.timeout (readings es) backend.deadline := by
  obtain ⟨es₁, es₂, result, rfl, hconnect, hret⟩ := Prog.steps_bind_ret hs
  obtain ⟨rfl, hresult⟩ := Prog.steps_ret hret
  rw [connect_opened] at hconnect
  obtain ⟨cs, as, opened, rfl, hopen, hrest⟩ := Prog.steps_bind_ret hconnect
  have hquiet : readings cs = [] := by
    refine readings_eq_nil fun e he hnow => ?_
    have hcall := (Prog.Sat.steps (connectThroughBreaker_only config deps.breaker) hopen).1 e he
    unfold On at hcall
    rw [hnow] at hcall
    exact hcall
  cases opened with
  | error err =>
    obtain ⟨-, hret⟩ := Prog.steps_ret hrest
    cases hret
    cases hresult
  | ok client =>
    obtain ⟨as₁, as₂, deadline, rfl, hanchor, hbuilt⟩ := Prog.steps_bind_ret hrest
    obtain ⟨rfl, hret⟩ := Prog.steps_ret hbuilt
    cases hret
    cases hresult
    have hanchored := anchorDeadline_anchors hanchor
    simpa [hquiet] using hanchored

theorem connectResource_opened (config : DbConfig) {timeout : Duration} (client : Postgres.ClientId)
    {es : List (Event Fx)} {deadline : Instant}
    (h : Prog.Steps (anchorDeadline timeout) es (.ret deadline)) :
    Prog.Steps (DbBackend.connectResource config ⟨timeout, false⟩)
      (⟨⟨.db (.connect (connectParams config)), none⟩, Except.ok client⟩ ::
        ⟨⟨.db (.batchExecute client (timeoutCmd config)), none⟩, Except.ok ()⟩ :: (es ++ []))
      (.ret (.ok ⟨client, deadline, config.maxRows, []⟩)) := by
  have hconnect : Prog.Steps (DbBackend.connect config ⟨timeout, false⟩).run
      (⟨⟨.db (.connect (connectParams config)), none⟩, Except.ok client⟩ ::
        ⟨⟨.db (.batchExecute client (timeoutCmd config)), none⟩, Except.ok ()⟩ :: (es ++ []))
      (.ret (.ok ⟨client, deadline, config.maxRows, []⟩)) := by
    rw [connect_opened]
    exact .act (.act (h.bind (.refl _)))
  have hreturn := hconnect.bind (f := fun result => .ret (result.mapError connectErrorToResource))
    (.refl _)
  rwa [List.append_nil] at hreturn

private theorem blockOnDb_paced (call : DbCall) (statement : Postgres.Statement)
    (last : Option Instant) :
    Prog.Meets (pacing call.deadline) (fun _ _ => True) last (blockOnDb call statement).run := by
  refine meets_now fun t => ?_
  refine meets_bounded ⟨⟨rfl, nofun⟩, fun answer => ?_⟩
  cases answer with
  | none => trivial
  | some reply =>
    cases reply with
    | ok value => trivial
    | error driver => trivial

private theorem dispatch_paced (lib : Lib) (call : DbCall) (action query paramsJson : String)
    (maxRows : Nat) (last : Option Instant) :
    Prog.Meets (pacing call.deadline) (fun _ _ => True) last
      (dispatch lib call action query paramsJson maxRows).run := by
  have hpure {α : Type} (r : Except DbError α) (last : Option Instant) :
      Prog.Meets (pacing call.deadline) (fun _ _ => True) last (ofExcept r).run := trivial
  have hsimple (cmd : String) :
      Prog.Meets (pacing call.deadline) (fun _ _ => True) last (doSimple call cmd).run :=
    meets_bindE (blockOnDb_paced call _ last) fun last _ => trivial
  unfold dispatch
  split
  · refine meets_bindE (hpure _ last) fun last params => ?_
    refine meets_bindE (blockOnDb_paced call _ last) fun last rows => ?_
    exact hpure _ last
  · refine meets_bindE (hpure _ last) fun last params => ?_
    exact meets_bindE (blockOnDb_paced call _ last) fun last affected => trivial
  · exact hsimple "BEGIN"
  · exact hsimple "COMMIT"
  · exact hsimple "ROLLBACK"
  · exact hpure _ last

private theorem call_paced (lib : Lib) (self : DbBackend) (action query paramsJson : String)
    (last : Option Instant) :
    Prog.Meets (pacing self.deadline) (fun _ r => r.2.deadline = self.deadline) last
      (self.call lib action query paramsJson) := by
  refine meets_now fun start => ?_
  refine Prog.Meets.bind (dispatch_paced lib ⟨self.client, self.deadline⟩ action query paramsJson
    self.maxRows (some start)) fun last result _ => ?_
  unfold buildMetric
  simp only [bind_assoc, pure_bind]
  exact meets_elapsed fun d t => rfl

end Db

namespace Mongo

private theorem unbounded_connectResource (config : MongoConfig) (timeout : Duration) :
    Prog.Only (S := Fx) Unbounded (MongoBackend.connectResource config timeout) := by
  refine Prog.Only.bind (unbounded_ask _) fun built => ?_
  cases built with
  | error err => exact Prog.Only.pure _
  | ok client => exact Prog.Only.bind (unbounded_anchorDeadline timeout) fun _ => Prog.Only.pure _

private theorem connectResource_anchors {config : MongoConfig} {timeout : Duration}
    {es : List (Event Fx)} {backend : MongoBackend}
    (hs : Prog.Steps (MongoBackend.connectResource config timeout) es (.ret (.ok backend))) :
    Anchors timeout (readings es) backend.deadline := by
  obtain ⟨bs, as, built, rfl, hbuild, hrest⟩ := Prog.steps_bind_ret hs
  have hquiet : readings bs = [] := by
    refine readings_eq_nil fun e he hnow => ?_
    have hcall := (Prog.Sat.steps (only_ask (P := Connects config) rfl) hbuild).1 e he
    unfold On at hcall
    rw [hnow] at hcall
    cases hcall
  cases built with
  | error err =>
    obtain ⟨-, hret⟩ := Prog.steps_ret hrest
    cases hret
  | ok client =>
    obtain ⟨as₁, as₂, deadline, rfl, hanchor, hbuilt⟩ := Prog.steps_bind_ret hrest
    obtain ⟨rfl, hret⟩ := Prog.steps_ret hbuilt
    cases hret
    have hanchored := anchorDeadline_anchors hanchor
    simpa [hquiet] using hanchored

private theorem connectResource_built (config : MongoConfig) {timeout : Duration}
    (client : Mongodb.ClientId) {es : List (Event Fx)} {deadline : Instant}
    (h : Prog.Steps (anchorDeadline timeout) es (.ret deadline)) :
    Prog.Steps (MongoBackend.connectResource config timeout)
      (⟨⟨.mongo (.build (buildUri config)), none⟩, Except.ok client⟩ :: (es ++ []))
      (.ret (.ok ⟨client, config.database, deadline, config.maxDocs, config.opTimeoutMs, []⟩)) :=
  .act (h.bind (.refl _))

section

variable (lib : Lib) (budget : Duration)

private theorem await_bounded {α : Type} (op : Mongodb.Op)
    (hans : op.Ans = Option (Except Mongodb.DriverError α)) :
    OnlyE (S := Fx) (Bounded budget) (await budget op hans) := by
  refine ⟨⟨rfl, nofun⟩, fun answer => ?_⟩
  simp only [Prog.bind]
  split
  · trivial
  · trivial
  · trivial

private theorem drainDocs_bounded (client : Mongodb.ClientId) (cursor : Mongodb.CursorId)
    (room : Nat)
    (docs : List Json) :
    OnlyE (S := Fx) (Bounded budget) (drainDocs lib budget client cursor room docs) := by
  induction room generalizing docs with
  | zero =>
    refine OnlyE.bind (await_bounded budget _ rfl) fun more => ?_
    cases more with
    | true => exact OnlyE.pure _
    | false => exact OnlyE.pure _
  | succ room ih =>
    refine OnlyE.bind (await_bounded budget _ rfl) fun more => ?_
    cases more with
    | false => exact OnlyE.pure _
    | true =>
      refine OnlyE.bind ?_ fun doc => ih _
      exact ⟨⟨rfl, nofun⟩, fun read => trivial⟩

private theorem drainCursor_bounded (client : Mongodb.ClientId) (cursor : Mongodb.CursorId)
    (maxDocs : Nat) :
    OnlyE (S := Fx) (Bounded budget) (drainCursor lib budget client cursor maxDocs) :=
  OnlyE.bind (drainDocs_bounded lib budget client cursor maxDocs []) fun _ => OnlyE.pure _

private theorem run_bounded (call : MongoCall) (collection : Mongodb.Collection) (action : String)
    (payload : MongoPayload) :
    OnlyE (S := Fx) (Bounded budget) (run lib budget call collection action payload) := by
  have hpure {α : Type} (r : Except MongoError α) : OnlyE (S := Fx) (Bounded budget) (ofExcept r) :=
    trivial
  have hupdate (many : Bool) :
      OnlyE (S := Fx) (Bounded budget) (doUpdate lib budget collection payload many) := by
    refine OnlyE.bind (hpure _) fun filter => ?_
    refine OnlyE.bind (hpure _) fun update => ?_
    exact OnlyE.bind (await_bounded budget _ rfl) fun result => OnlyE.pure _
  have hdelete (many : Bool) :
      OnlyE (S := Fx) (Bounded budget) (doDelete lib budget collection payload many) := by
    refine OnlyE.bind (hpure _) fun filter => ?_
    exact OnlyE.bind (await_bounded budget _ rfl) fun deleted => OnlyE.pure _
  unfold run
  split
  · refine OnlyE.bind (hpure _) fun filter => ?_
    refine OnlyE.bind (hpure _) fun sort => ?_
    refine OnlyE.bind (hpure _) fun projection => ?_
    refine OnlyE.bind (await_bounded budget _ rfl) fun cursor => ?_
    exact drainCursor_bounded lib budget call.client cursor call.maxDocs
  · refine OnlyE.bind (hpure _) fun filter => ?_
    exact OnlyE.bind (await_bounded budget _ rfl) fun found => OnlyE.pure _
  · refine OnlyE.bind (hpure _) fun filter => ?_
    exact OnlyE.bind (await_bounded budget _ rfl) fun count => OnlyE.pure _
  · refine OnlyE.bind (hpure _) fun pipeline => ?_
    refine OnlyE.bind (await_bounded budget _ rfl) fun cursor => ?_
    exact drainCursor_bounded lib budget call.client cursor call.maxDocs
  · refine OnlyE.bind (hpure _) fun doc => ?_
    exact OnlyE.bind (await_bounded budget _ rfl) fun insertedId => OnlyE.pure _
  · refine OnlyE.bind (hpure _) fun docs => ?_
    split
    · exact hpure _
    · exact OnlyE.bind (await_bounded budget _ rfl) fun inserted => OnlyE.pure _
  · exact hupdate false
  · exact hupdate true
  · exact hdelete false
  · exact hdelete true
  · exact hpure _

private theorem call_paced (self : MongoBackend) (action collection payloadJson : String)
    (last : Option Instant) :
    Prog.Meets (pacing self.deadline) (fun _ r => r.2.deadline = self.deadline) last
      (self.call lib action collection payloadJson) := by
  have hdispatch (last : Option Instant) :
      Prog.Meets (pacing self.deadline) (fun _ _ => True) last
        (dispatch lib ⟨self.client, self.database, self.deadline, self.maxDocs, self.opTimeoutMs⟩
          action collection payloadJson).run := by
    refine meets_bindE (x := ofExcept _) trivial fun last fields => ?_
    refine meets_now fun t => ?_
    exact meets_bounded (run_bounded lib _ _ _ action _)
  refine meets_now fun start => ?_
  refine Prog.Meets.bind (hdispatch (some start)) fun last result _ => ?_
  unfold buildMetric
  simp only [bind_assoc, pure_bind]
  exact meets_elapsed fun d t => rfl

end

end Mongo

/-! ## Under one deadline -/

/-- A capability that works under a deadline it anchors when it connects. -/
structure Anchored {Config Backend : Type} (lane : Lane Config AsyncDeps Backend) where
  deadline : Backend → Instant
  connect_unbounded : ∀ slot, Prog.Only (S := Fx) Unbounded (lane.connect slot)
  connect_anchors : ∀ {slot attempt backend},
    Prog.Steps (lane.connect slot) attempt (.ret (.ok backend)) →
      Anchors slot.deps.timeout (readings attempt) (deadline backend)
  run_paced : ∀ action payload backend last,
    Prog.Meets (pacing (deadline backend)) (fun _ r => deadline r.2 = deadline backend) last
      (lane.run action payload backend)

def dbAnchored (lib : Lib) : Anchored (dbLane lib) where
  deadline := DbBackend.deadline
  connect_unbounded slot := Db.unbounded_connectResource slot.config _
  connect_anchors h := Db.connectResource_anchors h
  run_paced action payload backend last := by
    show Prog.Meets _ _ last (BackendSet.runDb lib action payload backend)
    unfold BackendSet.runDb
    split
    · rfl
    · exact Prog.Meets.bind (Db.call_paced lib backend action _ _ last) fun _ _ h => h

def mongoAnchored (lib : Lib) : Anchored (mongoLane lib) where
  deadline := MongoBackend.deadline
  connect_unbounded slot := Mongo.unbounded_connectResource slot.config _
  connect_anchors h := Mongo.connectResource_anchors h
  run_paced action payload backend last := by
    show Prog.Meets _ _ last (BackendSet.runMongo lib action payload backend)
    unfold BackendSet.runMongo
    split
    · rfl
    · exact Prog.Meets.bind (Mongo.call_paced lib backend action _ _ last) fun _ _ h => h

namespace Anchored

variable {Config Backend : Type} {lane : Lane Config AsyncDeps Backend} (anchored : Anchored lane)

/-- The slot's first call connected by this attempt, and this is the deadline it stored. -/
structure Stored (slot : Slot Config AsyncDeps Backend) (visits : List Visit)
    (attempt : List (Event Fx)) (deadline : Instant) : Prop where
  opened : ∃ backend, Prog.Steps (lane.connect slot) attempt (.ret (.ok backend)) ∧
    anchored.deadline backend = deadline
  first : ∃ older visit use, visits = older ++ [visit] ∧ visit.work = attempt ++ use

variable {anchored} {slot : Slot Config AsyncDeps Backend}

theorem Stored.push {visits : List Visit} {attempt : List (Event Fx)} {deadline : Instant}
    (h : anchored.Stored slot visits attempt deadline) (visit : Visit) :
    anchored.Stored slot (visit :: visits) attempt deadline := by
  obtain ⟨older, first, use, rfl, hfirst⟩ := h.first
  exact ⟨h.opened, visit :: older, first, use, rfl, hfirst⟩

private theorem paced_first {action payload : String} {attempt use : List (Event Fx)}
    {backend : Backend}
    {q : Fab (Except EgressError String × Backend)}
    (opened : Prog.Steps (lane.connect slot) attempt (.ret (.ok backend)))
    (ran : Prog.Steps (lane.run action payload backend) use q) :
    Paced (anchored.deadline backend) (attempt ++ use) := by
  have hattempt := unbudgeted_steps (anchored.connect_unbounded slot) opened
  refine paced_of_accepts ((Monitor.accepts_append _ _ _ _).mpr ⟨?_, ?_⟩)
  · exact accepts_unbudgeted hattempt none
  · exact ((anchored.run_paced action payload backend _).steps ran).1

private theorem paced_run {action payload : String} {work : List (Event Fx)} {backend : Backend}
    {q : Fab (Except EgressError String × Backend)}
    (ran : Prog.Steps (lane.run action payload backend) work q) :
    Paced (anchored.deadline backend) work :=
  paced_of_accepts ((anchored.run_paced action payload backend none).steps ran).1

variable (anchored)

/-- What a cell says of the work done: none of it bounded before a backend is there, all of
it under the stored deadline since. -/
theorem chronicle_paced {cell : OnceLock Backend} {visits : List Visit}
    (h : lane.Chronicle slot cell visits) :
    match cell with
    | some (.ok backend) =>
      (∃ attempt, anchored.Stored slot visits attempt (anchored.deadline backend)) ∧
        ∀ visit ∈ visits, Paced (anchored.deadline backend) visit.work
    | _ => ∀ visit ∈ visits, Unbudgeted visit.work := by
  induction h with
  | unused => exact List.forall_mem_nil _
  | failed attempt _ =>
    refine List.forall_mem_cons.mpr ⟨?_, List.forall_mem_nil _⟩
    exact unbudgeted_steps (anchored.connect_unbounded slot) attempt
  | refused _ idle _ ih =>
    refine List.forall_mem_cons.mpr ⟨?_, ih⟩
    rw [idle]
    exact List.forall_mem_nil _
  | @connected visit attempt use backend r opened ran work _ =>
    have hkept := ((anchored.run_paced _ _ _ none).steps ran).2
    simp only [Prog.meets_ret] at hkept
    dsimp only
    rw [hkept]
    refine ⟨⟨attempt, ⟨backend, opened, rfl⟩, [], visit, use, rfl, work⟩, ?_⟩
    refine List.forall_mem_cons.mpr ⟨?_, List.forall_mem_nil _⟩
    rw [work]
    exact paced_first opened ran
  | @served visit older backend r _ ran _ ih =>
    have hkept := ((anchored.run_paced _ _ _ none).steps ran).2
    simp only [Prog.meets_ret] at hkept
    dsimp only at ih ⊢
    rw [hkept]
    obtain ⟨⟨attempt, hstored⟩, hpaced⟩ := ih
    exact ⟨⟨attempt, hstored.push visit⟩, List.forall_mem_cons.mpr ⟨paced_run ran, hpaced⟩⟩

private theorem unfolding_paced {visits : List Visit} (h : lane.Unfolding slot visits) :
    (∀ visit ∈ visits, Unbudgeted visit.work) ∨
      ∃ attempt deadline, anchored.Stored slot visits attempt deadline ∧
        ∀ visit ∈ visits, Paced deadline visit.work := by
  cases h with
  | @rest cell _ before =>
    have hcell := anchored.chronicle_paced before
    cases cell with
    | none => exact .inl hcell
    | some outcome =>
      cases outcome with
      | error err => exact .inl hcell
      | ok backend =>
        obtain ⟨⟨attempt, hstored⟩, hpaced⟩ := hcell
        exact .inr ⟨attempt, _, hstored, hpaced⟩
  | connecting attempt _ =>
    refine .inl (List.forall_mem_cons.mpr ⟨?_, List.forall_mem_nil _⟩)
    exact unbudgeted_steps (anchored.connect_unbounded slot) attempt
  | refusing before idle _ =>
    refine .inl (List.forall_mem_cons.mpr ⟨?_, anchored.chronicle_paced before⟩)
    rw [idle]
    exact List.forall_mem_nil _
  | @starting visit attempt use backend q opened ran work _ =>
    refine .inr ⟨attempt, _, ⟨⟨backend, opened, rfl⟩, [], visit, use, rfl, work⟩, ?_⟩
    refine List.forall_mem_cons.mpr ⟨?_, List.forall_mem_nil _⟩
    rw [work]
    exact paced_first opened ran
  | @serving visit older backend q before ran _ =>
    obtain ⟨⟨attempt, hstored⟩, hpaced⟩ := anchored.chronicle_paced before
    exact .inr ⟨attempt, _, hstored.push visit,
      List.forall_mem_cons.mpr ⟨paced_run ran, hpaced⟩⟩

/-- The deadline the slot stored is no later than `stop`, and every bounded request of its
calls is given a time that ends by then. -/
structure EndsBy (stop : Instant) (slot : Slot Config AsyncDeps Backend) (visits : List Visit) :
    Prop where
  stored : ∀ attempt deadline, anchored.Stored slot visits attempt deadline → deadline ≤ stop
  given : ∀ visit ∈ visits, ∀ before e after budget, visit.work = before ++ e :: after →
    e.op.budget = some budget → ∃ t, (readings before).getLast? = some t ∧ budget ≤ stop - t

/-- The connect that stored the deadline was prompt. -/
def Prompted (start : Instant) (timeout : Duration) (slot : Slot Config AsyncDeps Backend)
    (visits : List Visit) : Prop :=
  ∀ attempt deadline, anchored.Stored slot visits attempt deadline →
    Prompt start timeout (readings attempt)

private theorem endsBy_iff {start : Instant} {slot : Slot Config AsyncDeps Backend}
    {visits : List Visit}
    (h : lane.Unfolding slot visits)
    (hclock : ∀ visit ∈ visits, ∀ t ∈ readings visit.work, start ≤ t) :
    anchored.EndsBy (start + slot.deps.timeout) slot visits ↔
      anchored.Prompted start slot.deps.timeout slot visits := by
  have hwithin {attempt : List (Event Fx)} {deadline : Instant}
      (hstored : anchored.Stored slot visits attempt deadline) :
      deadline ≤ start + slot.deps.timeout ↔ Prompt start slot.deps.timeout (readings attempt) := by
    obtain ⟨backend, hopened, rfl⟩ := hstored.opened
    obtain ⟨older, visit, use, rfl, hwork⟩ := hstored.first
    refine (anchored.connect_anchors hopened).within_iff fun t ht => ?_
    refine hclock visit (by simp) t ?_
    rw [hwork, readings_append]
    exact List.mem_append_left _ ht
  refine ⟨fun hends attempt deadline hstored => ?_, fun hprompt => ⟨?_, ?_⟩⟩
  · exact (hwithin hstored).mp (hends.stored attempt deadline hstored)
  · intro attempt deadline hstored
    exact (hwithin hstored).mpr (hprompt attempt deadline hstored)
  · intro visit hvisit before e after budget hwork hbudget
    rcases anchored.unfolding_paced h with hfree | ⟨attempt, deadline, hstored, hpaced⟩
    · have hnone : e.op.budget = none := hfree visit hvisit e (by simp [hwork])
      rw [hnone] at hbudget
      cases hbudget
    · obtain ⟨t, hlast, hgiven⟩ := hpaced visit hvisit before e after budget hwork hbudget
      refine ⟨t, hlast, ?_⟩
      have hstop := (hwithin hstored).mpr (hprompt attempt deadline hstored)
      rw [hgiven]
      exact Nat.sub_le_sub_right hstop t

end Anchored

/-! ## Whole sessions -/

/-- One budget: `db` and `mongo` both end by `stop`. -/
structure OneBudget (lib : Lib) (set : BackendSet) (stop : Instant) (log : List (Event Fx)) :
    Prop where
  db : ∀ slot, set.db = some slot → (dbAnchored lib).EndsBy stop slot (visitsOf .db log)
  mongo : ∀ slot, set.mongo = some slot → (mongoAnchored lib).EndsBy stop slot (visitsOf .mongo log)

/-- Both capabilities connected promptly, or not at all. -/
structure PromptConnects (lib : Lib) (set : BackendSet) (start : Instant) (timeout : Duration)
    (log : List (Event Fx)) : Prop where
  db : ∀ slot, set.db = some slot →
    (dbAnchored lib).Prompted start timeout slot (visitsOf .db log)
  mongo : ∀ slot, set.mongo = some slot →
    (mongoAnchored lib).Prompted start timeout slot (visitsOf .mongo log)

section

variable (lib : Lib) (shared : Shared) (authenticator : Authenticator)

private theorem wired_timeout (init : WireInit) (input : Input) :
    ∃ configs, wired shared authenticator (.ok (.init init) :: input) =
      .fromConfigs configs { breaker := shared.breaker, timeout := fromMillis init.timeoutMs } := by
  have hnew (deps : AsyncDeps) :
      BackendSet.new = .fromConfigs ⟨none, none, none, none, none, none⟩ deps := rfl
  unfold wired
  dsimp only
  cases authenticator.authenticate init.token with
  | error reject => exact ⟨_, hnew _⟩
  | ok _ =>
    cases resolve shared.table init with
    | error err => exact ⟨_, hnew _⟩
    | ok resolved => exact ⟨_, rfl⟩

section

variable {init : WireInit} {input : Input} {start : Instant} {log : List (Event Fx)}
  {q : Fab (Except String Unit)}

private theorem serve_endsBy {Config Backend : Type} {lane : Lane Config AsyncDeps Backend}
    (anchored : Anchored lane) (port : Port lib lane.capability lane.call)
    (hs : Prog.Steps (serve lib shared authenticator (.ok (.init init) :: input)).run log q)
    (hclock : ∀ t ∈ readings log, start ≤ t) {slot : Slot Config AsyncDeps Backend}
    (hslot : port.get (wired shared authenticator (.ok (.init init) :: input)) = some slot)
    (hfresh : slot.backend = none) (hdeps : slot.deps.timeout = fromMillis init.timeoutMs) :
    anchored.EndsBy (start + fromMillis init.timeoutMs) slot (visitsOf lane.capability log) ↔
      anchored.Prompted start (fromMillis init.timeoutMs) slot (visitsOf lane.capability log) := by
  have htold := serve_chronicle lane lib shared authenticator port
    (fun s hs => by rwa [Option.some.inj (hs.symm.trans hslot)]) hs
  rw [hslot] at htold
  have hown := (serve_placed lib shared authenticator hs).1.own
  rw [← hdeps]
  refine anchored.endsBy_iff htold fun visit hvisit t ht => ?_
  obtain ⟨e, he, hread⟩ := mem_readings ht
  refine hclock t (List.mem_filterMap.mpr ⟨e, ?_, hread⟩)
  exact hown visit (List.mem_of_mem_filter hvisit) e he

/-- The budget of a session, whatever its calls and their timing: `start` is when its
backends were wired. Lazy connects keep it exactly when they are prompt. -/
theorem serve_budget
    (hs : Prog.Steps (serve lib shared authenticator (.ok (.init init) :: input)).run log q)
    (hclock : ∀ t ∈ readings log, start ≤ t) :
    OneBudget lib (wired shared authenticator (.ok (.init init) :: input))
        (start + fromMillis init.timeoutMs) log ↔
      PromptConnects lib (wired shared authenticator (.ok (.init init) :: input)) start
        (fromMillis init.timeoutMs) log := by
  obtain ⟨configs, hwired⟩ := wired_timeout shared authenticator init input
  rw [fromConfigs_eq] at hwired
  have hdb (slot : DbSlot)
      (h : (wired shared authenticator (.ok (.init init) :: input)).db = some slot) :
      (dbAnchored lib).EndsBy (start + fromMillis init.timeoutMs) slot (visitsOf .db log) ↔
        (dbAnchored lib).Prompted start (fromMillis init.timeoutMs) slot (visitsOf .db log) := by
    obtain ⟨hfresh, hdeps⟩ := slot_wired ((congrArg BackendSet.db hwired).symm.trans h)
    exact serve_endsBy lib shared authenticator (dbAnchored lib) (dbPort lib) hs hclock h hfresh
      (congrArg AsyncDeps.timeout hdeps)
  have hmongo (slot : MongoSlot)
      (h : (wired shared authenticator (.ok (.init init) :: input)).mongo = some slot) :
      (mongoAnchored lib).EndsBy (start + fromMillis init.timeoutMs) slot (visitsOf .mongo log) ↔
        (mongoAnchored lib).Prompted start (fromMillis init.timeoutMs) slot
          (visitsOf .mongo log) := by
    obtain ⟨hfresh, hdeps⟩ := slot_wired ((congrArg BackendSet.mongo hwired).symm.trans h)
    exact serve_endsBy lib shared authenticator (mongoAnchored lib) (mongoPort lib) hs hclock h
      hfresh (congrArg AsyncDeps.timeout hdeps)
  constructor
  · intro h
    exact ⟨fun slot hslot => (hdb slot hslot).mp (h.db slot hslot),
      fun slot hslot => (hmongo slot hslot).mp (h.mongo slot hslot)⟩
  · intro h
    exact ⟨fun slot hslot => (hdb slot hslot).mpr (h.db slot hslot),
      fun slot hslot => (hmongo slot hslot).mpr (h.mongo slot hslot)⟩

end

end

/-! ## A late first call -/

/-- A `mongo` driver that builds its client, under a clock that stands at `t`. -/
def standingClock (t : Instant) : Env Fx Unit
  | w, ⟨.now, _⟩ => (t, w)
  | w, ⟨.mongo (.build _), _⟩ => (Except.ok 0, w)
  | w, ⟨call, _⟩ => ((default : call.Ans), w)

def lateConfig : MongoConfig :=
  ⟨"mongo", 27017, none, none, "shop", "admin", false, none, 5000, 100⟩

def lateShared : Shared where
  table name := if name = "orders" then some ⟨none, .mongo lateConfig⟩ else none
  maxStatementTimeoutMs := 0
  breaker := false

/-- A session of one second whose only call comes later. -/
def lateInput : Input :=
  [.ok (.init { WireInit.empty with mongo := some "orders", timeoutMs := 1000 }),
    .ok (.call ⟨"mongo", "count", "\x7b\x7d"⟩)]

def lateSession (t : Instant) : Outcome Fx Unit (Except String Unit) :=
  Prog.run (standingClock t) () (serve Lib.rejecting lateShared .none lateInput).run

private theorem lateSession_steps (t : Instant) :
    Prog.Steps (serve Lib.rejecting lateShared .none lateInput).run (lateSession t).events
      (.ret (lateSession t).value) :=
  Prog.run_steps _ _ _

def lateSlot : MongoSlot := .new lateConfig ⟨false, fromMillis 1000⟩

def lateAttempt (t : Instant) : List (Event Fx) :=
  [⟨⟨.mongo (.build (Mongo.buildUri lateConfig)), none⟩, Except.ok 0⟩, ⟨⟨.now, none⟩, t⟩]

private theorem lateSession_stored :
    (mongoAnchored Lib.rejecting).Stored lateSlot
      (visitsOf .mongo (lateSession 60000000000).events) (lateAttempt 60000000000)
      (60000000000 + fromMillis 1000) := by
  have hfits : (60000000000 : Instant) + fromMillis 1000 ≤ instantMax := by decide
  have hopened := Mongo.connectResource_built lateConfig 0 (anchorDeadline_added hfits)
  exact ⟨⟨_, hopened, rfl⟩, [], _, [], rfl, rfl⟩

private theorem lateSession_overruns :
    ¬ OneBudget Lib.rejecting (wired lateShared .none lateInput) (0 + fromMillis 1000)
      (lateSession 60000000000).events := by
  intro h
  have hslot : (wired lateShared .none lateInput).mongo = some lateSlot := rfl
  have hstored := (h.mongo lateSlot hslot).stored _ _ lateSession_stored
  exact absurd (Nat.le_of_add_le_add_right hstored) (by decide)

/-- The lone reading of that session is after its budget, so its connect was not prompt. -/
theorem serve_budget_lateSession :
    ¬ PromptConnects Lib.rejecting (wired lateShared .none lateInput) 0 (fromMillis 1000)
      (lateSession 60000000000).events := by
  intro h
  refine lateSession_overruns ((serve_budget Lib.rejecting lateShared .none
    (lateSession_steps 60000000000) fun t ht => ?_).mpr h)
  exact Nat.zero_le t

/-- A session does not keep one budget for `db` and `mongo`. -/
theorem late_call_exceeds_budget :
    ¬ ∀ (lib : Lib) (shared : Shared) (authenticator : Authenticator) (init : WireInit)
      (input : Input) (start : Instant) (log : List (Event Fx)) (q : Fab (Except String Unit)),
      Prog.Steps (serve lib shared authenticator (.ok (.init init) :: input)).run log q →
      (∀ t ∈ readings log, start ≤ t) →
      OneBudget lib (wired shared authenticator (.ok (.init init) :: input))
        (start + fromMillis init.timeoutMs) log := by
  intro h
  refine lateSession_overruns (h Lib.rejecting lateShared .none _ _ 0 _ _
    (lateSession_steps 60000000000) fun t ht => ?_)
  exact Nat.zero_le t

end Fabricd
