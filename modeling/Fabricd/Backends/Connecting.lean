import Fabricd.Backends.Footprint
import Fabricd.Backends.Deadlines

/-!
# What connecting asks for

Each backend is connected or built from its own config, and lives on the handle its driver
issued meanwhile. A `db` connect meets the breaker at most twice, on one target.
-/

namespace Fabricd

open Framework

/-! ## What a run shows -/

/-- The handle an event issues. -/
def issued : Event Fx → Option Handle
  | ⟨⟨.db (.connect _), _⟩, answer⟩ =>
    (answer : Except Postgres.PgError Postgres.ClientId).toOption.map .db
  | ⟨⟨.mongo (.build _), _⟩, answer⟩ =>
    (answer : Except Mongodb.DriverError Mongodb.ClientId).toOption.map .mongo
  | ⟨⟨.mail (.buildTransport _), _⟩, transport⟩ => some (.mail transport)
  | ⟨⟨.redis (.getConnection _), _⟩, answer⟩ =>
    (answer : Except Redis.RedisErr Redis.ConnId).toOption.map .redis
  | ⟨⟨.auth (.buildClient _), _⟩, answer⟩ =>
    (answer : Except String Http.ClientId).toOption.map .auth
  | _ => none

/-- What an event shows of the breaker. -/
inductive Sighting where
  | allow (target : String) (allowed : Bool)
  | record (target : String) (ok : Bool)
  deriving DecidableEq

def sighting : Event Fx → Option Sighting
  | ⟨⟨.breakerAllow target, _⟩, allowed⟩ => some (.allow target allowed)
  | ⟨⟨.breakerRecord target ok, _⟩, _⟩ => some (.record target ok)
  | _ => none

/-- The breaker's part in a run. -/
def sightings (es : List (Event Fx)) : List Sighting := es.filterMap sighting

@[simp] theorem sightings_nil : sightings [] = [] := rfl

@[simp] theorem sightings_append (es fs : List (Event Fx)) :
    sightings (es ++ fs) = sightings es ++ sightings fs := List.filterMap_append

theorem sightings_eq_nil {es : List (Event Fx)} (h : ∀ e ∈ es, sighting e = none) :
    sightings es = [] :=
  List.filterMap_eq_nil_iff.mpr h

private theorem sighting_now {e : Event Fx} (h : e.op.call = .now) : sighting e = none := by
  obtain ⟨⟨call, budget⟩, answer⟩ := e
  cases h
  rfl

/-- The requests that open a client, a connection or a transport. -/
def Call.opens : Call → Bool
  | .db (.connect _) | .mongo (.build _) | .mail (.buildTransport _) => true
  | .redis (.getConnection _) | .auth (.buildClient _) => true
  | _ => false

/-- A run that opens at most once, and is on no handle but those it was issued. -/
structure Opening (es : List (Event Fx)) : Prop where
  once : es.countP (fun e => Call.opens e.op.call) ≤ 1
  owned : ∀ e ∈ es, ∀ handle, e.op.call.handle = some handle → handle ∈ es.filterMap issued

theorem Opening.nil : Opening [] := ⟨Nat.zero_le 1, fun _ h => nomatch h⟩

theorem Opening.append {es fs : List (Event Fx)} (h : Opening es)
    (honce : (es ++ fs).countP (fun e => Call.opens e.op.call) ≤ 1)
    (hfs : ∀ e ∈ fs, ∀ handle, e.op.call.handle = some handle → handle ∈ es.filterMap issued) :
    Opening (es ++ fs) := by
  refine ⟨honce, fun e he handle hhandle => ?_⟩
  rw [List.filterMap_append]
  rcases List.mem_append.mp he with he | he
  · exact List.mem_append_left _ (h.owned e he handle hhandle)
  · exact List.mem_append_left _ (hfs e he handle hhandle)

theorem Opening.first {es : List (Event Fx)} (h : Opening es)
    (hnone : es.countP (fun e => Call.opens e.op.call) = 0) {e : Event Fx}
    (hhandle : e.op.call.handle = none) : Opening (es ++ [e]) := by
  refine h.append ?_ fun e' he => ?_
  · rw [List.countP_append, hnone, Nat.zero_add]
    exact List.countP_le_length
  · rw [List.mem_singleton.mp he, hhandle]
    exact fun _ h => nomatch h

private theorem Opening.keep {es fs : List (Event Fx)} (h : Opening es)
    (hfs : ∀ e ∈ fs, Call.opens e.op.call = false ∧
      ∀ handle, e.op.call.handle = some handle → handle ∈ es.filterMap issued) :
    Opening (es ++ fs) := by
  refine h.append ?_ fun e he => (hfs e he).2
  have hnone : fs.countP (fun e => Call.opens e.op.call) = 0 :=
    List.countP_eq_zero.mpr fun e he => by simp [(hfs e he).1]
  rw [List.countP_append, hnone]
  exact h.once

theorem Opening.use {es : List (Event Fx)} (h : Opening es) {handle : Handle}
    (hissued : handle ∈ es.filterMap issued) {e : Event Fx}
    (hopens : Call.opens e.op.call = false) (hhandle : e.op.call.handle = some handle) :
    Opening (es ++ [e]) := by
  refine h.keep fun e' he => ?_
  rw [List.mem_singleton.mp he, hhandle]
  refine ⟨hopens, ?_⟩
  rintro _ ⟨rfl⟩
  exact hissued

theorem Opening.snoc {es : List (Event Fx)} (h : Opening es) {e : Event Fx}
    (hopens : Call.opens e.op.call = false) (hhandle : e.op.call.handle = none) :
    Opening (es ++ [e]) := by
  refine h.keep fun e' he => ?_
  rw [List.mem_singleton.mp he, hhandle]
  exact ⟨hopens, fun _ h => nomatch h⟩

theorem Opening.now {es fs : List (Event Fx)} (h : Opening es)
    (hfs : ∀ e ∈ fs, e.op.call = .now) : Opening (es ++ fs) := by
  refine h.keep fun e he => ?_
  rw [hfs e he]
  exact ⟨rfl, fun _ h => nomatch h⟩

theorem only_anchorDeadline (timeout : Duration) :
    Prog.Only (On fun call => call = .now) (anchorDeadline timeout) := by
  have hnow : Prog.Only (On fun call => call = .now) now := only_ask (by rfl)
  refine hnow.bind fun t => ?_
  split
  · exact Prog.Only.pure _
  · exact hnow

/-! ## `db` -/

namespace Db

open Postgres

/-- A request of connecting with a config. -/
def Connects (config : DbConfig) : Call → Prop
  | .breakerAllow target => target = breakerTarget config
  | .breakerRecord target _ => target = breakerTarget config
  | .db (.connect params) => params = connectParams config
  | .db (.batchExecute _ cmd) => cmd = timeoutCmd config
  | _ => False

theorem connect_only (config : DbConfig) : OnlyE (On (Connects config)) (connect config) := by
  have hconnect : Connects config (.db (.connect (connectParams config))) := rfl
  have hset (client : ClientId) : Connects config (.db (.batchExecute client (timeoutCmd config))) :=
    rfl
  refine OnlyE.bind (only_ask hconnect) fun client => ?_
  refine OnlyE.bind (only_ask (hset client)) fun _ => ?_
  exact OnlyE.pure _

theorem connectThroughBreaker_only (config : DbConfig) (breaker : Bool) :
    Prog.Only (On (Connects config)) (connectThroughBreaker config breaker) := by
  have hallow : Connects config (.breakerAllow (breakerTarget config)) := rfl
  have hrecord (ok : Bool) : Connects config (.breakerRecord (breakerTarget config) ok) := rfl
  unfold connectThroughBreaker
  split
  · refine (only_ask hallow).bind fun allowed => ?_
    split
    · refine Prog.Only.bind (connect_only config) fun result => ?_
      refine (only_ask (hrecord _)).bind fun _ => ?_
      exact Prog.Only.pure _
    · exact Prog.Only.pure _
  · refine Prog.Only.bind (connect_only config) fun result => ?_
    exact Prog.Only.pure _

theorem connectResource_lockstep (config : DbConfig) (timeout timeout' : Duration)
    (breaker : Bool) :
    Lockstep (untimed (Connects config))
      (fun r r' => r.map DbBackend.timeless = r'.map DbBackend.timeless)
      (DbBackend.connectResource config ⟨timeout, breaker⟩)
      (DbBackend.connectResource config ⟨timeout', breaker⟩) := by
  unfold DbBackend.connectResource
  refine Lockstep.bind (Q := fun r r' => r.map DbBackend.timeless = r'.map DbBackend.timeless)
    ?_ fun r r' hr => ?_
  · refine (lockstep_only (connectThroughBreaker_only config breaker)).bindE (fun client => ?_)
      fun _ => rfl
    rw [ExceptT.run_bind_lift, ExceptT.run_bind_lift]
    exact lockstep_anchor fun t t' => .ret rfl
  · cases r with
    | ok b =>
      cases r' with
      | ok b' => exact .ret (congrArg Except.ok (Except.ok.inj hr))
      | error e' => cases hr
    | error e =>
      cases r' with
      | ok b' => cases hr
      | error e' =>
        cases hr
        exact .ret rfl

/-- What a connect shows of the breaker while it is under way. -/
def Underway (target : String) (breaker : Bool) (seen : List Sighting) : Prop :=
  seen = [] ∨ breaker = true ∧ (seen = [.allow target false] ∨ seen = [.allow target true] ∨
    ∃ ok, seen = [.allow target true, .record target ok])

/-- What it has shown once its outcome is there: a refusal, or an admission with the
outcome on record. -/
def Settled (target : String) (breaker ok : Bool) (seen : List Sighting) : Prop :=
  breaker = false ∧ seen = [] ∨
    breaker = true ∧ (ok = false ∧ seen = [.allow target false] ∨
      seen = [.allow target true, .record target ok])

private theorem Settled.underway {target : String} {breaker ok : Bool} {seen : List Sighting}
    (h : Settled target breaker ok seen) : Underway target breaker seen := by
  rcases h with ⟨-, h⟩ | ⟨hbreaker, ⟨-, h⟩ | h⟩
  · exact .inl h
  · exact .inr ⟨hbreaker, .inl h⟩
  · exact .inr ⟨hbreaker, .inr (.inr ⟨ok, h⟩)⟩

private theorem connect_history (config : DbConfig) {I : List (Event Fx) → Prop}
    {log : List (Event Fx)}
    (hlog : Opening log) (hnone : log.countP (fun e => Call.opens e.op.call) = 0)
    (hI : ∀ es, sightings es = sightings log → Opening es → I es) :
    (connect config).run.Meets (Prog.history I)
      (fun es r => sightings es = sightings log ∧ Opening es ∧
        ∀ client, r = .ok client → Handle.db client ∈ es.filterMap issued) log := by
  intro answer
  let first : Event Fx := ⟨⟨.db (.connect (connectParams config)), none⟩, answer⟩
  have hseen : sightings (log ++ [first]) = sightings log := by
    rw [sightings_append]
    exact List.append_nil _
  have hopen : Opening (log ++ [first]) := hlog.first hnone rfl
  refine ⟨hI _ hseen hopen, ?_⟩
  cases answer with
  | error err => exact ⟨hseen, hopen, fun _ h => nomatch h⟩
  | ok client =>
    have hissued : Handle.db client ∈ (log ++ [first]).filterMap issued := by
      rw [List.filterMap_append]
      exact List.mem_append_right _ (List.mem_singleton_self _)
    intro answer
    let second : Event Fx := ⟨⟨.db (.batchExecute client (timeoutCmd config)), none⟩, answer⟩
    have hseen' : sightings (log ++ [first] ++ [second]) = sightings log := by
      rw [sightings_append, hseen]
      exact List.append_nil _
    have hopen' : Opening (log ++ [first] ++ [second]) := hopen.use hissued rfl rfl
    refine ⟨hI _ hseen' hopen', ?_⟩
    cases answer with
    | error err => exact ⟨hseen', hopen', fun _ h => nomatch h⟩
    | ok _ =>
      refine ⟨hseen', hopen', ?_⟩
      rintro _ ⟨rfl⟩
      show Handle.db client ∈ (log ++ [first] ++ [second]).filterMap issued
      rw [List.filterMap_append]
      exact List.mem_append_left _ hissued

private theorem connectThroughBreaker_history (config : DbConfig) (breaker : Bool) :
    (connectThroughBreaker config breaker).Meets
      (Prog.history fun es => Underway (breakerTarget config) breaker (sightings es) ∧ Opening es)
      (fun es r => Settled (breakerTarget config) breaker r.isOk (sightings es) ∧ Opening es ∧
        ∀ client, r = .ok client → Handle.db client ∈ es.filterMap issued) [] := by
  have hdriver (r : Except PgError ClientId) :
      (r.mapError ConnectError.driver).isOk = r.isOk ∧
        ∀ client, r.mapError ConnectError.driver = .ok client → r = .ok client := by
    cases r with
    | error err => exact ⟨rfl, fun _ h => nomatch h⟩
    | ok issued => exact ⟨rfl, fun _ h => congrArg Except.ok (Except.ok.inj h)⟩
  cases breaker with
  | false =>
    refine (connect_history config .nil rfl fun es h hopen => ⟨.inl h, hopen⟩).bind
      fun es r h => ?_
    exact ⟨.inl ⟨rfl, h.1⟩, h.2.1, fun client hclient => h.2.2 client ((hdriver r).2 client hclient)⟩
  | true =>
    intro allowed
    have hasked : Opening [⟨⟨.breakerAllow (breakerTarget config), none⟩, allowed⟩] :=
      Opening.nil.snoc rfl rfl
    cases allowed with
    | false =>
      exact ⟨⟨.inr ⟨rfl, .inl rfl⟩, hasked⟩, .inr ⟨rfl, .inl ⟨rfl, rfl⟩⟩, hasked,
        fun _ h => nomatch h⟩
    | true =>
      refine ⟨⟨.inr ⟨rfl, .inr (.inl rfl)⟩, hasked⟩, ?_⟩
      refine (connect_history config hasked rfl
        fun es h hopen => ⟨.inr ⟨rfl, .inr (.inl h)⟩, hopen⟩).bind fun es r h => ?_
      obtain ⟨hseen, hopen, hissued⟩ := h
      have hseen' : sightings (es ++ [⟨⟨.breakerRecord (breakerTarget config) r.isOk, none⟩, ()⟩]) =
          [.allow (breakerTarget config) true, .record (breakerTarget config) r.isOk] := by
        rw [sightings_append, hseen]
        rfl
      have hopen' : Opening
          (es ++ [⟨⟨.breakerRecord (breakerTarget config) r.isOk, none⟩, ()⟩]) :=
        hopen.snoc rfl rfl
      intro _
      refine ⟨⟨.inr ⟨rfl, .inr (.inr ⟨_, hseen'⟩)⟩, hopen'⟩, .inr ⟨rfl, .inr ?_⟩, hopen',
        fun client hclient => ?_⟩
      · rw [(hdriver r).1]
        exact hseen'
      · have hmem := hissued client ((hdriver r).2 client hclient)
        simp only [Prog.history, List.filterMap_append]
        exact List.mem_append_left _ hmem

private theorem connectResource_history (config : DbConfig) (deps : DbDeps) :
    (DbBackend.connectResource config deps).Meets
      (Prog.history fun es =>
        Underway (breakerTarget config) deps.breaker (sightings es) ∧ Opening es)
      (fun es r => Settled (breakerTarget config) deps.breaker r.isOk (sightings es) ∧ Opening es ∧
        ∀ backend, r = .ok backend → Handle.db backend.client ∈ es.filterMap issued) [] := by
  let T (ε : Type) (es : List (Event Fx)) (r : Except ε DbBackend) : Prop :=
    Settled (breakerTarget config) deps.breaker r.isOk (sightings es) ∧ Opening es ∧
      ∀ backend, r = .ok backend → Handle.db backend.client ∈ es.filterMap issued
  refine Prog.Meets.bind (Q := T ConnectError) ?_ fun es r h => ?_
  · refine (connectThroughBreaker_history config deps.breaker).bind fun es r h => ?_
    obtain ⟨hsettled, hopen, hissued⟩ := h
    cases r with
    | error err => exact ⟨hsettled, hopen, fun _ h => nomatch h⟩
    | ok client =>
      have hquiet : ∀ fs : List (Event Fx), (∀ e ∈ fs, e.op.call = .now) →
          sightings (es ++ fs) = sightings es := by
        intro fs hfs
        rw [sightings_append, sightings_eq_nil fun e he => sighting_now (hfs e he), List.append_nil]
      refine (((only_anchorDeadline deps.timeout).meets_history fun fs hfs => ?_).bind
        fun es' deadline h => ?_).bind fun _ _ h => h
      · rw [hquiet fs hfs]
        exact ⟨hsettled.underway, hopen.now hfs⟩
      · obtain ⟨-, fs, rfl, hfs⟩ := h
        refine ⟨by rw [hquiet fs hfs]; exact hsettled, hopen.now hfs, ?_⟩
        rintro _ ⟨rfl⟩
        rw [List.filterMap_append]
        exact List.mem_append_left _ (hissued client rfl)
  · obtain ⟨hsettled, hopen, hissued⟩ := h
    cases r with
    | error err => exact ⟨hsettled, hopen, fun _ h => nomatch h⟩
    | ok backend =>
      refine ⟨hsettled, hopen, ?_⟩
      rintro _ ⟨rfl⟩
      exact hissued backend rfl

/-- Every partial run of a connect keeps to the breaker's protocol, and a complete one
has settled it. -/
theorem connectResource_guarded (config : DbConfig) (deps : DbDeps) {es : List (Event Fx)}
    {q : Fab (Except EgressError DbBackend)}
    (hs : Prog.Steps (DbBackend.connectResource config deps) es q) :
    Underway (breakerTarget config) deps.breaker (sightings es) ∧
      ∀ r, q = .ret r → Settled (breakerTarget config) deps.breaker r.isOk (sightings es) := by
  obtain ⟨⟨hunder, -⟩, hmeets⟩ :=
    (connectResource_history config deps).run_history ⟨.inl rfl, .nil⟩ hs
  refine ⟨hunder, ?_⟩
  rintro r rfl
  exact hmeets.1

end Db

/-- Connecting opens at most once and stays on what it was issued, and so does the
backend it leaves. -/
structure Issues {Backend : Type} (handle : Backend → Handle)
    (connect : Fab (Except EgressError Backend)) : Prop where
  opening : ∀ es q, Prog.Steps connect es q → Opening es
  issued : ∀ es backend, Prog.Steps connect es (.ret (.ok backend)) →
    handle backend ∈ es.filterMap issued

/-- To show it, follow the history of a run. -/
theorem issues_of_history {Backend : Type} {handle : Backend → Handle}
    {connect : Fab (Except EgressError Backend)}
    (h : connect.Meets (Prog.history Opening)
      (fun es r => ∀ backend, r = .ok backend → handle backend ∈ es.filterMap issued) []) :
    Issues handle connect where
  opening _ _ hs := (h.run_history .nil hs).1
  issued _ backend hs := (h.run_history .nil hs).2 backend rfl

namespace Db

theorem connectResource_issues (config : DbConfig) (deps : DbDeps) :
    Issues (fun backend : DbBackend => .db backend.client)
      (DbBackend.connectResource config deps) where
  opening _ _ hs := ((connectResource_history config deps).run_history ⟨.inl rfl, .nil⟩ hs).1.2
  issued _ backend hs :=
    ((connectResource_history config deps).run_history ⟨.inl rfl, .nil⟩ hs).2.2.2 backend rfl

end Db

/-! ## `mongo` -/

namespace Mongo

open Mongodb

def Connects (config : MongoConfig) (call : Call) : Prop := call = .mongo (.build (buildUri config))

theorem connectResource_lockstep (config : MongoConfig) (timeout timeout' : Duration) :
    Lockstep (untimed (Connects config))
      (fun r r' => r.map MongoBackend.timeless = r'.map MongoBackend.timeless)
      (MongoBackend.connectResource config timeout)
      (MongoBackend.connectResource config timeout') := by
  refine .both ⟨rfl, rfl⟩ fun built => ?_
  cases built with
  | error err => exact .ret rfl
  | ok client => exact lockstep_anchor fun t t' => .ret rfl

theorem connectResource_issues (config : MongoConfig) (timeout : Duration) :
    Issues (fun backend : MongoBackend => .mongo backend.client)
      (MongoBackend.connectResource config timeout) := by
  refine issues_of_history fun built => ?_
  have hbuilt : Opening [⟨⟨.mongo (.build (buildUri config)), none⟩, built⟩] :=
    Opening.nil.first rfl rfl
  refine ⟨hbuilt, ?_⟩
  cases built with
  | error err => exact fun _ h => nomatch h
  | ok client =>
    refine ((only_anchorDeadline timeout).meets_history fun _ hfs => hbuilt.now hfs).bind
      fun es deadline h => ?_
    obtain ⟨-, fs, rfl, -⟩ := h
    rintro _ ⟨rfl⟩
    rw [List.filterMap_append]
    exact List.mem_append_left _ (List.mem_singleton_self _)

end Mongo

/-! ## `mail` -/

namespace Mail

open Smtp

def Connects (config : MailConfig) (call : Call) : Prop :=
  call = .mail (.relay config.tls config.host) ∨
    call = .mail (.buildTransport (transportSettings config))

private theorem relay_only (config : MailConfig) :
    OnlyE (On fun call => call = .mail (.relay config.tls config.host)) (relay config) := by
  unfold relay
  split
  · exact OnlyE.pure _
  · exact only_ask rfl

theorem connectResource_only (config : MailConfig) :
    Prog.Only (On (Connects config)) (MailBackend.connectResource config) := by
  have hrelay : OnlyE (On (Connects config)) (relay config) :=
    (relay_only config).mono fun _ h => .inl h
  refine Prog.Only.bind (hrelay.bind fun _ => ?_) fun built => ?_
  · exact Prog.Only.bind (only_ask (.inr rfl)) fun _ => Prog.Only.pure _
  · cases built with
    | error err => exact Prog.Only.pure _
    | ok transport => exact Prog.Only.pure _

theorem connectResource_issues (config : MailConfig) :
    Issues (fun backend : MailBackend => .mail backend.transport)
      (MailBackend.connectResource config) := by
  refine issues_of_history (Prog.Meets.bind (Q := fun es r => ∀ transport, r = .ok transport →
    Handle.mail transport ∈ es.filterMap issued) ?_ fun es r h => ?_)
  · have hquiet (es : List (Event Fx))
        (h : ∀ e ∈ es, e.op.call = .mail (.relay config.tls config.host)) :
        Opening ([] ++ es) ∧ es.countP (fun e => Call.opens e.op.call) = 0 := by
      have hopens : ∀ e ∈ es, Call.opens e.op.call = false ∧
          ∀ handle, e.op.call.handle = some handle → handle ∈ [].filterMap issued := by
        intro e he
        rw [h e he]
        exact ⟨rfl, fun handle hhandle => absurd hhandle.symm (Option.some_ne_none handle)⟩
      exact ⟨Opening.nil.keep hopens, List.countP_eq_zero.mpr fun e he => by simp [(hopens e he).1]⟩
    refine ((relay_only config).meets_history fun es h => (hquiet es h).1).bind fun es r h => ?_
    obtain ⟨-, es, rfl, hes⟩ := h
    obtain ⟨hopen, hnone⟩ := hquiet es hes
    cases r with
    | error err => rintro _ ⟨⟩
    | ok _ =>
      intro transport
      refine ⟨hopen.first hnone rfl, ?_⟩
      rintro _ ⟨rfl⟩
      simp only [Prog.history, List.filterMap_append]
      exact List.mem_append_right _ (List.mem_singleton_self _)
  · cases r with
    | error err => rintro _ ⟨⟩
    | ok transport =>
      rintro _ ⟨rfl⟩
      exact h transport rfl

end Mail

/-! ## `redis` -/

namespace Kv

open Redis

def Connects (config : RedisConfig) : Call → Prop
  | .redis (.openUrl url) | .redis (.getConnection url) => url = config.url
  | .redis (.setReadTimeout _ ms) | .redis (.setWriteTimeout _ ms) => ms = config.timeoutMs
  | _ => False

theorem connect_only (config : RedisConfig) : OnlyE (On (Connects config)) (connect config) := by
  have hopen : Connects config (.redis (.openUrl config.url)) := rfl
  have hget : Connects config (.redis (.getConnection config.url)) := rfl
  have hread (conn : ConnId) : Connects config (.redis (.setReadTimeout conn config.timeoutMs)) :=
    rfl
  have hwrite (conn : ConnId) : Connects config (.redis (.setWriteTimeout conn config.timeoutMs)) :=
    rfl
  refine OnlyE.bind (only_ask hopen) fun _ => ?_
  refine OnlyE.bind (only_ask hget) fun conn => ?_
  refine OnlyE.bind (only_ask (hread conn)) fun _ => ?_
  refine OnlyE.bind (only_ask (hwrite conn)) fun _ => ?_
  exact OnlyE.pure _

theorem connectResource_only (config : RedisConfig) :
    Prog.Only (On (Connects config)) (RedisBackend.connectResource config) := by
  refine Prog.Only.bind (connect_only config) fun result => ?_
  cases result with
  | ok conn => exact Prog.Only.pure _
  | error err => exact Prog.Only.pure _

theorem connectResource_issues (config : RedisConfig) :
    Issues (fun backend : RedisBackend => .redis backend.conn)
      (RedisBackend.connectResource config) := by
  refine issues_of_history (Prog.Meets.bind (Q := fun es r => ∀ conn, r = .ok conn →
    Handle.redis conn ∈ es.filterMap issued) ?_ fun es r h => ?_)
  · intro opened
    have hopened : Opening [⟨⟨.redis (.openUrl config.url), none⟩, opened⟩] :=
      Opening.nil.snoc rfl rfl
    refine ⟨hopened, ?_⟩
    cases opened with
    | error err => exact fun _ h => nomatch h
    | ok done =>
      intro got
      have hgot : Opening [⟨⟨.redis (.openUrl config.url), none⟩, .ok done⟩,
          ⟨⟨.redis (.getConnection config.url), none⟩, got⟩] := hopened.first rfl rfl
      refine ⟨hgot, ?_⟩
      cases got with
      | error err => exact fun _ h => nomatch h
      | ok conn =>
        intro read
        have hread : Opening [⟨⟨.redis (.openUrl config.url), none⟩, .ok done⟩,
            ⟨⟨.redis (.getConnection config.url), none⟩, .ok conn⟩,
            ⟨⟨.redis (.setReadTimeout conn config.timeoutMs), none⟩, read⟩] :=
          hgot.use (List.mem_singleton_self (Handle.redis conn)) rfl rfl
        refine ⟨hread, ?_⟩
        cases read with
        | error err => exact fun _ h => nomatch h
        | ok _ =>
          intro write
          refine ⟨hread.use (List.mem_singleton_self (Handle.redis conn)) rfl rfl, ?_⟩
          cases write with
          | error err => exact fun _ h => nomatch h
          | ok _ =>
            rintro _ ⟨rfl⟩
            exact List.mem_singleton_self _
  · cases r with
    | error err => exact fun _ h => nomatch h
    | ok conn =>
      rintro _ ⟨rfl⟩
      exact h conn rfl

end Kv

/-! ## `auth` -/

namespace Auth

open Http

def Connects (config : AuthConfig) (call : Call) : Prop :=
  call = .auth (.buildClient config.timeoutMs)

theorem connectResource_only (lib : Lib) (config : AuthConfig) :
    Prog.Only (On (Connects config)) (AuthBackend.connectResource lib config) := by
  refine Prog.Only.bind (only_ask rfl) fun built => ?_
  cases built with
  | error err => exact Prog.Only.pure _
  | ok client => exact Prog.Only.pure _

theorem connectResource_issues (lib : Lib) (config : AuthConfig) :
    Issues (fun backend : AuthBackend => .auth backend.state.client)
      (AuthBackend.connectResource lib config) := by
  refine issues_of_history fun built => ⟨Opening.nil.first rfl rfl, ?_⟩
  cases built with
  | error err => exact fun _ h => nomatch h
  | ok client =>
    rintro _ ⟨rfl⟩
    exact List.mem_singleton_self _

end Auth

end Fabricd
