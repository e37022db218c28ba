import Fabricd.Sessions
import Fabricd.Tenancy

/-!
# Where a session's credentials come from

A session is acknowledged when every name it selects is bound, for its tenant and in the
kind asked for. From then on each capability connects with the config of its own binding.
-/

namespace Fabricd

open Framework Db Mongo Mail Kv Amq Auth ClientAuth

/-! ## What a session may use -/

/-- The order in which the names of an `Init` are resolved. -/
def Capability.order : List Capability := [.db, .mongo, .mail, .redis, .amq, .auth]

private theorem Capability.mem_order (c : Capability) : c ∈ Capability.order := by
  cases c <;> decide

/-- The name an `Init` selects for a capability. -/
def WireInit.named (init : WireInit) : Capability → Option String
  | .db => init.db
  | .mongo => init.mongo
  | .mail => init.mail
  | .redis => init.redis
  | .amq => init.amq
  | .auth => init.auth

def ResourceBinding.kind : ResourceBinding → Capability
  | db _ => .db
  | mongo _ => .mongo
  | mail _ => .mail
  | redis _ => .redis
  | amq _ => .amq
  | auth _ => .auth

private theorem asDb_isSome (b : ResourceBinding) : b.asDb.isSome ↔ b.kind = .db := by
  cases b <;> simp [ResourceBinding.asDb, ResourceBinding.kind]

private theorem asMongo_isSome (b : ResourceBinding) : b.asMongo.isSome ↔ b.kind = .mongo := by
  cases b <;> simp [ResourceBinding.asMongo, ResourceBinding.kind]

private theorem asMail_isSome (b : ResourceBinding) : b.asMail.isSome ↔ b.kind = .mail := by
  cases b <;> simp [ResourceBinding.asMail, ResourceBinding.kind]

private theorem asRedis_isSome (b : ResourceBinding) : b.asRedis.isSome ↔ b.kind = .redis := by
  cases b <;> simp [ResourceBinding.asRedis, ResourceBinding.kind]

private theorem asAmq_isSome (b : ResourceBinding) : b.asAmq.isSome ↔ b.kind = .amq := by
  cases b <;> simp [ResourceBinding.asAmq, ResourceBinding.kind]

private theorem asAuth_isSome (b : ResourceBinding) : b.asAuth.isSome ↔ b.kind = .auth := by
  cases b <;> simp [ResourceBinding.asAuth, ResourceBinding.kind]

/-- If the `Init` names the capability, the name is bound for its tenant in that kind. -/
def Granted (table : Table) (init : WireInit) (c : Capability) : Prop :=
  ∀ name, init.named c = some name →
    ∃ binding, table name = some ⟨init.tenant, binding⟩ ∧ binding.kind = c

/-- The error of the first capability, in order, that is not granted. -/
def FirstFailure (table : Table) (init : WireInit) (err : ResolveError) : Prop :=
  ∃ before c after name, Capability.order = before ++ c :: after ∧
    (∀ c' ∈ before, Granted table init c') ∧ init.named c = some name ∧
    ((err = .notFound name ∧ ∀ binding, table name ≠ some ⟨init.tenant, binding⟩) ∨
      (err = .kindMismatch name c.name ∧
        ∃ binding, table name = some ⟨init.tenant, binding⟩ ∧ binding.kind ≠ c))

def failure (table : Table) (init : WireInit) (c : Capability) : Option ResolveError :=
  match init.named c with
  | none => none
  | some name =>
    match visible table init.tenant name with
    | none => some (.notFound name)
    | some binding => if binding.kind = c then none else some (.kindMismatch name c.name)

private theorem failure_eq_none {table : Table} {init : WireInit} {c : Capability} :
    failure table init c = none ↔ Granted table init c := by
  unfold failure Granted
  cases hname : init.named c with
  | none => simp
  | some name =>
    dsimp only
    cases hbinding : visible table init.tenant name with
    | none =>
      simp only [reduceCtorEq, Option.some.injEq, forall_eq', false_iff, not_exists, not_and]
      intro binding hbound
      rw [← visible_eq_some, hbinding] at hbound
      cases hbound
    | some binding =>
      have hbound := visible_eq_some.mp hbinding
      simp [hbound]

private theorem failure_eq_some {table : Table} {init : WireInit} {c : Capability}
    {err : ResolveError}
    (h : failure table init c = some err) : ∃ name, init.named c = some name ∧
      ((err = .notFound name ∧ ∀ binding, table name ≠ some ⟨init.tenant, binding⟩) ∨
        (err = .kindMismatch name c.name ∧
          ∃ binding, table name = some ⟨init.tenant, binding⟩ ∧ binding.kind ≠ c)) := by
  unfold failure at h
  cases hname : init.named c with
  | none => simp [hname] at h
  | some name =>
    refine ⟨name, rfl, ?_⟩
    cases hbinding : visible table init.tenant name with
    | none =>
      simp only [hname, hbinding, Option.some.injEq] at h
      refine .inl ⟨h.symm, fun binding hbound => ?_⟩
      rw [← visible_eq_some, hbinding] at hbound
      cases hbound
    | some binding =>
      by_cases hkind : binding.kind = c
      · simp [hname, hbinding, hkind] at h
      · simp only [hname, hbinding, hkind, if_false, Option.some.injEq] at h
        exact .inr ⟨h.symm, binding, visible_eq_some.mp hbinding, hkind⟩

/-- The config a capability's name is bound to. -/
def boundConfig {α : Type} (table : Table) (init : WireInit) (c : Capability)
    (extract : ResourceBinding → Option α) : Option α :=
  (init.named c).bind fun name => (visible table init.tenant name).bind extract

private theorem pick_eq {α : Type} (table : Table) (init : WireInit) (c : Capability)
    (extract : ResourceBinding → Option α) (hextract : ∀ b, (extract b).isSome ↔ b.kind = c) :
    pick table init.tenant (init.named c) c.name extract =
      match failure table init c with
      | some err => .error err
      | none => .ok (boundConfig table init c extract) := by
  unfold failure boundConfig
  cases hname : init.named c with
  | none => rfl
  | some name =>
    rw [pick_some]
    dsimp only [Option.bind_some]
    cases hbinding : visible table init.tenant name with
    | none => rfl
    | some binding =>
      have hkind := hextract binding
      cases hconfig : extract binding with
      | none =>
        rw [hconfig] at hkind
        have hother : binding.kind ≠ c := fun h => nomatch hkind.mpr h
        simp [hother, hconfig]
      | some config =>
        rw [hconfig] at hkind
        simp [hkind.mp rfl, hconfig]

/-- The configs of a session that has all it asked for. -/
def boundConfigs (table : Table) (init : WireInit) : ResolvedConfigs where
  db := boundConfig table init .db ResourceBinding.asDb
  mongo := boundConfig table init .mongo ResourceBinding.asMongo
  mail := boundConfig table init .mail ResourceBinding.asMail
  redis := boundConfig table init .redis ResourceBinding.asRedis
  amq := boundConfig table init .amq ResourceBinding.asAmq
  auth := boundConfig table init .auth ResourceBinding.asAuth

/-- `resolve` stops at the first failure, or finds every binding. -/
theorem resolve_eq (table : Table) (init : WireInit) :
    resolve table init =
      match Capability.order.findSome? (failure table init) with
      | some err => .error err
      | none => .ok (boundConfigs table init) := by
  have hdb := pick_eq table init .db ResourceBinding.asDb asDb_isSome
  have hmongo := pick_eq table init .mongo ResourceBinding.asMongo asMongo_isSome
  have hmail := pick_eq table init .mail ResourceBinding.asMail asMail_isSome
  have hredis := pick_eq table init .redis ResourceBinding.asRedis asRedis_isSome
  have hamq := pick_eq table init .amq ResourceBinding.asAmq asAmq_isSome
  have hauth := pick_eq table init .auth ResourceBinding.asAuth asAuth_isSome
  simp only [WireInit.named, Capability.name] at hdb hmongo hmail hredis hamq hauth
  unfold resolve
  simp only [hdb, hmongo, hmail, hredis, hamq, hauth]
  simp only [Capability.order, List.findSome?_cons, List.findSome?_nil]
  cases failure table init .db with
  | some err => rfl
  | none =>
  cases failure table init .mongo with
  | some err => rfl
  | none =>
  cases failure table init .mail with
  | some err => rfl
  | none =>
  cases failure table init .redis with
  | some err => rfl
  | none =>
  cases failure table init .amq with
  | some err => rfl
  | none =>
  cases failure table init .auth with
  | some err => rfl
  | none => rfl

private theorem resolve_granted {table : Table} {init : WireInit} (h : ∀ c, Granted table init c) :
    resolve table init = .ok (boundConfigs table init) := by
  have hnone : Capability.order.findSome? (failure table init) = none :=
    List.findSome?_eq_none_iff.mpr fun c _ => failure_eq_none.mpr (h c)
  rw [resolve_eq, hnone]

private theorem resolve_refused {table : Table} {init : WireInit}
    (h : ¬ ∀ c, Granted table init c) :
    ∃ err, resolve table init = .error err ∧ FirstFailure table init err := by
  rw [resolve_eq]
  cases hfirst : Capability.order.findSome? (failure table init) with
  | none =>
    refine absurd (fun c => ?_) h
    exact failure_eq_none.mp (List.findSome?_eq_none_iff.mp hfirst c c.mem_order)
  | some err =>
    obtain ⟨before, c, after, horder, hc, hbefore⟩ := List.findSome?_eq_some_iff.mp hfirst
    obtain ⟨name, hname, herr⟩ := failure_eq_some hc
    exact ⟨err, rfl, before, c, after, name, horder,
      fun c' hc' => failure_eq_none.mp (hbefore c' hc'), hname, herr⟩

/-! ## What a session uses -/

def wrote : Event Fx → Option WireResponse
  | ⟨⟨.writeFrame response, _⟩, _⟩ => some response
  | _ => none

def responses (log : List (Event Fx)) : List WireResponse := log.filterMap wrote

/-- A binding under the daemon's statement-timeout ceiling. -/
def ResourceBinding.clamped (ceilingMs : UInt64) : ResourceBinding → ResourceBinding
  | db config => db { config with
      statementTimeoutMs := clampTimeout ceilingMs config.statementTimeoutMs }
  | binding => binding

/-- The requests that connect with a binding's config, in all its fields; a broker is
connected anew by every call. -/
def ResourceBinding.Connects : ResourceBinding → Call → Prop
  | db config => Db.Connects config
  | mongo config => Mongo.Connects config
  | mail config => Mail.Connects config
  | redis config => Kv.Connects config
  | amq config => Amq.Follows config
  | auth config => Auth.Connects config

/-- An event that connects or builds does so with the session's own binding. -/
def FromBinding (shared : Shared) (init : WireInit) (e : Event Fx) : Prop :=
  ∀ c, e.op.call.capability = some c → e.op.call.attempt = true ∨ c = .amq →
    ∃ name binding, init.named c = some name ∧
      shared.table name = some ⟨init.tenant, binding⟩ ∧ binding.kind = c ∧
      (binding.clamped shared.maxStatementTimeoutMs).Connects e.op.call

/-- A capability that only ever answers that it is not configured. -/
def Silent (c : Capability) (log : List (Event Fx)) : Prop :=
  (∀ e ∈ log, e.op.call.capability ≠ some c) ∧
    ∀ visit ∈ visitsOf c log, visit.work = [] ∧ visit.Answers (.error (notConfigured c.name))

/-- The backends a session's bindings make, each slot with its binding's config. -/
def boundSet (shared : Shared) (init : WireInit) : BackendSet :=
  let deps : AsyncDeps := { breaker := shared.breaker, timeout := fromMillis init.timeoutMs }
  let clamped (config : DbConfig) : DbConfig :=
    { config with
      statementTimeoutMs := clampTimeout shared.maxStatementTimeoutMs config.statementTimeoutMs }
  { db := (boundConfig shared.table init .db ResourceBinding.asDb).map fun config =>
      .new (clamped config) deps
    mongo := (boundConfig shared.table init .mongo ResourceBinding.asMongo).map (.new · deps)
    mail := (boundConfig shared.table init .mail ResourceBinding.asMail).map (.new · ())
    redis := (boundConfig shared.table init .redis ResourceBinding.asRedis).map (.new · ())
    auth := (boundConfig shared.table init .auth ResourceBinding.asAuth).map (.new · ())
    amq := (boundConfig shared.table init .amq ResourceBinding.asAmq).map AmqProducer.new }

private theorem wired_granted {shared : Shared} {authenticator : Authenticator} {init : WireInit}
    (hauth : authenticator.authenticate init.token = .ok ())
    (h : ∀ c, Granted shared.table init c) (input : Input) :
    wired shared authenticator (.ok (.init init) :: input) = boundSet shared init := by
  rw [wired_acked shared authenticator hauth (resolve_granted h), fromConfigs_eq]
  unfold ResolvedConfigs.clampDbStatementTimeout boundConfigs boundSet
  simp only [Option.map_map]
  rfl

private theorem boundConfig_eq_some {α : Type} {table : Table} {init : WireInit} {c : Capability}
    {extract : ResourceBinding → Option α} {config : α}
    (h : boundConfig table init c extract = some config) : ∃ name binding,
      init.named c = some name ∧ table name = some ⟨init.tenant, binding⟩ ∧
      extract binding = some config := by
  obtain ⟨name, hname, hbound⟩ := Option.bind_eq_some_iff.mp h
  obtain ⟨binding, hvisible, hconfig⟩ := Option.bind_eq_some_iff.mp hbound
  exact ⟨name, binding, hname, visible_eq_some.mp hvisible, hconfig⟩

section

variable {lib : Lib} {shared : Shared} {init : WireInit} {log : List (Event Fx)}

private theorem Lane.Orderly.fromBinding {Config Deps Backend : Type}
    {lane : Lane Config Deps Backend}
    {extract : ResourceBinding → Option Config} {f : Config → Config} {deps : Deps}
    {visits : List Visit}
    (h : lane.Orderly ((boundConfig shared.table init lane.capability extract).map fun config =>
      .new (f config) deps) log visits)
    (hbinding : ∀ {binding config}, extract binding = some config →
      binding.kind = lane.capability ∧
        (binding.clamped shared.maxStatementTimeoutMs).Connects = lane.Connects (f config))
    {e : Event Fx} (he : e ∈ log) (hmine : e.op.call.capability = some lane.capability)
    (hattempt : e.op.call.attempt = true) :
    ∃ name binding, init.named lane.capability = some name ∧
      shared.table name = some ⟨init.tenant, binding⟩ ∧ binding.kind = lane.capability ∧
      (binding.clamped shared.maxStatementTimeoutMs).Connects e.op.call := by
  obtain ⟨s, hs, hconnects⟩ := h.connects he hmine hattempt
  obtain ⟨config, hconfig, rfl⟩ := Option.map_eq_some_iff.mp hs
  obtain ⟨name, binding, hname, hbound, hextract⟩ := boundConfig_eq_some hconfig
  obtain ⟨hkind, hsame⟩ := hbinding hextract
  exact ⟨name, binding, hname, hbound, hkind, hsame ▸ hconnects⟩

private theorem SessionLanes.fromBinding (h : SessionLanes lib (boundSet shared init) log)
    {e : Event Fx}
    (he : e ∈ log) : FromBinding shared init e := by
  intro c hc hattempt
  cases c with
  | amq =>
    have hamq := h.amq
    unfold boundSet at hamq
    simp only at hamq
    cases hbound : boundConfig shared.table init .amq ResourceBinding.asAmq with
    | none =>
      rw [hbound] at hamq
      exact absurd hc (hamq.1 e he)
    | some config =>
      rw [hbound] at hamq
      obtain ⟨name, binding, hname, hentry, hconfig⟩ := boundConfig_eq_some hbound
      refine ⟨name, binding, hname, hentry, ?_⟩
      cases binding with
      | amq config' =>
        cases hconfig
        exact ⟨rfl, hamq e he hc⟩
      | _ => cases hconfig
  | db =>
    refine h.db.fromBinding (fun {binding config} hextract => ?_) he hc (by simpa using hattempt)
    cases binding with
    | db config' =>
      cases hextract
      exact ⟨rfl, rfl⟩
    | _ => cases hextract
  | mongo =>
    refine Lane.Orderly.fromBinding (f := id) h.mongo (fun {binding config} hextract => ?_) he hc
      (by simpa using hattempt)
    cases binding with
    | mongo config' =>
      cases hextract
      exact ⟨rfl, rfl⟩
    | _ => cases hextract
  | mail =>
    refine Lane.Orderly.fromBinding (f := id) h.mail (fun {binding config} hextract => ?_) he hc
      (by simpa using hattempt)
    cases binding with
    | mail config' =>
      cases hextract
      exact ⟨rfl, rfl⟩
    | _ => cases hextract
  | redis =>
    refine Lane.Orderly.fromBinding (f := id) h.redis (fun {binding config} hextract => ?_) he hc
      (by simpa using hattempt)
    cases binding with
    | redis config' =>
      cases hextract
      exact ⟨rfl, rfl⟩
    | _ => cases hextract
  | auth =>
    refine Lane.Orderly.fromBinding (f := id) h.auth (fun {binding config} hextract => ?_) he hc
      (by simpa using hattempt)
    cases binding with
    | auth config' =>
      cases hextract
      exact ⟨rfl, rfl⟩
    | _ => cases hextract

private theorem SessionLanes.silent (h : SessionLanes lib (boundSet shared init) log)
    {c : Capability}
    (hc : init.named c = none) : Silent c log := by
  have hnone {α : Type} (extract : ResourceBinding → Option α) :
      boundConfig shared.table init c extract = none := by
    unfold boundConfig
    rw [hc]
    rfl
  obtain ⟨-, hdb, hmongo, hmail, hredis, hauth, hamq⟩ := h
  unfold boundSet at hdb hmongo hmail hredis hauth hamq
  cases c with
  | db => exact (hnone ResourceBinding.asDb ▸ hdb :)
  | mongo => exact (hnone ResourceBinding.asMongo ▸ hmongo :)
  | mail => exact (hnone ResourceBinding.asMail ▸ hmail :)
  | redis => exact (hnone ResourceBinding.asRedis ▸ hredis :)
  | amq => exact (hnone ResourceBinding.asAmq ▸ hamq :)
  | auth => exact (hnone ResourceBinding.asAuth ▸ hauth :)

end

/-! ## The session -/

section

variable (lib : Lib) (shared : Shared) (authenticator : Authenticator) {init : WireInit}

/-- The answer to an authenticated `Init`. -/
theorem serve_greets (hauth : authenticator.authenticate init.token = .ok ()) (input : Input) :
    ∃ greeting k, (serve lib shared authenticator (.ok (.init init) :: input)).run =
        (.act ⟨.readFrame (some (.ok (.init init))), none⟩ fun _ =>
          .act ⟨.writeFrame greeting, none⟩ k : Fab (Except String Unit)) ∧
      (greeting = .ack ↔ ∀ c, Granted shared.table init c) ∧
      (greeting ≠ .ack → ∃ err, greeting = .initError err.code err.message ∧
        FirstFailure shared.table init err) := by
  rw [serve_authenticated lib shared authenticator hauth]
  by_cases hgranted : ∀ c, Granted shared.table init c
  · rw [serveAuthenticated_acked lib shared (resolve_granted hgranted)]
    exact ⟨_, _, rfl, ⟨fun _ => hgranted, fun _ => rfl⟩, fun h => absurd rfl h⟩
  · obtain ⟨err, hresolve, hfirst⟩ := resolve_refused hgranted
    rw [serveAuthenticated_refused lib shared hresolve]
    refine ⟨_, _, rfl, ⟨fun h => (nomatch h), fun h => absurd h hgranted⟩, fun _ => ?_⟩
    exact ⟨err, rfl, hfirst⟩

private theorem serve_refused_quiet (hauth : authenticator.authenticate init.token = .ok ())
    (h : ¬ ∀ c, Granted shared.table init c) (input : Input) :
    (serve lib shared authenticator (.ok (.init init) :: input)).run.Only
      (On fun call => call.capability = none) := by
  obtain ⟨err, hresolve, -⟩ := resolve_refused h
  rw [serve_authenticated lib shared authenticator hauth,
    serveAuthenticated_refused lib shared hresolve]
  exact ⟨rfl, fun _ => ⟨rfl, fun _ => trivial⟩⟩

end

def cacheServer : Env Fx Unit
  | w, ⟨.writeFrame _, _⟩ | w, ⟨.spawnBlocking _, _⟩ => (.ok (), w)
  | w, ⟨.redis (.getConnection _), _⟩ => (.ok 7, w)
  | w, ⟨.redis (.openUrl _), _⟩ | w, ⟨.redis (.setReadTimeout _ _), _⟩
  | w, ⟨.redis (.setWriteTimeout _ _), _⟩ | w, ⟨.redis (.lock _), _⟩ => (.ok (), w)
  | w, ⟨.redis (.get _ _), _⟩ => (.ok (some "ann"), w)
  | w, ⟨call, _⟩ => ((default : call.Ans), w)

def cacheLib : Lib := { Lib.writing with keyPayload := fun _ => .ok ⟨some "name"⟩ }

/-- A cache of the tenant `acme`, and one of no tenant. -/
def cacheShared : Shared where
  table name :=
    if name = "cache" then some ⟨some "acme", .redis ⟨"redis://cache", 1000⟩⟩
    else if name = "spare" then some ⟨none, .redis ⟨"redis://spare", 1000⟩⟩
    else none
  maxStatementTimeoutMs := 0
  breaker := false

def cacheInit : WireInit := { WireInit.empty with tenant := some "acme", redis := some "cache" }

def cacheSession : Outcome Fx Unit (Except String Unit) :=
  Prog.run cacheServer () (serve cacheLib cacheShared .none
    [.ok (.init cacheInit), .ok (.call ⟨"redis", "get", "\x7b\x7d"⟩),
      .ok (.call ⟨"db", "query", "\x7b\x7d"⟩)]).run

end Fabricd
