import Fabricd.Backends.Db
import Fabricd.Backends.Mongo
import Fabricd.Backends.Kv
import Fabricd.Backends.Mail
import Fabricd.Backends.Amq
import Fabricd.Backends.Auth

/-!
# What the clockless backends ask for

Every request of a `redis`, `mail` or `auth` action is on the handle of its backend, every
request of an `amq` action follows the operator's config, and no action reads the clock
between its first request and its last. So each call runs in lockstep with itself.
-/

namespace Fabricd

open Framework

/-! ## Handles -/

/-- What a driver keeps for a backend between its requests. -/
inductive Handle where
  | db (client : Postgres.ClientId)
  | mongo (client : Mongodb.ClientId)
  | mail (transport : Smtp.TransportId)
  | redis (conn : Redis.ConnId)
  | auth (client : Http.ClientId)
  deriving DecidableEq

/-- The handle a request is on. -/
def Call.handle : Call → Option Handle
  | .db op => op.client.map .db
  | .mongo op => op.client.map .mongo
  | .mail op => op.transport.map .mail
  | .redis op => op.conn.map .redis
  | .auth op => op.client.map .auth
  | _ => none

/-- The requests made to connect or build a backend. -/
def Call.attempt : Call → Bool
  | .breakerAllow _ | .breakerRecord _ _ => true
  | .db (.connect _) | .db (.batchExecute _ _) => true
  | .mongo (.build _) => true
  | .mail (.relay _ _) | .mail (.buildTransport _) => true
  | .redis (.openUrl _) | .redis (.getConnection _) => true
  | .redis (.setReadTimeout _ _) | .redis (.setWriteTimeout _ _) => true
  | .auth (.buildClient _) => true
  | _ => false

/-- A request that uses a backend on its handle. -/
def OnHandle (handle : Handle) (call : Call) : Prop :=
  call.handle = some handle ∧ call.attempt = false

/-! ## `redis` -/

namespace Kv

open Redis

variable (lib : Lib) (conn : ConnId) (payloadJson : String)

private theorem lockConn_only : OnlyE (On (OnHandle (.redis conn))) (lockConn conn) :=
  only_orFail (only_ask ⟨rfl, rfl⟩)

private theorem doGet_only : OnlyE (On (OnHandle (.redis conn))) (doGet lib conn payloadJson) := by
  refine (only_ofExcept _).bind fun payload => ?_
  refine (lockConn_only conn).bind fun _ => ?_
  refine (only_orFail (only_ask ⟨rfl, rfl⟩)).bind fun value => ?_
  exact only_ofExcept _

private theorem doSet_only : OnlyE (On (OnHandle (.redis conn))) (doSet lib conn payloadJson) := by
  refine (only_ofExcept _).bind fun payload => ?_
  refine (lockConn_only conn).bind fun _ => ?_
  cases payload.ttl with
  | some ttl =>
    refine (only_orFail (only_ask ⟨rfl, rfl⟩)).bind fun _ => ?_
    exact only_ofExcept _
  | none =>
    refine (only_orFail (only_ask ⟨rfl, rfl⟩)).bind fun _ => ?_
    exact only_ofExcept _

private theorem doDelete_only : OnlyE (On (OnHandle (.redis conn)))
    (doDelete lib conn payloadJson) := by
  refine (only_ofExcept _).bind fun payload => ?_
  refine (lockConn_only conn).bind fun _ => ?_
  refine (only_orFail (only_ask ⟨rfl, rfl⟩)).bind fun count => ?_
  exact only_ofExcept _

private theorem doIncrement_only : OnlyE (On (OnHandle (.redis conn)))
    (doIncrement lib conn payloadJson) := by
  refine (only_ofExcept _).bind fun payload => ?_
  refine (lockConn_only conn).bind fun _ => ?_
  refine (only_orFail (only_ask ⟨rfl, rfl⟩)).bind fun value => ?_
  exact only_ofExcept _

private theorem doExpire_only : OnlyE (On (OnHandle (.redis conn)))
    (doExpire lib conn payloadJson) := by
  refine (only_ofExcept _).bind fun payload => ?_
  refine (lockConn_only conn).bind fun _ => ?_
  refine (only_orFail (only_ask ⟨rfl, rfl⟩)).bind fun set => ?_
  exact only_ofExcept _

private theorem dispatch_only (action : String) :
    OnlyE (On (OnHandle (.redis conn))) (dispatch lib conn action payloadJson) := by
  unfold dispatch
  split
  · exact doGet_only lib conn payloadJson
  · exact doSet_only lib conn payloadJson
  · exact doDelete_only lib conn payloadJson
  · exact doIncrement_only lib conn payloadJson
  · exact doExpire_only lib conn payloadJson
  · exact only_ofExcept _

def RedisBackend.timeless (self : RedisBackend) : RedisBackend :=
  { self with metrics := self.metrics.map fun metric => { metric with durationUs := 0 } }

theorem buildMetric_lockstep {P : Call → Prop} {α β : Type} {Q : α → β → Prop} (action : String)
    (result : Except RedisError String) (start start' : Instant) {f : RedisMetric → Fab α}
    {g : RedisMetric → Fab β}
    (h : ∀ metric d', Lockstep (untimed P) Q (f metric) (g { metric with durationUs := d' })) :
    Lockstep (untimed P) Q (buildMetric lib action result start >>= f)
      (buildMetric lib action result start' >>= g) := by
  unfold buildMetric
  simp only [bind_assoc, pure_bind]
  exact lockstep_elapsed fun d d' => h _ d'

theorem call_lockstep {self self' : RedisBackend} (h : self.timeless = self'.timeless)
    (action : String) :
    Lockstep (untimed (OnHandle (.redis self.conn)))
      (fun r r' => r.1 = r'.1 ∧ r.2.timeless = r'.2.timeless ∧ r.2.conn = self.conn)
      (self.call lib action payloadJson) (self'.call lib action payloadJson) := by
  obtain ⟨conn, metrics⟩ := self
  obtain ⟨conn', metrics'⟩ := self'
  have hconn : conn = conn' := congrArg RedisBackend.conn h
  have hmetrics := congrArg RedisBackend.metrics h
  subst hconn
  refine lockstep_now fun start start' => ?_
  refine (lockstep_only (dispatch_only lib conn payloadJson action)).bind fun result _ heq => ?_
  subst heq
  refine buildMetric_lockstep lib action result start start' fun metric d' => .ret ?_
  refine ⟨rfl, ?_, rfl⟩
  simp_all [RedisBackend.timeless, Collector.record]

end Kv

/-! ## `mail` -/

namespace Mail

open Smtp

variable (lib : Lib) (payloadJson : String)

private theorem doSend_only (ctx : SendCtx) :
    OnlyE (On (OnHandle (.mail ctx.transport))) (doSend lib ctx payloadJson) := by
  refine (only_ofExcept _).bind fun fields => ?_
  simp only
  split
  · exact only_ofExcept _
  split
  · exact only_ofExcept _
  refine (only_ofExcept _).bind fun _ => ?_
  refine (only_ofExcept _).bind fun message => ?_
  refine (only_orFail (only_ask ⟨rfl, rfl⟩)).bind fun response => ?_
  exact OnlyE.pure _

private theorem dispatch_only (ctx : SendCtx) (action : String) :
    OnlyE (On (OnHandle (.mail ctx.transport))) (dispatch lib ctx action payloadJson) := by
  unfold dispatch
  split
  · exact doSend_only lib payloadJson ctx
  · exact only_ofExcept _

def MailBackend.timeless (self : MailBackend) : MailBackend :=
  { self with metrics := self.metrics.map fun metric => { metric with durationUs := 0 } }

theorem buildMetric_lockstep {P : Call → Prop} {α β : Type} {Q : α → β → Prop} (action : String)
    (outcome : Option SendOutcome) (start start' : Instant) {f : MailMetric → Fab α}
    {g : MailMetric → Fab β}
    (h : ∀ metric d', Lockstep (untimed P) Q (f metric) (g { metric with durationUs := d' })) :
    Lockstep (untimed P) Q (buildMetric action outcome start >>= f)
      (buildMetric action outcome start' >>= g) := by
  unfold buildMetric
  simp only [bind_assoc, pure_bind]
  exact lockstep_elapsed fun d d' => h _ d'

/-- The send budget counts records, not time, so it is exhausted on both sides at once. -/
theorem call_lockstep {self self' : MailBackend} (h : self.timeless = self'.timeless)
    (action : String) :
    Lockstep (untimed (OnHandle (.mail self.transport)))
      (fun r r' => r.1 = r'.1 ∧ r.2.timeless = r'.2.timeless ∧ r.2.transport = self.transport)
      (self.call lib action payloadJson) (self'.call lib action payloadJson) := by
  obtain ⟨transport, defaultFrom, maxRecipients, allowedDomains, maxSends, metrics⟩ := self
  obtain ⟨transport', defaultFrom', maxRecipients', allowedDomains', maxSends', metrics'⟩ := self'
  have hmetrics := congrArg MailBackend.metrics h
  have hcount : Collector.opCount metrics = Collector.opCount metrics' := by
    have hlength := congrArg List.length hmetrics
    unfold Collector.opCount
    simpa [MailBackend.timeless] using hlength
  simp only [MailBackend.timeless, MailBackend.mk.injEq] at h
  obtain ⟨rfl, rfl, rfl, rfl, rfl, hmap⟩ := h
  unfold MailBackend.call
  simp only [hcount]
  split
  · exact .ret ⟨rfl, by simp [MailBackend.timeless, hmap], rfl⟩
  · refine lockstep_now fun start start' => ?_
    let ctx : SendCtx := ⟨transport, defaultFrom, maxRecipients, allowedDomains⟩
    refine (lockstep_only (dispatch_only lib payloadJson ctx action)).bind fun result _ heq => ?_
    subst heq
    refine buildMetric_lockstep action _ start start' fun metric d' => .ret ?_
    refine ⟨rfl, ?_, rfl⟩
    simp [MailBackend.timeless, Collector.record, hmap]

end Mail

/-! ## `amq` -/

namespace Amq

open Broker

/-- A request that follows the operator's config: where it connects, with what
credentials, and to which exchange it publishes. -/
def Follows (config : AmqConfig) : Call → Prop
  | .amq (.tlsAdaptor ca host) => ca = config.caCert ∧ host = config.host
  | .amq (.rabbitOpen args) => args = rabbitArgs config
  | .amq (.basicPublish _ exchange _ _) => exchange = config.exchange
  | .amq (.natsConnect args) => args = natsArgs config
  | .amq _ => True
  | _ => False

variable (lib : Lib) (config : AmqConfig) (payloadJson : String)

private theorem publishAll_only (channel : ChannelId) (messages : List AmqMessage) (total : Nat) :
    OnlyE (On (Follows config)) (publishAll channel config.exchange messages total) := by
  induction messages generalizing total with
  | nil => exact OnlyE.pure _
  | cons message messages ih =>
    have hpublish : Follows config (.amq (.basicPublish channel config.exchange message.key
        (utf8Bytes message.payload))) := rfl
    refine (only_orFail (only_ask hpublish)).bind fun _ => ?_
    exact ih _

private theorem natsPublishAll_only (client : ConnId) (messages : List AmqMessage) (total : Nat) :
    OnlyE (On (Follows config)) (natsPublishAll client messages total) := by
  induction messages generalizing total with
  | nil => exact OnlyE.pure _
  | cons message messages ih =>
    refine (only_orFail (only_ask trivial)).bind fun _ => ?_
    exact ih _

private theorem setUpTls_only : OnlyE (On (Follows config)) (setUpTls config) := by
  unfold setUpTls
  split
  · exact only_orFail (only_ask ⟨rfl, rfl⟩)
  · exact OnlyE.pure _

private theorem publishBatch_only (messages : List AmqMessage) :
    OnlyE (On (Follows config)) (publishBatch config messages) := by
  have hopen : Follows config (.amq (.rabbitOpen (rabbitArgs config))) := rfl
  refine (setUpTls_only config).bind fun _ => ?_
  refine (only_orFail (only_ask hopen)).bind fun connection => ?_
  refine (only_orFail (only_ask trivial)).bind fun channel => ?_
  refine (publishAll_only config channel messages 0).bind fun total => ?_
  refine (OnlyE.lift (only_ask trivial)).bind fun _ => ?_
  refine (OnlyE.lift (only_ask trivial)).bind fun _ => ?_
  exact OnlyE.pure _

private theorem natsConnect_only : OnlyE (On (Follows config)) (natsConnect config) :=
  only_orFail (only_ask rfl)

private theorem natsPublish_only (messages : List AmqMessage) :
    OnlyE (On (Follows config)) (natsPublish config messages) := by
  refine (natsConnect_only config).bind fun client => ?_
  refine (natsPublishAll_only config client messages 0).bind fun total => ?_
  refine (only_orFail (only_ask trivial)).bind fun _ => ?_
  exact OnlyE.pure _

private theorem natsRequest_only (subject payload : String) :
    OnlyE (On (Follows config)) (natsRequest lib config subject payload) := by
  refine (natsConnect_only config).bind fun client => ?_
  refine (only_orFail (only_ask trivial)).bind fun reply => ?_
  exact OnlyE.pure _

private theorem doSend_only : OnlyE (On (Follows config)) (doSend lib config payloadJson) := by
  refine (only_ofExcept _).bind fun fields => ?_
  simp only
  split
  · exact only_ofExcept _
  split
  · exact only_ofExcept _
  refine (only_orFail (only_ask trivial)).bind fun _ => ?_
  cases config.backend with
  | rabbitmq =>
    refine (publishBatch_only config _).bind fun bytes => ?_
    exact OnlyE.pure _
  | nats =>
    refine (natsPublish_only config _).bind fun bytes => ?_
    exact OnlyE.pure _

private theorem doRequest_only : OnlyE (On (Follows config))
    (doRequest lib config payloadJson) := by
  unfold doRequest
  split
  · exact only_ofExcept _
  refine (only_ofExcept _).bind fun req => ?_
  refine (only_orFail (only_ask trivial)).bind fun _ => ?_
  refine (natsRequest_only lib config _ _).bind fun reply => ?_
  exact OnlyE.pure _

private theorem dispatch_only (action : String) :
    OnlyE (On (Follows config)) (dispatch lib config action payloadJson) := by
  unfold dispatch
  split
  · exact doSend_only lib config payloadJson
  · exact doRequest_only lib config payloadJson
  · exact only_ofExcept _

def AmqProducer.timeless (self : AmqProducer) : AmqProducer :=
  { self with metrics := self.metrics.map fun metric => { metric with durationUs := 0 } }

theorem buildMetric_lockstep {P : Call → Prop} {α β : Type} {Q : α → β → Prop} (action : String)
    (outcome : Option SendOutcome) (start start' : Instant) {f : AmqMetric → Fab α}
    {g : AmqMetric → Fab β}
    (h : ∀ metric d', Lockstep (untimed P) Q (f metric) (g { metric with durationUs := d' })) :
    Lockstep (untimed P) Q (buildMetric action outcome start >>= f)
      (buildMetric action outcome start' >>= g) := by
  unfold buildMetric
  simp only [bind_assoc, pure_bind]
  exact lockstep_elapsed fun d d' => h _ d'

theorem call_lockstep {self self' : AmqProducer} (h : self.timeless = self'.timeless)
    (action : String) :
    Lockstep (untimed (Follows self.config))
      (fun r r' => r.1 = r'.1 ∧ r.2.timeless = r'.2.timeless ∧ r.2.config = self.config)
      (self.call lib action payloadJson) (self'.call lib action payloadJson) := by
  obtain ⟨config, metrics⟩ := self
  obtain ⟨config', metrics'⟩ := self'
  have hconfig : config = config' := congrArg AmqProducer.config h
  have hmetrics := congrArg AmqProducer.metrics h
  subst hconfig
  refine lockstep_now fun start start' => ?_
  refine (lockstep_only (dispatch_only lib config payloadJson action)).bind fun result _ heq => ?_
  subst heq
  refine buildMetric_lockstep action _ start start' fun metric d' => .ret ?_
  refine ⟨rfl, ?_, rfl⟩
  simp_all [AmqProducer.timeless, Collector.record]

end Amq

/-! ## `auth` -/

namespace Auth

open Http

/-- Programs on a state's client that keep its client and config. -/
def Keeps {α : Type} (state : AuthState) (p : Fab (α × AuthState)) : Prop :=
  p.Sat (On (OnHandle (.auth state.client))) fun r =>
    r.2.client = state.client ∧ r.2.config = state.config

variable (lib : Lib) (state : AuthState) (token : String)

private theorem send_only (client : ClientId) (request : Request) :
    OnlyE (On (OnHandle (.auth client))) (send client request) :=
  (only_ask ⟨rfl, rfl⟩).bind fun answer => by
    cases answer with
    | error err => exact Prog.Only.pure _
    | ok reply =>
      obtain ⟨status, body⟩ := reply
      cases body with
      | ok body => exact Prog.Only.pure _
      | error err => exact Prog.Only.pure _

private theorem fetchDiscovery_only :
    OnlyE (On (OnHandle (.auth state.client))) (state.fetchDiscovery lib) := by
  refine (send_only _ _).bind fun reply => ?_
  obtain ⟨status, body⟩ := reply
  simp only
  split
  · exact only_ofExcept _
  · refine (only_ofExcept _).bind fun doc => ?_
    exact OnlyE.pure _

private theorem discover_keeps : Keeps state (state.discover lib) := by
  unfold AuthState.discover
  split
  · exact ⟨rfl, rfl⟩
  · refine Prog.Sat.bind (fetchDiscovery_only lib state) fun fetched _ => ?_
    cases fetched with
    | ok endpoints => exact ⟨rfl, rfl⟩
    | error err => exact ⟨rfl, rfl⟩

private theorem resolveEndpoint_keeps (override : Option String) (pick : Endpoints → Option String)
    (missing : String) : Keeps state (state.resolveEndpoint lib override pick missing) := by
  unfold AuthState.resolveEndpoint
  split
  · exact ⟨rfl, rfl⟩
  · refine Prog.Sat.bind (discover_keeps lib state) fun r hr => ?_
    obtain ⟨found, state'⟩ := r
    cases found with
    | error err => exact hr
    | ok endpoints =>
      simp only
      split
      · exact hr
      · exact hr

private theorem userInfoAt_only (client : ClientId) (url : String) :
    OnlyE (On (OnHandle (.auth client))) (userInfoAt lib client url token) := by
  refine (send_only _ _).bind fun reply => ?_
  obtain ⟨status, body⟩ := reply
  simp only
  split
  · refine (only_ofExcept _).bind fun claims => ?_
    exact OnlyE.pure _
  split
  · exact OnlyE.pure _
  split
  · exact only_ofExcept _
  · exact only_ofExcept _

private theorem introspectAt_only (url : String) :
    OnlyE (On (OnHandle (.auth state.client))) (introspectAt lib state url token) := by
  refine (send_only _ _).bind fun reply => ?_
  obtain ⟨status, body⟩ := reply
  simp only
  split
  · refine (only_ofExcept _).bind fun claims => ?_
    exact OnlyE.pure _
  split
  · exact only_ofExcept _
  · exact only_ofExcept _

private theorem doUserInfo_keeps : Keeps state (doUserInfo lib state token) := by
  refine Prog.Sat.bind (resolveEndpoint_keeps lib state _ _ _) fun r hr => ?_
  obtain ⟨found, state'⟩ := r
  cases found with
  | error err => exact hr
  | ok url =>
    have hclient : Handle.auth state'.client = Handle.auth state.client := by rw [hr.1]
    have hrequest := userInfoAt_only lib token state'.client url
    rw [hclient] at hrequest
    refine Prog.Sat.bind hrequest fun result _ => ?_
    exact hr

private theorem doIntrospect_keeps : Keeps state (doIntrospect lib state token) := by
  unfold doIntrospect
  split
  · exact ⟨rfl, rfl⟩
  · refine Prog.Sat.bind (resolveEndpoint_keeps lib state _ _ _) fun r hr => ?_
    obtain ⟨found, state'⟩ := r
    cases found with
    | error err => exact hr
    | ok url =>
      have hclient : Handle.auth state'.client = Handle.auth state.client := by rw [hr.1]
      have hrequest := introspectAt_only lib state' token url
      rw [hclient] at hrequest
      refine Prog.Sat.bind hrequest fun result _ => ?_
      exact hr

private theorem dispatch_keeps (action : String) :
    Keeps state (dispatch lib state action token) := by
  unfold dispatch
  split
  · exact doUserInfo_keeps lib state token
  · exact doIntrospect_keeps lib state token
  · exact ⟨rfl, rfl⟩

def AuthBackend.timeless (self : AuthBackend) : AuthBackend :=
  { self with metrics := self.metrics.map fun metric => { metric with durationUs := 0 } }

theorem buildMetric_lockstep {P : Call → Prop} {α β : Type} {Q : α → β → Prop}
    (action host : String) (status : UInt16) (start start' : Instant) {f : AuthMetric → Fab α}
    {g : AuthMetric → Fab β}
    (h : ∀ metric d', Lockstep (untimed P) Q (f metric) (g { metric with durationUs := d' })) :
    Lockstep (untimed P) Q (buildMetric action host status start >>= f)
      (buildMetric action host status start' >>= g) := by
  unfold buildMetric
  simp only [bind_assoc, pure_bind]
  exact lockstep_elapsed fun d d' => h _ d'

theorem call_lockstep {self self' : AuthBackend} (h : self.timeless = self'.timeless)
    (action : String) :
    Lockstep (untimed (OnHandle (.auth self.state.client)))
      (fun r r' => r.1 = r'.1 ∧ r.2.timeless = r'.2.timeless ∧
        r.2.state.client = self.state.client ∧ r.2.state.config = self.state.config)
      (self.call lib action token) (self'.call lib action token) := by
  obtain ⟨state, host, metrics⟩ := self
  obtain ⟨state', host', metrics'⟩ := self'
  have hstate : state = state' := congrArg AuthBackend.state h
  have hhost : host = host' := congrArg AuthBackend.host h
  have hmetrics := congrArg AuthBackend.metrics h
  subst hstate hhost
  refine lockstep_now fun start start' => ?_
  refine (Lockstep.refl_sat (R := untimed (OnHandle (.auth state.client)))
    (dispatch_keeps lib state token action) fun _ hop => ⟨rfl, hop⟩).bind fun r r' hr => ?_
  obtain ⟨rfl, hkept⟩ := hr
  refine buildMetric_lockstep action host _ start start' fun metric d' => .ret ?_
  refine ⟨rfl, ?_, hkept⟩
  simp_all [AuthBackend.timeless, Collector.record]

end Auth

end Fabricd
