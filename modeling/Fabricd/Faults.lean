import Fabricd.Records
import Fabricd.Sessions
import Fabricd.Framework.Fallible

/-!
# The errors of a call

Every error a call returns is in a table: which faults each capability has, and which of
them a connect can leave behind.
-/

namespace Fabricd

open Framework

def EgressError.fault (err : EgressError) : Fault := ⟨err.code, err.retryable, err.owner⟩

/-! ## What each backend reports -/

namespace Db

open Postgres

def faults : List Fault :=
  [dbFallback, dbTimeout, dbConnectionFault, ⟨"DB_CONSTRAINT", false, .developer⟩,
   ⟨"DB_QUERY", false, .developer⟩, ⟨"DB_SERIALIZATION", true, .operator⟩,
   ⟨"DB_DEADLOCK", true, .operator⟩, ⟨"DB_CANCELED", true, .operator⟩]

private theorem classify_mem (err : PgError) : classify err ∈ faults := by
  unfold classify
  split
  · decide
  · decide
  · decide
  · decide
  · unfold classifyByClass
    split <;> decide

def Tabled (err : DbError) : Prop := err.fault ∈ faults

private theorem tabled_fallback (message : String) : Tabled (.fallback message) := by
  show dbFallback ∈ faults
  decide

private theorem blockOnDb_fails (call : DbCall) (statement : Statement) :
    Fails Tabled (blockOnDb call statement) := by
  apply Prog.Sat.after
  intro t
  apply Prog.Sat.after
  intro answer
  cases answer with
  | none =>
    apply Fails.throw
    show dbTimeout ∈ faults
    decide
  | some result =>
    cases result with
    | ok value => exact Fails.pure value
    | error driver =>
      apply Fails.throw
      exact classify_mem driver

theorem dispatch_fails (lib : Lib) (call : DbCall) (action query paramsJson : String) (maxRows : Nat) :
    Fails Tabled (dispatch lib call action query paramsJson maxRows) := by
  unfold dispatch
  split
  · apply (fails_mapError _ tabled_fallback).bind
    intro params
    apply (blockOnDb_fails call _).bind
    intro rows
    exact fails_mapError _ fun err => tabled_fallback _
  · apply (fails_mapError _ tabled_fallback).bind
    intro params
    apply (blockOnDb_fails call _).bind
    intro affected
    exact Fails.pure _
  · exact (blockOnDb_fails call _).bind fun _ => Fails.pure _
  · exact (blockOnDb_fails call _).bind fun _ => Fails.pure _
  · exact (blockOnDb_fails call _).bind fun _ => Fails.pure _
  · exact Fails.throw (tabled_fallback _)

end Db

namespace Mongo

open Mongodb

def faults : List Fault := [mongoFallback, mongoConnection, mongoTimeout, mongoWrite, mongoQuery]

private theorem classifyCommand_mem (code : Int32) : classifyCommand code ∈ faults := by
  unfold classifyCommand
  split <;> simp [faults]

private theorem classify_mem (err : DriverError) : classify err ∈ faults := by
  obtain ⟨kind, message⟩ := err
  cases kind with
  | command code => exact classifyCommand_mem code
  | _ => simp [classify, faults]

def Tabled (err : MongoError) : Prop := err.fault ∈ faults

private theorem tabled_query (message : String) : Tabled (.query message) := by
  show mongoQuery ∈ faults
  decide

private theorem await_fails {α : Type} (budget : Duration) (op : Mongodb.Op)
    (h : op.Ans = Option (Except DriverError α)) : Fails Tabled (await budget op h) := by
  apply Prog.Sat.after
  intro answer
  split
  · exact Fails.pure _
  · apply Fails.throw
    exact classify_mem _
  · apply Fails.throw
    show mongoTimeout ∈ faults
    decide

private theorem jsonToDoc_tabled (lib : Lib) (value : Json) (err : MongoError)
    (h : jsonToDoc lib value = .error err) : Tabled err := by
  unfold jsonToDoc at h
  split at h
  · cases h
  · split at h
    · cases h
    · cases h
      exact tabled_query _
    · cases h
      exact tabled_query _

private theorem docsToDocs_tabled (lib : Lib) (value : Json) (err : MongoError)
    (h : docsToDocs lib value = .error err) : Tabled err := by
  unfold docsToDocs at h
  split at h
  · cases h
  · obtain ⟨item, -, hitem⟩ := mapM_eq_error h
    exact jsonToDoc_tabled lib item err hitem
  · cases h
    exact tabled_query _

private theorem optionalDoc_tabled (lib : Lib) (value : Option Json) (err : MongoError)
    (h : optionalDoc lib value = .error err) : Tabled err := by
  cases value with
  | none => cases h
  | some value =>
    simp only [optionalDoc] at h
    cases hdoc : jsonToDoc lib value with
    | error err' =>
      rw [hdoc] at h
      cases h
      exact jsonToDoc_tabled lib value err hdoc
    | ok doc =>
      rw [hdoc] at h
      cases h

private theorem drainCursor_fails (lib : Lib) (budget : Duration) (client : ClientId)
    (cursor : CursorId)
    (maxDocs : Nat) : Fails Tabled (drainCursor lib budget client cursor maxDocs) := by
  have hdrain : ∀ room docs, Fails Tabled (drainDocs lib budget client cursor room docs) := by
    intro room
    induction room with
    | zero =>
      intro docs
      apply (await_fails budget _ rfl).bind
      intro more
      cases more <;> exact Fails.pure _
    | succ room ih =>
      intro docs
      apply (await_fails budget _ rfl).bind
      intro more
      cases more with
      | false => exact Fails.pure _
      | true =>
        refine Fails.bind ?_ fun doc => ih _
        apply Prog.Sat.after
        intro read
        cases read with
        | ok doc => exact Fails.pure doc
        | error driver => exact Fails.throw (classify_mem driver)
  exact (hdrain maxDocs []).bind fun drained => Fails.pure _

private theorem run_fails (lib : Lib) (budget : Duration) (call : MongoCall)
    (collection : Collection)
    (action : String) (payload : MongoPayload) :
    Fails Tabled (run lib budget call collection action payload) := by
  have hdoc : ∀ value, Fails Tabled (ofExcept (jsonToDoc lib value)) :=
    fun value => fails_ofExcept (jsonToDoc_tabled lib value)
  have hdocs : ∀ value, Fails Tabled (ofExcept (docsToDocs lib value)) :=
    fun value => fails_ofExcept (docsToDocs_tabled lib value)
  have hopt : ∀ value, Fails Tabled (ofExcept (optionalDoc lib value)) :=
    fun value => fails_ofExcept (optionalDoc_tabled lib value)
  unfold run
  split
  · -- find
    refine (hdoc _).bind fun filter => (hopt _).bind fun sort => (hopt _).bind fun projection => ?_
    exact (await_fails budget _ rfl).bind fun cursor => drainCursor_fails lib budget _ cursor _
  · exact (hdoc _).bind fun filter => (await_fails budget _ rfl).bind fun found => Fails.pure _
  · exact (hdoc _).bind fun filter => (await_fails budget _ rfl).bind fun count => Fails.pure _
  · -- aggregate
    refine (hdocs _).bind fun pipeline => (await_fails budget _ rfl).bind fun cursor => ?_
    exact drainCursor_fails lib budget _ cursor _
  · exact (hdoc _).bind fun doc => (await_fails budget _ rfl).bind fun id => Fails.pure _
  · -- insert_many
    refine (hdocs _).bind fun docs => ?_
    split
    · exact Fails.throw (tabled_query _)
    · exact (await_fails budget _ rfl).bind fun inserted => Fails.pure _
  · exact (hdoc _).bind fun filter => (hdoc _).bind fun update =>
      (await_fails budget _ rfl).bind fun result => Fails.pure _
  · exact (hdoc _).bind fun filter => (hdoc _).bind fun update =>
      (await_fails budget _ rfl).bind fun result => Fails.pure _
  · exact (hdoc _).bind fun filter => (await_fails budget _ rfl).bind fun deleted => Fails.pure _
  · exact (hdoc _).bind fun filter => (await_fails budget _ rfl).bind fun deleted => Fails.pure _
  · exact Fails.throw (tabled_query _)

theorem dispatch_fails (lib : Lib) (call : MongoCall) (action name payloadJson : String) :
    Fails Tabled (dispatch lib call action name payloadJson) := by
  apply (fails_mapError _ fun err => tabled_query _).bind
  intro fields
  apply (Fails.lift now).bind
  intro t
  exact run_fails lib _ call _ action _

end Mongo

namespace Mail

open Smtp

/-- The faults of a dispatched call. -/
def sendFaults : List Fault :=
  [mailFallback, ⟨"MAIL_TRANSIENT", true, .operator⟩, ⟨"MAIL_PERMANENT", false, .developer⟩]

def faults : List Fault := mailOpLimit :: sendFaults

private theorem classify_mem (err : SmtpError) : classify err ∈ sendFaults := by
  unfold classify
  split
  · decide
  · split <;> decide

def Tabled (err : MailError) : Prop := err.fault ∈ sendFaults

private theorem tabled_fallback (message : String) : Tabled (.fallback message) := by
  show mailFallback ∈ sendFaults
  decide

private theorem tabled_fromDriver (err : SmtpError) : Tabled (.fromDriver err) := classify_mem err

private theorem enforceRecipientDomains_tabled (lib : Lib) (payload : SendPayload)
    (allowed : List String)
    (err : MailError) (h : enforceRecipientDomains lib payload allowed = .error err) : Tabled err := by
  unfold enforceRecipientDomains at h
  split at h
  · cases h
  · obtain ⟨addr, -, haddr⟩ := forM_eq_error h
    cases hread : parseMailbox lib addr "recipient" with
    | error message =>
      rw [hread] at haddr
      cases haddr
      exact tabled_fallback _
    | ok mailbox =>
      rw [hread] at haddr
      by_cases hany : allowed.any fun allow => lib.toLowercase allow == lib.toLowercase mailbox.domain
      · have hpass : (if allowed.any fun allow => lib.toLowercase allow == lib.toLowercase mailbox.domain
            then Except.ok () else Except.error _) = Except.error err := haddr
        rw [if_pos hany] at hpass
        cases hpass
      · have hrefused : (if allowed.any fun allow => lib.toLowercase allow ==
            lib.toLowercase mailbox.domain then Except.ok () else Except.error _) =
              Except.error err := haddr
        rw [if_neg hany] at hrefused
        cases hrefused
        exact tabled_fallback _

private theorem doSend_fails (lib : Lib) (ctx : SendCtx) (payloadJson : String) :
    Fails Tabled (doSend lib ctx payloadJson) := by
  apply (fails_mapError _ fun err => tabled_fallback _).bind
  intro fields
  dsimp only
  split
  · exact Fails.throw (tabled_fallback _)
  · split
    · exact Fails.throw (tabled_fallback _)
    · apply (fails_ofExcept (enforceRecipientDomains_tabled lib _ _)).bind
      intro _
      apply (fails_mapError _ tabled_fallback).bind
      intro message
      apply (fails_orFail _ tabled_fromDriver).bind
      intro response
      exact Fails.pure _

theorem dispatch_fails (lib : Lib) (ctx : SendCtx) (action payloadJson : String) :
    Fails Tabled (dispatch lib ctx action payloadJson) := by
  unfold dispatch
  split
  · exact doSend_fails lib ctx payloadJson
  · exact Fails.throw (tabled_fallback _)

end Mail

namespace Kv

open Redis

def faults : List Fault := [redisFallback, redisTimeout, redisConnectionFault]

private theorem classify_mem (err : RedisErr) : classify err ∈ faults := by
  unfold classify
  split
  · decide
  · split <;> decide

def Tabled (err : RedisError) : Prop := err.fault ∈ faults

private theorem tabled_fallback (message : String) : Tabled (.fallback message) := by
  show redisFallback ∈ faults
  decide

private theorem parse_fails {α : Type} (fields : Except String α) : Fails Tabled (parse fields) :=
  fails_mapError _ fun _ => tabled_fallback _

private theorem lockConn_fails (conn : ConnId) : Fails Tabled (lockConn conn) :=
  fails_orFail _ fun _ => tabled_fallback _

private theorem encode_fails (lib : Lib) (value : Json) : Fails Tabled (encode lib value) :=
  fails_mapError _ fun _ => tabled_fallback _

private theorem driver_fails {α : Type} (p : Fab (Except RedisErr α)) :
    Fails Tabled (orFail RedisError.fromDriver p) :=
  fails_orFail _ fun err => classify_mem err

theorem dispatch_fails (lib : Lib) (conn : ConnId) (action payloadJson : String) :
    Fails Tabled (dispatch lib conn action payloadJson) := by
  unfold dispatch
  split
  · exact (parse_fails _).bind fun _ => (lockConn_fails conn).bind fun _ =>
      (driver_fails _).bind fun _ => encode_fails lib _
  · refine (parse_fails _).bind fun payload => (lockConn_fails conn).bind fun _ => ?_
    dsimp only
    split
    · exact (driver_fails _).bind fun _ => encode_fails lib _
    · exact (driver_fails _).bind fun _ => encode_fails lib _
  · exact (parse_fails _).bind fun _ => (lockConn_fails conn).bind fun _ =>
      (driver_fails _).bind fun _ => encode_fails lib _
  · exact (parse_fails _).bind fun _ => (lockConn_fails conn).bind fun _ =>
      (driver_fails _).bind fun _ => encode_fails lib _
  · exact (parse_fails _).bind fun _ => (lockConn_fails conn).bind fun _ =>
      (driver_fails _).bind fun _ => encode_fails lib _
  · exact Fails.throw (tabled_fallback _)

end Kv

namespace Amq

open Broker

def faults : List Fault := [amqFallback, amqConnection, amqBatch, amqTimeout, amqUnsupported]

def Tabled (err : AmqError) : Prop := err.fault ∈ faults

private theorem tabled_fallback (message : String) : Tabled (.fallback message) := by
  show amqFallback ∈ faults
  decide

private theorem tabled_connection (message : String) : Tabled (.connection message) := by
  show amqConnection ∈ faults
  decide

private theorem natsConnect_fails (config : AmqConfig) : Fails Tabled (natsConnect config) :=
  fails_orFail _ fun _ => tabled_connection _

private theorem publishBatch_fails (config : AmqConfig) (messages : List AmqMessage) :
    Fails Tabled (publishBatch config messages) := by
  have hpublish : ∀ channel totalBytes,
      Fails Tabled (publishAll channel config.exchange messages totalBytes) := by
    intro channel
    induction messages with
    | nil => exact fun totalBytes => Fails.pure _
    | cons message messages ih =>
      intro totalBytes
      exact (fails_orFail _ fun _ => tabled_fallback _).bind fun _ => ih _
  have htls : Fails Tabled (setUpTls config) := by
    unfold setUpTls
    split
    · exact fails_orFail _ fun _ => tabled_connection _
    · exact Fails.pure _
  apply htls.bind
  intro _
  apply (fails_orFail _ fun _ => tabled_connection _).bind
  intro connection
  apply (fails_orFail _ fun _ => tabled_connection _).bind
  intro channel
  apply (hpublish channel 0).bind
  intro totalBytes
  exact (Fails.lift _).bind fun _ => (Fails.lift _).bind fun _ => Fails.pure _

private theorem natsPublish_fails (config : AmqConfig) (messages : List AmqMessage) :
    Fails Tabled (natsPublish config messages) := by
  have hpublish : ∀ client totalBytes,
      Fails Tabled (natsPublishAll client messages totalBytes) := by
    intro client
    induction messages with
    | nil => exact fun totalBytes => Fails.pure _
    | cons message messages ih =>
      intro totalBytes
      exact (fails_orFail _ fun _ => tabled_fallback _).bind fun _ => ih _
  apply (natsConnect_fails config).bind
  intro client
  apply (hpublish client 0).bind
  intro totalBytes
  exact (fails_orFail _ fun _ => tabled_fallback _).bind fun _ => Fails.pure _

private theorem classifyRequestError_mem (lib : Lib) (message : String) :
    classifyRequestError lib message ∈ faults := by
  unfold classifyRequestError
  dsimp only
  split <;> decide

theorem dispatch_fails (lib : Lib) (config : AmqConfig) (action payloadJson : String) :
    Fails Tabled (dispatch lib config action payloadJson) := by
  unfold dispatch
  split
  · apply (fails_mapError _ fun _ => tabled_fallback _).bind
    intro fields
    dsimp only
    split
    · exact Fails.throw (tabled_fallback _)
    · split
      · apply Fails.throw
        show amqBatch ∈ faults
        decide
      · apply (fails_orFail _ fun _ => tabled_fallback _).bind
        intro _
        split
        · exact (publishBatch_fails config _).bind fun bytes => Fails.pure _
        · exact (natsPublish_fails config _).bind fun bytes => Fails.pure _
  · unfold doRequest
    split
    · apply Fails.throw
      show amqUnsupported ∈ faults
      decide
    · apply (fails_mapError _ fun _ => tabled_fallback _).bind
      intro req
      apply (fails_orFail _ fun _ => tabled_fallback _).bind
      intro _
      refine Fails.bind ?_ fun reply => Fails.pure _
      apply (natsConnect_fails config).bind
      intro client
      have hrequest : ∀ err, Tabled ⟨classifyRequestError lib err, s!"nats request failed: {err}"⟩ :=
        fun err => classifyRequestError_mem lib err
      apply (fails_orFail _ hrequest).bind
      intro reply
      exact Fails.pure _
  · exact Fails.throw (tabled_fallback _)

end Amq

namespace Auth

open Http

def faults : List Fault := [authUnavailable, authRequest]

def Tabled (err : AuthError) : Prop := err.fault ∈ faults

private theorem tabled_unavailable {err : AuthError} (h : err.fault = authUnavailable) :
    Tabled err := by
  rw [Tabled, h]
  decide

private theorem tabled_request {err : AuthError} (h : err.fault = authRequest) : Tabled err := by
  rw [Tabled, h]
  decide

private theorem send_fails (client : ClientId) (request : Request) :
    Fails Tabled (send client request) := by
  apply Prog.Sat.after
  intro answer
  rcases answer with err | ⟨status, err | body⟩
  · exact Fails.throw (tabled_unavailable rfl)
  · exact Fails.throw (tabled_unavailable rfl)
  · exact Fails.pure _

private theorem parseClaims_fails (lib : Lib) (body : String) (status : UInt16) :
    Fails Tabled (ofExcept (parseClaims lib body status)) :=
  fails_mapError _ fun _ => tabled_request rfl

private theorem fetchDiscovery_fails (lib : Lib) (state : AuthState) :
    Fails Tabled (state.fetchDiscovery lib) := by
  apply (send_fails _ _).bind
  intro answered
  dsimp only
  split
  · exact Fails.throw (tabled_request rfl)
  · apply (fails_mapError _ fun _ => tabled_request rfl).bind
    intro doc
    exact Fails.pure _

private theorem userInfoAt_fails (lib : Lib) (client : ClientId) (url token : String) :
    Fails Tabled (userInfoAt lib client url token) := by
  apply (send_fails _ _).bind
  intro answered
  dsimp only
  split
  · exact (parseClaims_fails lib _ _).bind fun claims => Fails.pure _
  · split
    · exact Fails.pure _
    · split
      · exact Fails.throw (tabled_unavailable rfl)
      · exact Fails.throw (tabled_request rfl)

private theorem introspectAt_fails (lib : Lib) (state : AuthState) (url token : String) :
    Fails Tabled (introspectAt lib state url token) := by
  apply (send_fails _ _).bind
  intro answered
  dsimp only
  split
  · exact (parseClaims_fails lib _ _).bind fun claims => Fails.pure _
  · split
    · exact Fails.throw (tabled_unavailable rfl)
    · exact Fails.throw (tabled_request rfl)

def Outcomes {α σ : Type} (p : Fab (Except AuthError α × σ)) : Prop :=
  p.Sat (fun _ => True) fun r => ∀ err, r.1 = .error err → Tabled err

private theorem resolveEndpoint_fails (lib : Lib) (state : AuthState) (override : Option String)
    (pick : Endpoints → Option String) (missing : String) :
    Outcomes (state.resolveEndpoint lib override pick missing) := by
  unfold AuthState.resolveEndpoint
  split
  · exact fun err h => by cases h
  · have hdiscover : Outcomes (state.discover lib) := by
      unfold AuthState.discover
      split
      · exact fun err h => by cases h
      · refine Prog.Sat.bind (fetchDiscovery_fails lib state) fun fetched hfetched => ?_
        cases fetched with
        | ok endpoints => exact fun err h => by cases h
        | error err => exact fun err' h => hfetched err' h
    refine Prog.Sat.bind hdiscover fun found hfound => ?_
    obtain ⟨found, state'⟩ := found
    cases found with
    | error err =>
      intro err' h
      cases h
      exact hfound err rfl
    | ok endpoints =>
      dsimp only
      split
      · exact fun err h => by cases h
      · intro err h
        cases h
        exact tabled_request rfl

theorem dispatch_fails (lib : Lib) (state : AuthState) (action token : String) :
    Outcomes (dispatch lib state action token) := by
  unfold dispatch
  split
  · refine Prog.Sat.bind (resolveEndpoint_fails lib state _ _ _) fun found hfound => ?_
    obtain ⟨found, state'⟩ := found
    cases found with
    | error err =>
      intro err' h
      cases h
      exact hfound err rfl
    | ok url => exact Prog.Sat.bind (userInfoAt_fails lib _ url token) fun result hresult => hresult
  · unfold doIntrospect
    split
    · intro err h
      cases h
      exact tabled_request rfl
    · refine Prog.Sat.bind (resolveEndpoint_fails lib state _ _ _) fun found hfound => ?_
      obtain ⟨found, state'⟩ := found
      cases found with
      | error err =>
        intro err' h
        cases h
        exact hfound err rfl
      | ok url => exact Prog.Sat.bind (introspectAt_fails lib _ url token) fun result hresult => hresult
  · intro err h
    cases h
    exact tabled_request rfl

end Auth

/-! ## The table of a capability -/

open Db Mongo Mail Kv Amq Auth

/-- The payload is one `auth` unpacks. -/
def unpacks (lib : Lib) (payload : String) : Bool := (lib.authPayload payload).isOk

namespace Capability

def upper (c : Capability) : String := .ofList (c.name.toList.map Char.toUpper)

/-- What a connect can fail with. -/
def connectFaults : Capability → List Fault
  | db => [dbCircuitOpenFault, dbConnectionFault]
  | mongo => Mongo.faults
  | mail => [mailFallback]
  | redis => [redisConnectionFault]
  | amq => []
  | auth => [authUnavailable]

/-- What a call that reaches its backend can fail with. The fault of an `auth` payload that
does not parse is put together where payloads are unpacked. -/
def callFaults (unpacked : Bool) : Capability → List Fault
  | db => ⟨"DB_BAD_PAYLOAD", false, .developer⟩ :: Db.faults
  | mongo => Mongo.faults
  | mail => Mail.faults
  | redis => Kv.faults
  | amq => Amq.faults
  | auth => if unpacked then Auth.faults else [⟨"AUTH_REQUEST", false, .developer⟩]

def faults (unpacked : Bool) (c : Capability) : List Fault :=
  ⟨c.upper ++ "_NOT_CONFIGURED", false, .developer⟩ :: c.connectFaults ++ c.callFaults unpacked

end Capability

/-- The error names the capability and is in a list of its faults. -/
def EgressError.Of (c : Capability) (faults : List Fault) (err : EgressError) : Prop :=
  err.source = c.name ∧ err.fault ∈ faults

/-- Whatever error a program returns besides a state satisfies `E`. -/
def Errs {α σ : Type} (E : EgressError → Prop) (p : Fab (Except EgressError α × σ)) : Prop :=
  p.Sat (fun _ => True) fun r => ∀ err, r.1 = .error err → E err

/-! ## Calls -/

private theorem fails_call {ε α Metric β : Type} {T : ε → Prop} {dispatch : FabE ε α}
    {build : Except ε α → Instant → Fab Metric} {finish : Except ε α → Metric → β} {U : β → Prop}
    (hdispatch : Fails T dispatch)
    (hfinish : ∀ result metric, (∀ err, result = .error err → T err) → U (finish result metric)) :
    (now >>= fun start => dispatch.run >>= fun result => build result start >>= fun metric =>
      .ret (finish result metric)).Sat (fun _ => True) U :=
  measured_call hdispatch (fun result start _ => Prog.Sat.any (build result start))
    fun result metric h _ => hfinish result metric h

private theorem errs_mapError {ε σ : Type} {T : ε → Prop} {E : EgressError → Prop}
    {into : ε → EgressError}
    (hinto : ∀ err, T err → E (into err)) {result : Except ε String} {state : σ}
    (h : ∀ err, result = .error err → T err) :
    Errs E (.ret (result.mapError into, state)) := by
  intro err herr
  cases result with
  | ok reply => cases herr
  | error e =>
    cases herr
    exact hinto e (h e rfl)

private theorem runDb_errs (lib : Lib) (action payload : String) (backend : DbBackend) :
    Errs (EgressError.Of .db (Capability.db.callFaults (unpacks lib payload)))
      (BackendSet.runDb lib action payload backend) := by
  unfold BackendSet.runDb
  split
  case h_1 err hparse =>
    intro err' h
    cases h
    unfold parseDbPayload at hparse
    split at hparse
    · cases hparse
      exact ⟨rfl, List.mem_cons_self⟩
    · cases hparse
  case h_2 args hparse =>
    refine Prog.Sat.bind (fails_call (Db.dispatch_fails lib _ action _ _ _)
      (U := fun r => ∀ err, r.1 = .error err → Db.Tabled err) fun result metric h => h) fun r hr => ?_
    exact errs_mapError (fun err h => ⟨rfl, List.mem_cons_of_mem _ h⟩) hr

private theorem runMongo_errs (lib : Lib) (action payload : String) (backend : MongoBackend) :
    Errs (EgressError.Of .mongo (Capability.mongo.callFaults (unpacks lib payload)))
      (BackendSet.runMongo lib action payload backend) := by
  unfold BackendSet.runMongo
  split
  case h_1 err hparse =>
    intro err' h
    cases h
    unfold parseMongoPayload at hparse
    split at hparse
    · cases hparse
      refine ⟨rfl, ?_⟩
      show mongoQuery ∈ Mongo.faults
      decide
    · cases hparse
  case h_2 collection dataJson hparse =>
    refine Prog.Sat.bind (fails_call (Mongo.dispatch_fails lib _ action _ _)
      (U := fun r => ∀ err, r.1 = .error err → Mongo.Tabled err) fun _ _ h err herr =>
        h err (map_eq_error.mp herr)) fun r hr => ?_
    exact errs_mapError (fun err h => ⟨rfl, h⟩) hr

private theorem runMail_errs (lib : Lib) (action payload : String) (backend : MailBackend) :
    Errs (EgressError.Of .mail (Capability.mail.callFaults (unpacks lib payload)))
      (BackendSet.runMail lib action payload backend) := by
  have hcall : (backend.call lib action payload).Sat (fun _ => True) fun r =>
      ∀ err, r.1 = .error err → err.fault ∈ Mail.faults := by
    unfold MailBackend.call
    split
    · intro err h
      cases h
      exact List.mem_cons_self
    · exact fails_call (Mail.dispatch_fails lib _ action _) fun _ _ h err herr =>
        List.mem_cons_of_mem _ (h err (map_eq_error.mp herr))
  refine Prog.Sat.bind hcall fun r hr => ?_
  exact errs_mapError (fun err h => ⟨rfl, h⟩) hr

private theorem runRedis_errs (lib : Lib) (action payload : String) (backend : RedisBackend) :
    Errs (EgressError.Of .redis (Capability.redis.callFaults (unpacks lib payload)))
      (BackendSet.runRedis lib action payload backend) := by
  refine Prog.Sat.bind (fails_call (Kv.dispatch_fails lib _ action _)
    (U := fun r => ∀ err, r.1 = .error err → Kv.Tabled err) fun result metric h => h) fun r hr => ?_
  exact errs_mapError (fun err h => ⟨rfl, h⟩) hr

private theorem callAmq_errs (lib : Lib) (action payload : String) (producer : AmqProducer) :
    (producer.call lib action payload).Sat (fun _ => True) fun r =>
      ∀ err, r.1 = .error err → err.fault ∈ Amq.faults :=
  fails_call (Amq.dispatch_fails lib _ action _) fun _ _ h err herr =>
    h err (map_eq_error.mp herr)

private theorem runAuth_errs (lib : Lib) (action payload : String) (backend : AuthBackend) :
    Errs (EgressError.Of .auth (Capability.auth.callFaults (unpacks lib payload)))
      (BackendSet.runAuth lib action payload backend) := by
  unfold BackendSet.runAuth parseAuthToken Capability.callFaults unpacks
  cases lib.authPayload payload with
  | error message =>
    intro err h
    cases h
    exact ⟨rfl, List.mem_cons_self⟩
  | ok fields =>
    apply Prog.Sat.after
    intro start
    refine Prog.Sat.bind (Auth.dispatch_fails lib backend.state action _) fun r hr => ?_
    obtain ⟨result, state⟩ := r
    apply Prog.Sat.after
    intro metric err herr
    cases result with
    | ok outcome => cases herr
    | error e =>
      cases herr
      exact ⟨rfl, hr e rfl⟩

/-! ## Connects -/

def Refuses {Backend : Type} (E : EgressError → Prop) (p : Fab (Except EgressError Backend)) : Prop :=
  p.Sat (fun _ => True) fun r => ∀ err, r = .error err → E err

private theorem dbConnect_refuses (slot : DbSlot) :
    Refuses (EgressError.Of .db Capability.db.connectFaults) slot.connect := by
  apply Prog.Sat.after
  intro result err herr
  cases result with
  | ok backend => cases herr
  | error e =>
    cases herr
    refine ⟨rfl, ?_⟩
    cases e with
    | circuitOpen => exact List.mem_cons_self
    | driver err => exact List.mem_cons_of_mem _ List.mem_cons_self

private theorem mongoConnect_refuses (slot : MongoSlot) :
    Refuses (EgressError.Of .mongo Capability.mongo.connectFaults) slot.connect := by
  apply Prog.Sat.after
  intro built
  cases built with
  | error driver =>
    intro err herr
    cases herr
    exact ⟨rfl, Mongo.classify_mem driver⟩
  | ok client =>
    apply Prog.Sat.after
    intro deadline err herr
    cases herr

private theorem mailConnect_refuses (slot : MailSlot) :
    Refuses (EgressError.Of .mail Capability.mail.connectFaults) slot.connect := by
  apply Prog.Sat.after
  intro built
  cases built with
  | error message =>
    intro err herr
    cases herr
    exact ⟨rfl, List.mem_cons_self⟩
  | ok transport =>
    intro err herr
    cases herr

private theorem redisConnect_refuses (slot : RedisSlot) :
    Refuses (EgressError.Of .redis Capability.redis.connectFaults) slot.connect := by
  apply Prog.Sat.after
  intro result
  cases result with
  | error driver =>
    intro err herr
    cases herr
    exact ⟨rfl, List.mem_cons_self⟩
  | ok conn =>
    intro err herr
    cases herr

private theorem authConnect_refuses (lib : Lib) (slot : AuthSlot) :
    Refuses (EgressError.Of .auth Capability.auth.connectFaults) (AuthSlot.connect lib slot) := by
  apply Prog.Sat.after
  intro built
  cases built with
  | error message =>
    intro err herr
    cases herr
    exact ⟨rfl, List.mem_cons_self⟩
  | ok client =>
    intro err herr
    cases herr

/-! ## Whole calls -/

/-- The error a cell keeps is one a connect of the capability fails with. -/
def Cell {Config Deps Backend : Type} (c : Capability) (slot : Option (Slot Config Deps Backend)) :
    Prop :=
  ∀ s err, slot = some s → s.backend = some (.error err) → err.Of c c.connectFaults

private theorem Lane.call_errs {Config Deps Backend : Type} (lane : Lane Config Deps Backend)
    (lib : Lib)
    (action payload : String)
    (hconnect : ∀ slot, Refuses (EgressError.Of lane.capability lane.capability.connectFaults)
      (lane.connect slot))
    (hrun : ∀ backend, Errs (EgressError.Of lane.capability (lane.capability.callFaults (unpacks lib payload)))
      (lane.run action payload backend))
    {slot : Option (Slot Config Deps Backend)} (hcell : Cell lane.capability slot) :
    (lane.call slot action payload).Sat (fun _ => True) fun r =>
      (∀ err, r.1 = .error err → err.Of lane.capability (lane.capability.faults (unpacks lib payload))) ∧
        Cell lane.capability r.2 := by
  have houtcome (s : Slot Config Deps Backend) (outcome : Except EgressError Backend)
      (hkept : ∀ err, outcome = .error err →
        err.Of lane.capability lane.capability.connectFaults) :
      (lane.call (some { s with backend := some outcome }) action payload).Sat (fun _ => True) fun r =>
        (∀ err, r.1 = .error err → err.Of lane.capability (lane.capability.faults (unpacks lib payload))) ∧
          Cell lane.capability r.2 := by
    cases outcome with
    | error err =>
      rw [lane.call_failed rfl]
      refine ⟨fun err' herr => ?_, fun s' err' hs herr => ?_⟩
      · cases herr
        obtain ⟨hsource, hfault⟩ := hkept err rfl
        refine ⟨hsource, ?_⟩
        simp only [Capability.faults, List.cons_append, List.mem_cons, List.mem_append, hfault,
          true_or, or_true]
      · cases hs
        cases herr
        exact hkept err rfl
    | ok backend =>
      have hback : (lane.run action payload backend).Sat (fun _ => True) _ := hrun backend
      refine hback.bind fun r hr => ⟨fun err herr => ?_, fun s' err' hs herr => ?_⟩
      · obtain ⟨hsource, hfault⟩ := hr err herr
        refine ⟨hsource, ?_⟩
        simp only [Capability.faults, List.cons_append, List.mem_cons, List.mem_append, hfault, or_true]
      · cases hs
        cases herr
  cases slot with
  | none =>
    refine ⟨fun err herr => ?_, fun s err hs => ?_⟩
    · cases herr
      exact ⟨rfl, List.mem_cons_self⟩
    · cases hs
  | some s =>
    cases hs : s.backend with
    | none =>
      rw [lane.call_first hs]
      exact Prog.Sat.bind (hconnect s) fun outcome hkept => houtcome s outcome hkept
    | some outcome =>
      have hcall := houtcome s outcome fun err herr => hcell s err rfl (hs.trans (congrArg some herr))
      rwa [← hs] at hcall

/-- An error in the table of the request's capability, or of none. -/
inductive Reported (lib : Lib) (request : WireCall) (err : EgressError) : Prop where
  | known (c : Capability) (hname : request.name = c.name)
      (hof : err.Of c (c.faults (unpacks lib request.payload)))
  | unknown (hname : ∀ c : Capability, request.name ≠ c.name) (hsource : err.source = "engine")
      (hfault : err.fault = ⟨"IO_UNKNOWN", false, .developer⟩)

namespace BackendSet

/-- Every cell of the set keeps an error of its own capability, if any. -/
structure Cells (set : BackendSet) : Prop where
  db : Cell .db set.db
  mongo : Cell .mongo set.mongo
  mail : Cell .mail set.mail
  redis : Cell .redis set.redis
  auth : Cell .auth set.auth

/-- No slot has been called yet. -/
structure Fresh (set : BackendSet) : Prop where
  db : ∀ slot, set.db = some slot → slot.backend = none
  mongo : ∀ slot, set.mongo = some slot → slot.backend = none
  mail : ∀ slot, set.mail = some slot → slot.backend = none
  redis : ∀ slot, set.redis = some slot → slot.backend = none
  auth : ∀ slot, set.auth = some slot → slot.backend = none

/-- The sets that come of a fresh one by calls. -/
inductive Reached (lib : Lib) : BackendSet → Prop where
  | fresh {set : BackendSet} (h : set.Fresh) : Reached lib set
  | call {set last : BackendSet} {request : WireCall} {es : List (Event Fx)}
      {result : Except EgressError String} (h : Reached lib set)
      (hrun : Prog.Steps (set.call lib request) es (.ret (result, last))) : Reached lib last

theorem Fresh.cells {set : BackendSet} (h : set.Fresh) : set.Cells := by
  have hcell {Config Deps Backend : Type} (c : Capability)
      {slot : Option (Slot Config Deps Backend)}
      (hfresh : ∀ s, slot = some s → s.backend = none) : Cell c slot := by
    intro s err hs herr
    rw [hfresh s hs] at herr
    cases herr
  exact ⟨hcell _ h.db, hcell _ h.mongo, hcell _ h.mail, hcell _ h.redis, hcell _ h.auth⟩

private theorem fromConfigs_fresh (configs : ResolvedConfigs) (deps : AsyncDeps) :
    (fromConfigs configs deps).Fresh := by
  rw [fromConfigs_eq]
  exact ⟨slot_fresh, slot_fresh, slot_fresh, slot_fresh, slot_fresh⟩

private theorem call_reports (lib : Lib) {set : BackendSet} (hcells : set.Cells)
    (request : WireCall) :
    (set.call lib request).Sat (fun _ => True) fun r =>
      (∀ err, r.1 = .error err → Reported lib request err) ∧ r.2.Cells := by
  have hlane {Config Deps Backend : Type} (lane : Lane Config Deps Backend)
      (hname : request.name = lane.capability.name) {slot : Option (Slot Config Deps Backend)}
      (put : Option (Slot Config Deps Backend) → BackendSet)
      (hput : ∀ slot, Cell lane.capability slot → (put slot).Cells)
      (hconnect : ∀ slot, Refuses (EgressError.Of lane.capability lane.capability.connectFaults)
        (lane.connect slot))
      (hrun : ∀ backend, Errs (EgressError.Of lane.capability
        (lane.capability.callFaults (unpacks lib request.payload)))
          (lane.run request.action request.payload backend))
      (hcell : Cell lane.capability slot) :
      (lane.call slot request.action request.payload >>= fun r => .ret (r.1, put r.2)).Sat
        (fun _ => True) fun r =>
          (∀ err, r.1 = .error err → Reported lib request err) ∧ r.2.Cells := by
    refine (lane.call_errs lib request.action request.payload hconnect hrun hcell).bind
      fun r hr => ⟨fun err herr => ?_, hput r.2 hr.2⟩
    exact .known lane.capability hname (hr.1 err herr)
  unfold BackendSet.call
  split
  case h_1 hname =>
    exact hlane (dbLane lib) hname (fun slot => { set with db := slot })
      (fun slot h => { hcells with db := h }) dbConnect_refuses (runDb_errs lib _ _) hcells.db
  case h_2 hname =>
    exact hlane (mongoLane lib) hname (fun slot => { set with mongo := slot })
      (fun slot h => { hcells with mongo := h }) mongoConnect_refuses (runMongo_errs lib _ _)
      hcells.mongo
  case h_3 hname =>
    exact hlane (mailLane lib) hname (fun slot => { set with mail := slot })
      (fun slot h => { hcells with mail := h }) mailConnect_refuses (runMail_errs lib _ _)
      hcells.mail
  case h_4 hname =>
    exact hlane (redisLane lib) hname (fun slot => { set with redis := slot })
      (fun slot h => { hcells with redis := h }) redisConnect_refuses (runRedis_errs lib _ _)
      hcells.redis
  case h_5 hname =>
    unfold BackendSet.callAmq
    split
    · refine ⟨fun err herr => ?_, hcells⟩
      cases herr
      exact .known .amq hname ⟨rfl, List.mem_cons_self⟩
    · refine (callAmq_errs lib request.action request.payload _).bind fun r hr => ?_
      refine ⟨fun err herr => ?_, { hcells with }⟩
      obtain ⟨result, producer⟩ := r
      cases result with
      | ok reply => cases herr
      | error e =>
        cases herr
        exact .known .amq hname ⟨rfl, List.mem_cons_of_mem _ (hr e rfl)⟩
  case h_6 hname =>
    exact hlane (authLane lib) hname (fun slot => { set with auth := slot })
      (fun slot h => { hcells with auth := h }) (authConnect_refuses lib) (runAuth_errs lib _ _)
      hcells.auth
  case h_7 hdb hmongo hmail hredis hamq hauth =>
    refine ⟨fun err herr => ?_, hcells⟩
    cases herr
    refine .unknown (fun c => ?_) rfl rfl
    cases c with
    | db => exact hdb
    | mongo => exact hmongo
    | mail => exact hmail
    | redis => exact hredis
    | amq => exact hamq
    | auth => exact hauth

theorem Reached.cells {lib : Lib} {set : BackendSet} (h : Reached lib set) : set.Cells := by
  induction h with
  | fresh h => exact h.cells
  | call _ hrun ih => exact ((call_reports lib ih _).steps hrun).2.2

end BackendSet

/-! ## What the table says -/

namespace Capability

private theorem faults_tagged (unpacked : Bool) (c : Capability) :
    ∀ fault ∈ c.faults unpacked, (c.upper ++ "_").toList <+: fault.code.toList ∧
      (fault.owner = .developer → fault.retryable = false) := by
  cases unpacked <;> cases c <;> decide

private theorem upper_unique {c c' : Capability} {code : String}
    (h : (c.upper ++ "_").toList <+: code.toList)
    (h' : (c'.upper ++ "_").toList <+: code.toList) : c = c' := by
  have hnested := List.prefix_or_prefix_of_prefix h h'
  revert hnested
  cases c <;> cases c' <;> decide

/-- In the tables of two requests, a code stands for one fault unless both are `auth`
requests of which only one unpacks. -/
theorem faults_functional {unpacked unpacked' : Bool} {c : Capability}
    (h : c = .auth → unpacked = unpacked') :
    ∀ fault ∈ c.faults unpacked, ∀ fault' ∈ c.faults unpacked',
      fault.code = fault'.code → fault = fault' := by
  revert h
  cases c <;> cases unpacked <;> cases unpacked' <;> decide

private theorem connectFaults_functional (unpacked : Bool) :
    ∀ fault ∈ auth.faults unpacked,
      ∀ fault' ∈ Fault.mk (auth.upper ++ "_NOT_CONFIGURED") false .developer :: auth.connectFaults,
        fault.code = fault'.code → fault = fault' := by
  cases unpacked <;> decide

end Capability

/-- Every error of a call names the capability that was called, and a call of no capability
is refused as `IO_UNKNOWN` without a request. -/
theorem call_names_capability (lib : Lib) {set last : BackendSet} {request : WireCall}
    {es : List (Event Fx)} {result : Except EgressError String} (h : set.Reached lib)
    (hrun : Prog.Steps (set.call lib request) es (.ret (result, last))) :
    (∀ c : Capability, request.name = c.name → ∀ err, result = .error err →
        err.source = request.name ∧ (c.upper ++ "_").toList <+: err.code.toList ∧
          (err.owner = .developer → err.retryable = false)) ∧
      ((∀ c : Capability, request.name ≠ c.name) → es = [] ∧ last = set ∧
        ∃ err, result = .error err ∧ err.code = "IO_UNKNOWN" ∧ err.owner = .developer) := by
  refine ⟨fun c hname err herr => ?_, fun hname => ?_⟩
  · cases ((BackendSet.call_reports lib h.cells request).steps hrun).2.1 err herr with
    | known c' hname' hof =>
      have hupper : c.upper = c'.upper := by
        unfold Capability.upper
        rw [← hname, ← hname']
      obtain ⟨hstart, howner⟩ := Capability.faults_tagged _ c' err.fault hof.2
      rw [hupper, hname']
      exact ⟨hof.1, hstart, howner⟩
    | unknown hnone _ _ => exact absurd hname (hnone c)
  · rw [set.call_unknown lib hname] at hrun
    obtain ⟨rfl, hret⟩ := Prog.steps_ret hrun
    cases hret
    exact ⟨rfl, rfl, _, rfl, rfl, rfl⟩

/-- A cache that is connected to and does not answer a read in time. -/
def muteCache : Env Fx Unit
  | w, ⟨.redis (.getConnection _), _⟩ => (.ok 0, w)
  | w, ⟨.redis (.openUrl _), _⟩ | w, ⟨.redis (.setReadTimeout _ _), _⟩
  | w, ⟨.redis (.setWriteTimeout _ _), _⟩ | w, ⟨.redis (.lock _), _⟩ => (.ok (), w)
  | w, ⟨.redis (.get _ _), _⟩ => (.error ⟨true, true, "timed out"⟩, w)
  | w, ⟨call, _⟩ => ((default : call.Ans), w)

def keyLib : Lib := { Lib.rejecting with keyPayload := fun _ => .ok ⟨some "name"⟩ }

def cacheSet : BackendSet :=
  .fromConfigs ⟨none, none, none, some ⟨"redis://cache", 1000⟩, none, none⟩ ⟨false, fromMillis 1000⟩

def cacheRead : WireCall := ⟨"redis", "get", "\x7b\"key\":\"name\"\x7d"⟩

theorem call_names_redis :
    ∃ err last, (Prog.run muteCache () (cacheSet.call keyLib cacheRead)).value = (.error err, last) ∧
      err.code = "REDIS_TIMEOUT" ∧ err.source = "redis" ∧ "REDIS_".toList <+: err.code.toList ∧
      (err.owner = .developer → err.retryable = false) := by
  have hrun := Prog.run_steps muteCache () (cacheSet.call keyLib cacheRead)
  have hnamed := (call_names_capability keyLib (.fresh (BackendSet.fromConfigs_fresh _ _)) hrun).1
    .redis rfl _ rfl
  exact ⟨_, _, rfl, rfl, hnamed.1, hnamed.2.1, hnamed.2.2⟩

/-! ## Codes against classifications -/

namespace BackendSet

/-- The `auth` slot is configured, and its connect has not failed. -/
def AuthOpen (set : BackendSet) : Prop :=
  ∃ slot, set.auth = some slot ∧ ∀ err, slot.backend ≠ some (.error err)

/-- Whatever the drivers answer, errors of the two calls with one code are classified alike. -/
def Determined (lib : Lib) (set set' : BackendSet) (request request' : WireCall) : Prop :=
  ∀ es es' err err' last last', Prog.Steps (set.call lib request) es (.ret (.error err, last)) →
    Prog.Steps (set'.call lib request') es' (.ret (.error err', last')) → err.code = err'.code →
      err.source = err'.source ∧ err.retryable = err'.retryable ∧ err.owner = err'.owner

/-- Two `auth` calls that reach their backends, only one with a payload that unpacks. -/
def Split (lib : Lib) (set set' : BackendSet) (request request' : WireCall) : Prop :=
  (request.name = "auth" ∧ set.AuthOpen) ∧ (request'.name = "auth" ∧ set'.AuthOpen) ∧
    unpacks lib request.payload ≠ unpacks lib request'.payload

end BackendSet

/-- An issuer that answers every request with 404. -/
def notFound : Env Fx Unit := fun _ op =>
  match op with
  | ⟨.auth (.buildClient _), _⟩ => (.ok 0, ())
  | ⟨.auth (.send _ _), _⟩ => (.ok (404, .ok ""), ())
  | ⟨call, _⟩ => ((default : call.Ans), ())

/-- Against such an issuer every call ends as `AUTH_REQUEST`, owned by who wrote the payload
if it does not unpack. -/
theorem runAuth_notFound (lib : Lib) (action payload : String) (backend : AuthBackend) :
    ∃ err, (Prog.run notFound () (BackendSet.runAuth lib action payload backend)).value.1 = .error err ∧
      err.code = "AUTH_REQUEST" ∧ err.owner = if unpacks lib payload then .operator else .developer := by
  unfold BackendSet.runAuth parseAuthToken unpacks
  cases lib.authPayload payload with
  | error message => exact ⟨_, rfl, rfl, rfl⟩
  | ok fields =>
    obtain ⟨⟨client, ⟨issuer, userinfoUrl, introspectUrl, clientId, clientSecret, timeoutMs⟩,
      discovery⟩, host, metrics⟩ := backend
    have hdispatch : ∃ err state, (Prog.run notFound () (Auth.dispatch lib
        ⟨client, ⟨issuer, userinfoUrl, introspectUrl, clientId, clientSecret, timeoutMs⟩, discovery⟩
        action (fields.token.getD ""))).value = (.error err, state) ∧ err.fault = authRequest := by
      unfold Auth.dispatch
      split
      · cases userinfoUrl with
        | some url => exact ⟨_, _, rfl, rfl⟩
        | none =>
          rcases discovery with _ | ⟨_ | userinfo, introspect⟩
          · exact ⟨_, _, rfl, rfl⟩
          · exact ⟨_, _, rfl, rfl⟩
          · exact ⟨_, _, rfl, rfl⟩
      · unfold doIntrospect
        split
        · exact ⟨_, _, rfl, rfl⟩
        · cases introspectUrl with
          | some url => exact ⟨_, _, rfl, rfl⟩
          | none =>
            rcases discovery with _ | ⟨userinfo, _ | introspect⟩
            · exact ⟨_, _, rfl, rfl⟩
            · exact ⟨_, _, rfl, rfl⟩
            · exact ⟨_, _, rfl, rfl⟩
      · exact ⟨_, _, rfl, rfl⟩
    obtain ⟨err, state, hvalue, hfault⟩ := hdispatch
    simp only [AuthBackend.call, Prog.run_bind, Prog.run_pure, hvalue]
    refine ⟨_, rfl, ?_, ?_⟩
    · exact congrArg Fault.code hfault
    · exact congrArg Fault.owner hfault

namespace BackendSet

private theorem AuthOpen.notFound_error (lib : Lib) {set : BackendSet} {request : WireCall}
    (h : set.AuthOpen)
    (hname : request.name = "auth") :
    ∃ es err last, Prog.Steps (set.call lib request) es (.ret (.error err, last)) ∧
      err.code = "AUTH_REQUEST" ∧
      err.owner = if unpacks lib request.payload then .operator else .developer := by
  obtain ⟨slot, hslot, hopen⟩ := h
  have hready (backend : AuthBackend) :
      (Prog.run notFound () ((authLane lib).call (some { slot with backend := some (.ok backend) })
        request.action request.payload)).value.1 =
        (Prog.run notFound () (BackendSet.runAuth lib request.action request.payload backend)).value.1 := by
    have hbind : ∀ f : Except EgressError String × AuthBackend →
        Fab (Except EgressError String × Option AuthSlot), (∀ r, ∃ slot, f r = .ret (r.1, slot)) →
          (Prog.run notFound () (runAuth lib request.action request.payload backend >>= f)).value.1 =
            (Prog.run notFound () (runAuth lib request.action request.payload backend)).value.1 := by
      intro f hf
      rw [Prog.run_bind]
      obtain ⟨slot, hslot⟩ := hf (Prog.run notFound ()
        (runAuth lib request.action request.payload backend)).value
      rw [hslot]
      rfl
    exact hbind _ fun r => ⟨_, rfl⟩
  have hlane : ∃ backend, (Prog.run notFound () ((authLane lib).call (some slot)
      request.action request.payload)).value.1 =
        (Prog.run notFound () (BackendSet.runAuth lib request.action request.payload backend)).value.1 := by
    cases hcell : slot.backend with
    | none =>
      rw [(authLane lib).call_first hcell, Prog.run_bind]
      exact ⟨_, hready _⟩
    | some outcome =>
      cases outcome with
      | error err => exact absurd hcell (hopen err)
      | ok backend =>
        have hback := hready backend
        rw [← hcell] at hback
        exact ⟨backend, hback⟩
  have hcall : (Prog.run notFound () (set.call lib request)).value.1 =
      (Prog.run notFound () ((authLane lib).call (some slot)
        request.action request.payload)).value.1 := by
    rw [(authPort lib).call_own set request hname, Prog.run_bind, ← hslot]
    rfl
  obtain ⟨backend, hbackend⟩ := hlane
  obtain ⟨err, herr, hcode, howner⟩ := runAuth_notFound lib request.action request.payload backend
  refine ⟨(Prog.run notFound () (set.call lib request)).events, err,
    (Prog.run notFound () (set.call lib request)).value.2, ?_, hcode, howner⟩
  rw [← herr, ← hbackend, ← hcall]
  exact Prog.run_steps notFound () _

private theorem closed_auth_fault {lib : Lib} {set last : BackendSet} {request : WireCall}
    {es : List (Event Fx)} {err : EgressError} (hcells : set.Cells) (hclosed : ¬set.AuthOpen)
    (hname : request.name = "auth")
    (hrun : Prog.Steps (set.call lib request) es (.ret (.error err, last))) :
    err.fault ∈ Fault.mk (Capability.auth.upper ++ "_NOT_CONFIGURED") false .developer ::
      Capability.auth.connectFaults := by
  rw [(authPort lib).call_own set request hname] at hrun
  cases hslot : set.auth with
  | none =>
    have hget : (authPort lib).get set = none := hslot
    rw [hget] at hrun
    obtain ⟨-, hret⟩ := Prog.steps_ret hrun
    cases hret
    exact List.mem_cons_self
  | some slot =>
    obtain ⟨kept, hkept⟩ : ∃ kept, slot.backend = some (.error kept) := by
      by_contra hnone
      exact hclosed ⟨slot, hslot, fun kept hkept => hnone ⟨kept, hkept⟩⟩
    have hget : (authPort lib).get set = some slot := hslot
    rw [hget, (authLane lib).call_failed hkept] at hrun
    obtain ⟨-, hret⟩ := Prog.steps_ret hrun
    cases hret
    exact List.mem_cons_of_mem _ (hcells.auth slot err hslot hkept).2

end BackendSet

private theorem code_fault {lib : Lib} {set set' last last' : BackendSet}
    {request request' : WireCall}
    {es es' : List (Event Fx)} {err err' : EgressError} (hcells : set.Cells) (hcells' : set'.Cells)
    (hrun : Prog.Steps (set.call lib request) es (.ret (.error err, last)))
    (hrun' : Prog.Steps (set'.call lib request') es' (.ret (.error err', last')))
    (hsplit : ¬BackendSet.Split lib set set' request request') (hcode : err.code = err'.code) :
    err.source = err'.source ∧ err.fault = err'.fault := by
  have huntagged (c : Capability) : ¬(c.upper ++ "_").toList <+: "IO_UNKNOWN".toList := by
    cases c <;> decide
  have hreport := ((BackendSet.call_reports lib hcells request).steps hrun).2.1 err rfl
  have hreport' := ((BackendSet.call_reports lib hcells' request').steps hrun').2.1 err' rfl
  cases hreport with
  | unknown hnone hsource hfault =>
    cases hreport' with
    | unknown hnone' hsource' hfault' =>
      exact ⟨hsource.trans hsource'.symm, hfault.trans hfault'.symm⟩
    | known c' hname' hof' =>
      have htag := (Capability.faults_tagged _ c' _ hof'.2).1
      have hunknown : err'.code = "IO_UNKNOWN" := hcode.symm.trans (congrArg Fault.code hfault)
      have hcode' : err'.fault.code = "IO_UNKNOWN" := hunknown
      rw [hcode'] at htag
      exact absurd htag (huntagged c')
  | known c hname hof =>
    have htag := (Capability.faults_tagged _ c _ hof.2).1
    cases hreport' with
    | unknown hnone' hsource' hfault' =>
      have hcode' : err.fault.code = "IO_UNKNOWN" := hcode.trans (congrArg Fault.code hfault')
      rw [hcode'] at htag
      exact absurd htag (huntagged c)
    | known c' hname' hof' =>
      have htag' := (Capability.faults_tagged _ c' _ hof'.2).1
      have hsame : err.fault.code = err'.fault.code := hcode
      rw [← hsame] at htag'
      cases Capability.upper_unique htag htag'
      refine ⟨hof.1.trans hof'.1.symm, ?_⟩
      by_cases hunpack : c = .auth → unpacks lib request.payload = unpacks lib request'.payload
      · exact Capability.faults_functional hunpack _ hof.2 _ hof'.2 hsame
      · -- one of the two sets is not open, so its call did not look at the payload
        obtain ⟨rfl, hdiffer⟩ := Classical.not_imp.mp hunpack
        by_cases hopen : set.AuthOpen
        · have hclosed' : ¬set'.AuthOpen := fun hopen' =>
            hsplit ⟨⟨hname, hopen⟩, ⟨hname', hopen'⟩, hdiffer⟩
          exact Capability.connectFaults_functional _ _ hof.2 _
            (BackendSet.closed_auth_fault hcells' hclosed' hname' hrun') hsame
        · exact (Capability.connectFaults_functional _ _ hof'.2 _
            (BackendSet.closed_auth_fault hcells hopen hname hrun) hsame.symm).symm

/-- The code of an error determines its classification, unless the two calls reach `auth`
with a payload that unpacks and with one that does not. -/
theorem code_determines_classification (lib : Lib) {set set' : BackendSet} (request request' : WireCall)
    (h : set.Reached lib) (h' : set'.Reached lib) :
    BackendSet.Determined lib set set' request request' ↔
      ¬BackendSet.Split lib set set' request request' := by
  constructor
  · intro hdetermined hsplit
    obtain ⟨⟨hname, hopen⟩, ⟨hname', hopen'⟩, hdiffer⟩ := hsplit
    obtain ⟨es, err, last, hrun, hcode, howner⟩ := hopen.notFound_error lib hname
    obtain ⟨es', err', last', hrun', hcode', howner'⟩ := hopen'.notFound_error lib hname'
    have hsame := (hdetermined _ _ _ _ _ _ hrun hrun' (hcode.trans hcode'.symm)).2.2
    rw [howner, howner'] at hsame
    apply hdiffer
    revert hsame
    cases unpacks lib request.payload <;> cases unpacks lib request'.payload <;> decide
  · intro hsplit es es' err err' last last' hrun hrun' hcode
    obtain ⟨hsource, hfault⟩ := code_fault h.cells h'.cells hrun hrun' hsplit hcode
    exact ⟨hsource, congrArg Fault.retryable hfault, congrArg Fault.owner hfault⟩

def issuerSet : BackendSet :=
  .fromConfigs ⟨none, none, none, none, none, some ⟨"https://issuer.test", none, none, "", "", 5000⟩⟩
    ⟨false, fromMillis 1000⟩

def tokenLib : Lib :=
  { Lib.rejecting with
    authPayload := fun payload =>
      if payload = "\x7b\"token\":\"t\"\x7d" then .ok ⟨some "t"⟩
      else .error "invalid type: integer, expected a string" }

def tokenRequest : WireCall := ⟨"auth", "user_info", "\x7b\"token\":\"t\"\x7d"⟩

def numberRequest : WireCall := ⟨"auth", "user_info", "\x7b\"token\":1\x7d"⟩

private theorem issuerSet_open : issuerSet.AuthOpen := ⟨_, rfl, nofun⟩

private theorem issuerSet_reached :
    issuerSet.Reached tokenLib := .fresh (BackendSet.fromConfigs_fresh _ _)

def introspectRequest : WireCall := ⟨"auth", "introspect", "\x7b\"token\":\"t\"\x7d"⟩

theorem token_determined :
    BackendSet.Determined tokenLib issuerSet issuerSet tokenRequest introspectRequest :=
  (code_determines_classification tokenLib tokenRequest introspectRequest issuerSet_reached
    issuerSet_reached).mpr fun hsplit => hsplit.2.2 rfl

/-- An issuer's 404 and a token that is no string are one code with two owners. -/
theorem auth_request_owners :
    issuerSet.Reached tokenLib ∧
      ¬BackendSet.Determined tokenLib issuerSet issuerSet tokenRequest numberRequest := by
  refine ⟨issuerSet_reached, fun hdetermined => ?_⟩
  obtain ⟨es, err, last, hrun, hcode, howner⟩ :=
    issuerSet_open.notFound_error tokenLib (show tokenRequest.name = "auth" from rfl)
  obtain ⟨es', err', last', hrun', hcode', howner'⟩ :=
    issuerSet_open.notFound_error tokenLib (show numberRequest.name = "auth" from rfl)
  have hsame := (hdetermined _ _ _ _ _ _ hrun hrun' (hcode.trans hcode'.symm)).2.2
  rw [howner, howner'] at hsame
  exact absurd hsame (by decide)

end Fabricd
