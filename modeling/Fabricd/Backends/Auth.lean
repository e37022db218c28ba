import Fabricd.Effects
import Fabricd.Backends.Mongo

/-!
# The `auth` backend

OIDC userinfo and introspection, with discovery memoized for the session.
-/

namespace Fabricd.Auth

open Framework Http

def authUnavailable : Fault := ⟨"AUTH_UNAVAILABLE", true, .operator⟩

def authRequest : Fault := ⟨"AUTH_REQUEST", false, .operator⟩

structure AuthConfig where
  issuer : String
  userinfoUrl : Option String
  introspectUrl : Option String
  clientId : String
  clientSecret : String
  timeoutMs : UInt64
  deriving DecidableEq

/-- Endpoints resolved from discovery, each absent if the issuer omits it. -/
structure Endpoints where
  userinfo : Option String
  introspect : Option String
  deriving DecidableEq

structure AuthError where
  fault : Fault
  message : String
  details : Option Json

namespace AuthError

def new (fault : Fault) (message : String) : AuthError := ⟨fault, message, none⟩

/-- An error tagged with the upstream HTTP status. -/
def withStatus (fault : Fault) (message : String) (status : UInt16) : AuthError :=
  { fault
    message := s!"{message} (status {status})"
    details := some (.object [("http_status", .ofUsize status.toNat)]) }

def fromTransport (err : String) : AuthError :=
  new authUnavailable s!"auth request failed: {err}"

def intoResourceError (self : AuthError) : EgressError :=
  { code := self.fault.code
    message := self.message
    source := "auth"
    details := self.details
    retryable := self.fault.retryable
    owner := self.fault.owner }

end AuthError

structure AuthOutcome where
  json : String
  status : UInt16

/-- The client, the config and the discovery memo. -/
structure AuthState where
  client : ClientId
  config : AuthConfig
  discovery : Option Endpoints

structure AuthBackend where
  state : AuthState
  host : String
  metrics : Collector AuthMetric

def issuerHost (lib : Lib) (issuer : String) : String := (lib.urlHost issuer).getD "unknown"

def AuthBackend.connectResource (lib : Lib) (config : AuthConfig) :
    Fab (Except EgressError AuthBackend) := do
  let built : Except String ClientId ← ask (.auth (.buildClient config.timeoutMs))
  match built with
  | .error err =>
    return .error
      { code := authUnavailable.code
        message := s!"auth client build failed: {err}"
        source := "auth"
        details := none
        retryable := authUnavailable.retryable
        owner := authUnavailable.owner }
  | .ok client =>
    return .ok
      { state := { client, config, discovery := none }
        host := issuerHost lib config.issuer
        metrics := [] }

/-! ## HTTP and JSON helpers -/

/-- Sends a request; the status and the body, or a classified error. -/
def send (client : ClientId) (request : Request) : FabE AuthError (UInt16 × String) :=
  ExceptT.mk do
    let answer : Except String (UInt16 × Except String String) ←
      ask (.auth (.send client request))
    match answer with
    | .error err => return .error (.fromTransport err)
    | .ok (status, .ok body) => return .ok (status, body)
    | .ok (_, .error err) =>
      return .error (.new authUnavailable s!"failed to read response: {err}")

def parseClaims (lib : Lib) (body : String) (status : UInt16) : Except AuthError Json :=
  (lib.fromStr body).mapError fun err =>
    .withStatus authRequest s!"invalid claims JSON: {err}" status

/-- Reads a non-empty string field off a JSON object. -/
def stringField (doc : Json) (key : String) : Option String :=
  match (doc.get key).bind Json.asStr with
  | none => none
  | some text => if text.isEmpty then none else some text

/-- Serializes a value, falling back to a safe error payload. -/
def encode (lib : Lib) (value : Json) : String :=
  match lib.toStr value with
  | .ok text => text
  | .error _ => "\x7b\"ok\":false,\"status\":0,\"code\":\"AUTH_INVALID_TOKEN\"\x7d"

def okClaimsJson (lib : Lib) (claims : Json) : String :=
  encode lib (.object [("ok", .bool true), ("claims", claims)])

def invalidTokenJson (lib : Lib) (status : UInt16) : String :=
  encode lib (.object
    [("ok", .bool false), ("status", .ofUsize status.toNat),
     ("code", .string "AUTH_INVALID_TOKEN")])

def trimEndSlashes (text : String) : String :=
  String.ofList (text.toList.reverse.dropWhile (· == '/')).reverse

def isSuccess (status : UInt16) : Bool := 200 ≤ status && status ≤ 299

def isServerError (status : UInt16) : Bool := 500 ≤ status && status ≤ 599

/-! ## Endpoint resolution -/

/-- Fetches the issuer's discovery document. -/
def AuthState.fetchDiscovery (lib : Lib) (self : AuthState) : FabE AuthError Endpoints := do
  let base := trimEndSlashes self.config.issuer
  let url := base ++ "/.well-known/openid-configuration"
  let (status, body) ← send self.client (.get url none)
  if !isSuccess status then
    ofExcept (.error (.withStatus authRequest "OIDC discovery failed" status))
  else
    let doc ← ofExcept ((lib.fromStr body).mapError
      fun err => .new authRequest s!"invalid discovery document: {err}")
    return {
      userinfo := stringField doc "userinfo_endpoint"
      introspect := stringField doc "introspection_endpoint" }

/-- The memoized discovery result, fetched once if needed. A failure leaves the memo
as it was. -/
def AuthState.discover (lib : Lib) (self : AuthState) :
    Fab (Except AuthError Endpoints × AuthState) :=
  match self.discovery with
  | some endpoints => return (.ok endpoints, self)
  | none => do
    let fetched ← (self.fetchDiscovery lib).run
    match fetched with
    | .ok endpoints => return (.ok endpoints, { self with discovery := some endpoints })
    | .error err => return (.error err, self)

/-- An explicit override, else the endpoint `pick` takes from discovery. -/
def AuthState.resolveEndpoint (lib : Lib) (self : AuthState) (override : Option String)
    (pick : Endpoints → Option String) (missing : String) :
    Fab (Except AuthError String × AuthState) :=
  match override with
  | some url => return (.ok url, self)
  | none => do
    let (found, self) ← self.discover lib
    match found with
    | .error err => return (.error err, self)
    | .ok endpoints =>
      match pick endpoints with
      | some url => return (.ok url, self)
      | none => return (.error (.new authRequest missing), self)

def AuthState.resolveUserinfo (lib : Lib) (self : AuthState) :
    Fab (Except AuthError String × AuthState) :=
  self.resolveEndpoint lib self.config.userinfoUrl Endpoints.userinfo
    "issuer exposes no userinfo_endpoint"

def AuthState.resolveIntrospect (lib : Lib) (self : AuthState) :
    Fab (Except AuthError String × AuthState) :=
  self.resolveEndpoint lib self.config.introspectUrl Endpoints.introspect
    "issuer exposes no introspection_endpoint"

/-! ## The two actions -/

/-- The userinfo request once its endpoint is known: 401 and 403 are in-band. -/
def userInfoAt (lib : Lib) (client : ClientId) (url token : String) :
    FabE AuthError AuthOutcome := do
  let (status, body) ← send client (.get url (some token))
  if isSuccess status then
    let claims ← ofExcept (parseClaims lib body status)
    return { json := okClaimsJson lib claims, status }
  else if status = 401 ∨ status = 403 then
    return { json := invalidTokenJson lib status, status }
  else if isServerError status then
    ofExcept (.error (.withStatus authUnavailable "userinfo unavailable" status))
  else
    ofExcept (.error (.withStatus authRequest "userinfo request failed" status))

def doUserInfo (lib : Lib) (state : AuthState) (token : String) :
    Fab (Except AuthError AuthOutcome × AuthState) := do
  let (found, state) ← state.resolveUserinfo lib
  match found with
  | .error err => return (.error err, state)
  | .ok url =>
    let result ← (userInfoAt lib state.client url token).run
    return (result, state)

/-- The introspection request once its endpoint is known: every non-2xx is an error. -/
def introspectAt (lib : Lib) (state : AuthState) (url token : String) :
    FabE AuthError AuthOutcome := do
  let formBody := "token=" ++ Mongo.encode token
  let (status, body) ← send state.client
    (.postForm url state.config.clientId state.config.clientSecret formBody)
  if isSuccess status then
    let claims ← ofExcept (parseClaims lib body status)
    return { json := okClaimsJson lib claims, status }
  else if isServerError status then
    ofExcept (.error (.withStatus authUnavailable "introspection unavailable" status))
  else
    ofExcept (.error (.withStatus authRequest "introspection request failed" status))

def doIntrospect (lib : Lib) (state : AuthState) (token : String) :
    Fab (Except AuthError AuthOutcome × AuthState) := do
  if state.config.clientId.isEmpty then
    return (.error (.new authRequest
      "introspect requires config.auth.client_id/client_secret"), state)
  else
    let (found, state) ← state.resolveIntrospect lib
    match found with
    | .error err => return (.error err, state)
    | .ok url =>
      let result ← (introspectAt lib state url token).run
      return (result, state)

def dispatch (lib : Lib) (state : AuthState) (action token : String) :
    Fab (Except AuthError AuthOutcome × AuthState) :=
  match action with
  | "user_info" => doUserInfo lib state token
  | "introspect" => doIntrospect lib state token
  | other => return (.error (.new authRequest s!"unknown auth action: {other}"), state)

def buildMetric (action host : String) (status : UInt16) (start : Instant) :
    Fab AuthMetric := do
  let durationUs ← elapsedMicros start
  return { action, host, status, durationUs }

/-- Runs one action and records its metric. -/
def AuthBackend.call (lib : Lib) (self : AuthBackend) (action token : String) :
    Fab (Except EgressError String × AuthBackend) := do
  let start ← now
  let (result, state) ← dispatch lib self.state action token
  let status :=
    match result with
    | .ok outcome => outcome.status
    | .error _ => 0
  let metric ← buildMetric action self.host status start
  return ((result.map AuthOutcome.json).mapError AuthError.intoResourceError,
    { self with state, metrics := self.metrics.record metric })

def AuthBackend.drainMetrics (self : AuthBackend) : List AuthMetric := self.metrics.drain

end Fabricd.Auth
