import Fabricd.Faults

/-!
# The verdicts of the `auth` backend

What a call of the backend asks the issuer, where a token is sent, and what the answer of
that very call makes of its result.
-/

namespace Fabricd.Auth

open Framework Http

/-! ## Exchanges -/

/-- What the transport makes of a request: its error, or the status and the body, which may
be cut short. -/
abbrev Answer := Except String (UInt16 × Except String String)

structure Exchange where
  request : Request
  answer : Answer

def exchanges (es : List (Event Fx)) : List Exchange :=
  es.filterMap fun e =>
    match e with
    | ⟨⟨.auth (.send _ request), _⟩, answer⟩ => some ⟨request, answer⟩
    | _ => none

def Exchange.event (client : ClientId) (x : Exchange) : Event Fx :=
  ⟨⟨.auth (.send client x.request), none⟩, x.answer⟩

@[simp] theorem exchanges_events (client : ClientId) (xs : List Exchange) :
    exchanges (xs.map (Exchange.event client)) = xs := by
  induction xs with
  | nil => rfl
  | cons x xs ih => exact congrArg (x :: ·) ih

@[simp] theorem exchanges_nil : exchanges [] = [] := rfl

@[simp] theorem exchanges_append (es fs : List (Event Fx)) :
    exchanges (es ++ fs) = exchanges es ++ exchanges fs :=
  List.filterMap_append

@[simp] theorem exchanges_tick (t : Instant) (es : List (Event Fx)) :
    exchanges (tick t :: es) = exchanges es := rfl

/-- The status and the body of a complete answer, else the error a call ends with. -/
def received : Answer → Except AuthError (UInt16 × String)
  | .error err => .error (.fromTransport err)
  | .ok (status, .ok body) => .ok (status, body)
  | .ok (_, .error err) => .error (.new authUnavailable s!"failed to read response: {err}")

/-- The endpoints a discovery answer holds. -/
def readEndpoints (lib : Lib) (answer : Answer) : Except AuthError Endpoints := do
  let (status, body) ← received answer
  if !isSuccess status then
    .error (.withStatus authRequest "OIDC discovery failed" status)
  else
    let doc ← (lib.fromStr body).mapError fun err => .new authRequest s!"invalid discovery document: {err}"
    return {
      userinfo := stringField doc "userinfo_endpoint"
      introspect := stringField doc "introspection_endpoint" }

/-- How an action reaches its endpoint and reads the answer. -/
structure Access where
  override : AuthConfig → Option String
  pick : Endpoints → Option String
  missing : String
  request : AuthConfig → String → String → Request
  /-- The statuses answered in-band. -/
  inBand : UInt16 → Bool
  unavailable : String
  failed : String

def userinfo : Access where
  override := AuthConfig.userinfoUrl
  pick := Endpoints.userinfo
  missing := "issuer exposes no userinfo_endpoint"
  request _ token url := .get url (some token)
  inBand status := status = 401 ∨ status = 403
  unavailable := "userinfo unavailable"
  failed := "userinfo request failed"

def introspection : Access where
  override := AuthConfig.introspectUrl
  pick := Endpoints.introspect
  missing := "issuer exposes no introspection_endpoint"
  request config token url :=
    .postForm url config.clientId config.clientSecret ("token=" ++ Mongo.encode token)
  inBand _ := false
  unavailable := "introspection unavailable"
  failed := "introspection request failed"

namespace Access

/-- What the endpoint's answer makes of a call. -/
def read (access : Access) (lib : Lib) (answer : Answer) : Except AuthError AuthOutcome := do
  let (status, body) ← received answer
  if isSuccess status then
    let claims ← parseClaims lib body status
    return { json := okClaimsJson lib claims, status }
  else if access.inBand status then
    return { json := invalidTokenJson lib status, status }
  else if isServerError status then
    .error (.withStatus authUnavailable access.unavailable status)
  else
    .error (.withStatus authRequest access.failed status)

/-- The endpoint discovery gives an action. -/
def endpoint (access : Access) (endpoints : Endpoints) : Except AuthError String :=
  match access.pick endpoints with
  | some url => .ok url
  | none => .error (.new authRequest access.missing)

/-- A call of an action: its endpoint, then the request. -/
def call (access : Access) (lib : Lib) (state : AuthState) (token : String) :
    Fab (Except AuthError AuthOutcome × AuthState) := do
  let (found, state) ← state.resolveEndpoint lib (access.override state.config) access.pick access.missing
  match found with
  | .error err => return (.error err, state)
  | .ok url =>
    let answer : Answer ← ask (.auth (.send state.client (access.request state.config token url)))
    return (access.read lib answer, state)

end Access

def discoveryRequest (config : AuthConfig) : Request :=
  .get (trimEndSlashes config.issuer ++ "/.well-known/openid-configuration") none

/-! ## What one call does -/

section

variable {lib : Lib} {state later : AuthState} {token : String} {es : List (Event Fx)}

private theorem send_read {α : Type} {client : ClientId} {request : Request}
    {f : UInt16 × String → FabE AuthError α} {g : UInt16 × String → Except AuthError α}
    (hf : ∀ got, (f got).run = .ret (g got)) :
    (send client request >>= f).run =
      ask (.auth (.send client request)) >>= fun answer => .ret (received answer >>= g) := by
  refine congrArg (Prog.act _) (funext fun answer => ?_)
  rcases answer with err | ⟨status, err | body⟩
  · rfl
  · rfl
  · exact hf (status, body)

private theorem fetchDiscovery_eq (lib : Lib) (state : AuthState) :
    (state.fetchDiscovery lib).run =
      ask (.auth (.send state.client (discoveryRequest state.config))) >>= fun answer =>
        .ret (readEndpoints lib answer) := by
  apply send_read
  intro ⟨status, body⟩
  dsimp only
  by_cases hstatus : (!isSuccess status) = true
  · simp only [if_pos hstatus]
    rfl
  · simp only [if_neg hstatus]
    cases lib.fromStr body <;> rfl

private theorem userInfoAt_eq (lib : Lib) (config : AuthConfig) (client : ClientId)
    (url token : String) :
    (userInfoAt lib client url token).run =
      ask (.auth (.send client (userinfo.request config token url))) >>= fun answer =>
        .ret (userinfo.read lib answer) := by
  apply send_read
  intro ⟨status, body⟩
  dsimp only [userinfo]
  by_cases hsuccess : isSuccess status = true
  · simp only [if_pos hsuccess]
    cases parseClaims lib body status <;> rfl
  · simp only [if_neg hsuccess, decide_eq_true_eq]
    by_cases hband : status = 401 ∨ status = 403
    · simp only [if_pos hband]
      rfl
    · simp only [if_neg hband]
      by_cases hserver : isServerError status = true
      · simp only [if_pos hserver]
        rfl
      · simp only [if_neg hserver]
        rfl

private theorem introspectAt_eq (lib : Lib) (state : AuthState) (url token : String) :
    (introspectAt lib state url token).run =
      ask (.auth (.send state.client (introspection.request state.config token url))) >>=
        fun answer => .ret (introspection.read lib answer) := by
  apply send_read
  intro ⟨status, body⟩
  dsimp only [introspection]
  by_cases hsuccess : isSuccess status = true
  · simp only [if_pos hsuccess]
    cases parseClaims lib body status <;> rfl
  · simp only [if_neg hsuccess, Bool.false_eq_true, if_false]
    by_cases hserver : isServerError status = true
    · simp only [if_pos hserver]
      rfl
    · simp only [if_neg hserver]
      rfl

private theorem doUserInfo_eq (lib : Lib) (state : AuthState) (token : String) :
    doUserInfo lib state token = userinfo.call lib state token := by
  refine congrArg (state.resolveUserinfo lib >>= ·) (funext fun r => ?_)
  obtain ⟨found, state'⟩ := r
  cases found with
  | error err => rfl
  | ok url =>
    have hat := userInfoAt_eq lib state'.config state'.client url token
    exact congrArg (· >>= fun result => .ret (result, state')) hat

private theorem doIntrospect_eq (lib : Lib) (state : AuthState) (token : String) :
    doIntrospect lib state token =
      if state.config.clientId.isEmpty then
        .ret (.error (.new authRequest "introspect requires config.auth.client_id/client_secret"), state)
      else introspection.call lib state token := by
  unfold doIntrospect
  split
  · rfl
  · refine congrArg (state.resolveIntrospect lib >>= ·) (funext fun r => ?_)
    obtain ⟨found, state'⟩ := r
    cases found with
    | error err => rfl
    | ok url =>
      have hat := introspectAt_eq lib state' url token
      exact congrArg (· >>= fun result => .ret (result, state')) hat

end

/-- Whether discovery is asked, and the memo it leaves: only if the endpoint is not
configured and the memo is empty. -/
inductive Discovery (lib : Lib) (config : AuthConfig) (override : Option String)
    (memo : Option Endpoints) : List Exchange → Option Endpoints → Prop where
  | spared (h : override ≠ none ∨ memo ≠ none) : Discovery lib config override memo [] memo
  | asked (hoverride : override = none) (hmemo : memo = none) (answer : Answer) :
      Discovery lib config override memo [⟨discoveryRequest config, answer⟩]
        (readEndpoints lib answer).toOption

namespace Access

/-- The endpoint an action has under a memo. -/
def endpointIn (access : Access) (config : AuthConfig) (memo : Option Endpoints) : Option String :=
  (access.override config).or (memo.bind access.pick)

/-- The request that bears the token, if there is an endpoint to send it to. -/
inductive Asked (access : Access) (lib : Lib) (config : AuthConfig) (token : String) :
    Option String → List Exchange → Except AuthError AuthOutcome → Prop where
  | nowhere (err : AuthError) : Asked access lib config token none [] (.error err)
  | endpoint (url : String) (answer : Answer) :
      Asked access lib config token (some url) [⟨access.request config token url, answer⟩]
        (access.read lib answer)

/-- One call of an action: the memo it finds, its exchanges, its result and the memo it leaves. -/
structure Ran (access : Access) (lib : Lib) (config : AuthConfig) (token : String)
    (memo : Option Endpoints) (ds ts : List Exchange) (result : Except AuthError AuthOutcome)
    (left : Option Endpoints) : Prop where
  discovery : Discovery lib config (access.override config) memo ds left
  asked : access.Asked lib config token (access.endpointIn config left) ts result
  failed : ∀ x ∈ ds, ∀ err, readEndpoints lib x.answer = .error err → result = .error err

end Access

section

variable {lib : Lib} {access : Access} {state later : AuthState} {token : String}
  {es : List (Event Fx)}

/-- How an action finds its endpoint: what it asks, what comes of it and the state left. -/
structure Located (access : Access) (lib : Lib) (state : AuthState) (ds : List Exchange)
    (found : Except AuthError String) (later : AuthState) : Prop where
  config : later.config = state.config
  client : later.client = state.client
  discovery : Discovery lib state.config (access.override state.config) state.discovery ds
    later.discovery
  ok : ∀ url, found = .ok url → access.endpointIn state.config later.discovery = some url
  error : ∀ err, found = .error err → access.endpointIn state.config later.discovery = none
  failed : ∀ x ∈ ds, ∀ err, readEndpoints lib x.answer = .error err → found = .error err

private theorem picked (state : AuthState) {endpoints : Endpoints} {found : Except AuthError String}
    (hoverride : access.override state.config = none) (hmemo : state.discovery = some endpoints)
    (hrun : Prog.Steps (match access.pick endpoints with
      | some url => pure (.ok url, state)
      | none => pure (.error (.new authRequest access.missing), state)) es (.ret (found, later))) :
    es = [] ∧ later = state ∧
      (∀ url, found = .ok url → access.endpointIn state.config state.discovery = some url) ∧
      ∀ err, found = .error err → access.endpointIn state.config state.discovery = none := by
  have hendpoint : access.endpointIn state.config state.discovery = access.pick endpoints := by
    rw [Access.endpointIn, hoverride, hmemo]
    rfl
  rw [hendpoint]
  cases hpick : access.pick endpoints with
  | some url =>
    rw [hpick] at hrun
    obtain ⟨rfl, hret⟩ := Prog.steps_ret hrun
    cases hret
    exact ⟨rfl, rfl, fun url' h => by cases h; rfl, nofun⟩
  | none =>
    rw [hpick] at hrun
    obtain ⟨rfl, hret⟩ := Prog.steps_ret hrun
    cases hret
    exact ⟨rfl, rfl, nofun, fun _ _ => rfl⟩

private theorem resolveEndpoint_located {found : Except AuthError String}
    (hrun : Prog.Steps (state.resolveEndpoint lib (access.override state.config) access.pick
      access.missing) es (.ret (found, later))) :
    ∃ ds, es = ds.map (Exchange.event state.client) ∧ Located access lib state ds found later := by
  unfold AuthState.resolveEndpoint at hrun
  cases hoverride : access.override state.config with
  | some url =>
    rw [hoverride] at hrun
    obtain ⟨rfl, hret⟩ := Prog.steps_ret hrun
    cases hret
    refine ⟨[], rfl, rfl, rfl, .spared (.inl (by simp [hoverride])), fun url' h => ?_, nofun, nofun⟩
    cases h
    simp [Access.endpointIn, hoverride]
  | none =>
    rw [hoverride] at hrun
    unfold AuthState.discover at hrun
    cases hmemo : state.discovery with
    | some endpoints =>
      rw [hmemo] at hrun
      obtain ⟨rfl, rfl, hok, herror⟩ := picked state hoverride hmemo hrun
      exact ⟨[], rfl, rfl, rfl, .spared (.inr (by simp [hmemo])), hok, herror, nofun⟩
    | none =>
      rw [hmemo] at hrun
      obtain ⟨fs, gs, ⟨endpoints, state'⟩, rfl, hdiscover, hpicked⟩ := Prog.steps_bind_ret hrun
      obtain ⟨es, rest, fetched, rfl, hfetch, hkeep⟩ := Prog.steps_bind_ret hdiscover
      rw [fetchDiscovery_eq] at hfetch
      obtain ⟨answer, none, rfl, hfetched⟩ := steps_ask hfetch
      obtain ⟨rfl, hret⟩ := Prog.steps_ret hfetched
      cases hret
      have hasked : Discovery lib state.config (access.override state.config) state.discovery
          [⟨discoveryRequest state.config, answer⟩] (readEndpoints lib answer).toOption :=
        .asked hoverride hmemo answer
      cases hread : readEndpoints lib answer with
      | error err =>
        rw [hread] at hkeep hasked
        obtain ⟨rfl, hret⟩ := Prog.steps_ret hkeep
        cases hret
        obtain ⟨rfl, hret⟩ := Prog.steps_ret hpicked
        cases hret
        refine ⟨[⟨discoveryRequest state.config, answer⟩], rfl, rfl, rfl, ?_, nofun, fun err' h => ?_, ?_⟩
        · have hleft : (Except.error err : Except AuthError Endpoints).toOption = state.discovery :=
            hmemo.symm
          rwa [hleft] at hasked
        · rw [Access.endpointIn, hoverride, hmemo]
          rfl
        · simp [hread]
      | ok endpoints =>
        rw [hread] at hkeep hasked
        obtain ⟨rfl, hret⟩ := Prog.steps_ret hkeep
        cases hret
        obtain ⟨rfl, rfl, hok, herror⟩ :=
          picked { state with discovery := some endpoints } hoverride rfl hpicked
        refine ⟨[⟨discoveryRequest state.config, answer⟩], rfl, rfl, rfl, hasked, hok, herror, ?_⟩
        simp [hread]

private theorem call_ran {result : Except AuthError AuthOutcome}
    (hrun : Prog.Steps (access.call lib state token) es (.ret (result, later))) :
    later.config = state.config ∧ ∃ ds ts, es = (ds ++ ts).map (Exchange.event state.client) ∧
      access.Ran lib state.config token state.discovery ds ts result later.discovery := by
  obtain ⟨fs, gs, ⟨found, state'⟩, rfl, hfound, hrest⟩ := Prog.steps_bind_ret hrun
  obtain ⟨ds, rfl, hlocated⟩ := resolveEndpoint_located hfound
  cases found with
  | error err =>
    obtain ⟨rfl, hret⟩ := Prog.steps_ret hrest
    cases hret
    refine ⟨hlocated.config, ds, [], by simp, hlocated.discovery, ?_, fun x hx err' h => ?_⟩
    · rw [hlocated.error err rfl]
      exact .nowhere err
    · cases hlocated.failed x hx err' h
      rfl
  | ok url =>
    obtain ⟨client, config, left⟩ := state'
    obtain rfl : client = state.client := hlocated.client
    obtain rfl : config = state.config := hlocated.config
    obtain ⟨answer, rest, rfl, hret⟩ := steps_ask hrest
    obtain ⟨rfl, hret⟩ := Prog.steps_ret hret
    cases hret
    refine ⟨rfl, ds, [⟨access.request state.config token url, answer⟩], ?_,
      hlocated.discovery, ?_, fun x hx err h => ?_⟩
    · simp [Exchange.event]
    · rw [hlocated.ok url rfl]
      exact .endpoint url answer
    · cases hlocated.failed x hx err h

end

def accessOf (config : AuthConfig) : String → Option Access
  | "user_info" => some userinfo
  | "introspect" => if config.clientId.isEmpty then none else some introspection
  | _ => none

/-- One call: it runs its action, or fails without a request. -/
inductive Called (lib : Lib) (config : AuthConfig) (action token : String) (memo : Option Endpoints) :
    List Exchange → Except AuthError AuthOutcome → Option Endpoints → Prop where
  | reached {access : Access} {ds ts : List Exchange} {outcome : Except AuthError AuthOutcome}
      {left : Option Endpoints} (haccess : accessOf config action = some access)
      (hran : access.Ran lib config token memo ds ts outcome left) :
      Called lib config action token memo (ds ++ ts) outcome left
  | unreached (err : AuthError) (haccess : accessOf config action = none) :
      Called lib config action token memo [] (.error err) memo

private theorem dispatch_called {lib : Lib} {state later : AuthState} {action token : String}
    {es : List (Event Fx)} {outcome : Except AuthError AuthOutcome}
    (hrun : Prog.Steps (dispatch lib state action token) es (.ret (outcome, later))) :
    later.config = state.config ∧ ∃ xs, es = xs.map (Exchange.event state.client) ∧
      Called lib state.config action token state.discovery xs outcome later.discovery := by
  unfold dispatch at hrun
  split at hrun
  · rw [doUserInfo_eq] at hrun
    obtain ⟨hconfig, ds, ts, rfl, hran⟩ := call_ran hrun
    exact ⟨hconfig, ds ++ ts, rfl, .reached rfl hran⟩
  · rw [doIntrospect_eq] at hrun
    split at hrun
    case isTrue hempty =>
      obtain ⟨rfl, hret⟩ := Prog.steps_ret hrun
      cases hret
      exact ⟨rfl, [], rfl, .unreached _ (if_pos hempty)⟩
    case isFalse hempty =>
      obtain ⟨hconfig, ds, ts, rfl, hran⟩ := call_ran hrun
      exact ⟨hconfig, ds ++ ts, rfl, .reached (if_neg hempty) hran⟩
  case h_3 huser hintrospect =>
    obtain ⟨rfl, hret⟩ := Prog.steps_ret hrun
    cases hret
    refine ⟨rfl, [], rfl, .unreached _ ?_⟩
    unfold accessOf
    split
    · exact absurd rfl huser
    · exact absurd rfl hintrospect
    · rfl

theorem call_called {lib : Lib} {backend last : AuthBackend} {action token : String}
    {es : List (Event Fx)} {result : Except EgressError String}
    (hrun : Prog.Steps (backend.call lib action token) es (.ret (result, last))) :
    last.state.config = backend.state.config ∧
      ∃ outcome, result = (outcome.map AuthOutcome.json).mapError AuthError.intoResourceError ∧
        Called lib backend.state.config action token backend.state.discovery (exchanges es) outcome
          last.state.discovery := by
  obtain ⟨start, rest, rfl, hrest⟩ := steps_now hrun
  obtain ⟨inner, after, ⟨outcome, state⟩, rfl, hinner, hafter⟩ := Prog.steps_bind_ret hrest
  obtain ⟨built, done, metric, rfl, hbuilt, hdone⟩ := Prog.steps_bind_ret hafter
  obtain ⟨stop, last, rfl, hstop⟩ := steps_now hbuilt
  obtain ⟨rfl, -⟩ := Prog.steps_ret hstop
  obtain ⟨rfl, hret⟩ := Prog.steps_ret hdone
  cases hret
  obtain ⟨hconfig, xs, rfl, hcalled⟩ := dispatch_called hinner
  refine ⟨hconfig, outcome, rfl, ?_⟩
  simpa using hcalled

/-! ## Reading an answer -/

/-- What an endpoint's answer can make of a call. -/
inductive Access.Reading (access : Access) (lib : Lib) : Answer → Except AuthError AuthOutcome → Prop where
  | lost {answer : Answer} {err : AuthError} (h : received answer = .error err) :
      Reading access lib answer (.error err)
  | claims {status : UInt16} {body : String} {claims : Json} (hsuccess : isSuccess status = true)
      (h : lib.fromStr body = .ok claims) :
      Reading access lib (.ok (status, .ok body)) (.ok ⟨okClaimsJson lib claims, status⟩)
  | garbled {status : UInt16} {body err : String} (hsuccess : isSuccess status = true)
      (h : lib.fromStr body = .error err) :
      Reading access lib (.ok (status, .ok body))
        (.error (.withStatus authRequest s!"invalid claims JSON: {err}" status))
  | invalid {status : UInt16} (body : String) (hsuccess : isSuccess status = false)
      (h : access.inBand status = true) :
      Reading access lib (.ok (status, .ok body)) (.ok ⟨invalidTokenJson lib status, status⟩)
  | server {status : UInt16} (body : String) (hsuccess : isSuccess status = false)
      (hband : access.inBand status = false) (h : isServerError status = true) :
      Reading access lib (.ok (status, .ok body))
        (.error (.withStatus authUnavailable access.unavailable status))
  | other {status : UInt16} (body : String) (hsuccess : isSuccess status = false)
      (hband : access.inBand status = false) (h : isServerError status = false) :
      Reading access lib (.ok (status, .ok body))
        (.error (.withStatus authRequest access.failed status))

theorem Access.reading (access : Access) (lib : Lib) (answer : Answer) :
    access.Reading lib answer (access.read lib answer) := by
  rcases answer with err | ⟨status, err | body⟩
  · exact .lost rfl
  · exact .lost rfl
  · have hread : access.read lib (.ok (status, .ok body)) =
        if isSuccess status then
          (parseClaims lib body status).map fun claims => ⟨okClaimsJson lib claims, status⟩
        else if access.inBand status then .ok ⟨invalidTokenJson lib status, status⟩
        else if isServerError status then
          .error (.withStatus authUnavailable access.unavailable status)
        else .error (.withStatus authRequest access.failed status) := rfl
    rw [hread]
    cases hsuccess : isSuccess status with
    | true =>
      rw [if_pos rfl]
      unfold parseClaims
      cases hbody : lib.fromStr body with
      | ok claims => exact .claims hsuccess hbody
      | error err => exact .garbled hsuccess hbody
    | false =>
      rw [if_neg Bool.false_ne_true]
      cases hband : access.inBand status with
      | true => exact .invalid body hsuccess hband
      | false =>
        rw [if_neg Bool.false_ne_true]
        cases hserver : isServerError status with
        | true => exact .server body hsuccess hband hserver
        | false => exact .other body hsuccess hband hserver

def okClaims (claims : Json) : Json := .object [("ok", .bool true), ("claims", claims)]

def invalidToken (status : UInt16) : Json :=
  .object [("ok", .bool false), ("status", .ofUsize status.toNat), ("code", .string "AUTH_INVALID_TOKEN")]

/-- `serde_json` writes both objects, and no text for two values. -/
structure Writes (lib : Lib) : Prop where
  okClaims : ∀ {body claims}, lib.fromStr body = .ok claims → ∃ text, lib.toStr (okClaims claims) = .ok text
  invalidToken : ∀ {status}, status = 401 ∨ status = 403 → ∃ text, lib.toStr (invalidToken status) = .ok text
  unique : ∀ {value value' text}, lib.toStr value = .ok text → lib.toStr value' = .ok text → value = value'

private theorem encode_of_ok {lib : Lib} {value : Json} {text : String}
    (h : lib.toStr value = .ok text) :
    encode lib value = text := by
  rw [encode, h]

/-- The text says that the token is valid, with these claims. -/
def Grants (lib : Lib) (claims : Json) (text : String) : Prop := lib.toStr (okClaims claims) = .ok text

/-- The text is an object that says `"ok": false`. -/
def Denies (lib : Lib) (text : String) : Prop :=
  ∃ value, lib.toStr value = .ok text ∧ value.get "ok" = some (.bool false)

section

variable {lib : Lib} {access : Access} {answer : Answer} {claims : Json}

private theorem read_grants (hwrites : Writes lib)
    (hband : ∀ status, access.inBand status = true → status = 401 ∨ status = 403) :
    (∃ out, access.read lib answer = .ok out ∧ Grants lib claims out.json) ↔
      ∃ status body, answer = .ok (status, .ok body) ∧ isSuccess status = true ∧
        lib.fromStr body = .ok claims := by
  have hreading := access.reading lib answer
  constructor
  · rintro ⟨out, hread, hgrants⟩
    rw [hread] at hreading
    cases hreading with
    | @claims status body claims' hsuccess hbody =>
      obtain ⟨text, htext⟩ := hwrites.okClaims hbody
      have hsame : lib.toStr (okClaims claims) = .ok text := by
        rw [hgrants]
        exact congrArg Except.ok (encode_of_ok htext)
      cases hwrites.unique hsame htext
      exact ⟨status, body, rfl, hsuccess, hbody⟩
    | @invalid status body hsuccess h =>
      obtain ⟨text, htext⟩ := hwrites.invalidToken (hband status h)
      have hsame : lib.toStr (okClaims claims) = .ok text := by
        rw [hgrants]
        exact congrArg Except.ok (encode_of_ok htext)
      cases hwrites.unique hsame htext
  · rintro ⟨status, body, rfl, hsuccess, hbody⟩
    obtain ⟨text, htext⟩ := hwrites.okClaims hbody
    generalize access.read lib (.ok (status, .ok body)) = result at hreading ⊢
    cases hreading with
    | lost h => cases h
    | claims hsuccess' hbody' =>
      cases hbody.symm.trans hbody'
      refine ⟨_, rfl, ?_⟩
      rw [Grants, htext]
      exact congrArg Except.ok (encode_of_ok htext).symm
    | garbled hsuccess' hbody' => cases hbody.symm.trans hbody'
    | invalid body hfail h => cases hsuccess.symm.trans hfail
    | server body hfail hband h => cases hsuccess.symm.trans hfail
    | other body hfail hband h => cases hsuccess.symm.trans hfail

private theorem read_denies (hwrites : Writes lib)
    (hband : ∀ status, access.inBand status = true → status = 401 ∨ status = 403) :
    (∃ out, access.read lib answer = .ok out ∧ Denies lib out.json) ↔
      ∃ status body, answer = .ok (status, .ok body) ∧ access.inBand status = true := by
  have hreading := access.reading lib answer
  constructor
  · rintro ⟨out, hread, value, hvalue, hfalse⟩
    rw [hread] at hreading
    cases hreading with
    | claims hsuccess hbody =>
      obtain ⟨text, htext⟩ := hwrites.okClaims hbody
      have hsame : lib.toStr value = .ok text := by
        rw [hvalue]
        exact congrArg Except.ok (encode_of_ok htext)
      cases hwrites.unique hsame htext
      cases hfalse
    | invalid body hsuccess h => exact ⟨_, body, rfl, h⟩
  · rintro ⟨status, body, rfl, hstatus⟩
    have hfail : isSuccess status = false := by
      rcases hband status hstatus with rfl | rfl <;> decide
    obtain ⟨text, htext⟩ := hwrites.invalidToken (hband status hstatus)
    generalize access.read lib (.ok (status, .ok body)) = result at hreading ⊢
    cases hreading with
    | lost h => cases h
    | claims hsuccess hbody => cases hsuccess.symm.trans hfail
    | garbled hsuccess hbody => cases hsuccess.symm.trans hfail
    | invalid body hsuccess h =>
      refine ⟨_, rfl, invalidToken status, ?_, rfl⟩
      rw [htext]
      exact congrArg Except.ok (encode_of_ok htext).symm
    | server body hsuccess hnot h => cases hstatus.symm.trans hnot
    | other body hsuccess hnot h => cases hstatus.symm.trans hnot

end

/-! ## Calls one after another -/

/-- A call of a backend, with what was seen of it. -/
structure Turn where
  action : String
  token : String
  es : List (Event Fx)
  result : Except EgressError String

/-- Calls of one backend, one after another. -/
inductive Life (lib : Lib) : AuthBackend → List Turn → AuthBackend → Prop where
  | start (backend : AuthBackend) : Life lib backend [] backend
  | call {backend later last : AuthBackend} {turns : List Turn} {action token : String}
      {es : List (Event Fx)} {result : Except EgressError String} (life : Life lib backend turns later)
      (hrun : Prog.Steps (later.call lib action token) es (.ret (result, last))) :
      Life lib backend (turns ++ [⟨action, token, es, result⟩]) last

/-- The endpoints of a discovery that succeeded. -/
def Exchange.endpoints (lib : Lib) (config : AuthConfig) (x : Exchange) : Option Endpoints :=
  if x.request = discoveryRequest config then (readEndpoints lib x.answer).toOption else none

def Turn.discovered (lib : Lib) (config : AuthConfig) (turn : Turn) : List Endpoints :=
  (exchanges turn.es).filterMap (Exchange.endpoints lib config)

/-- What discovery found first in a run. -/
def found (lib : Lib) (config : AuthConfig) (turns : List Turn) : Option Endpoints :=
  (turns.flatMap (Turn.discovered lib config)).head?

section

variable {lib : Lib} {config : AuthConfig} {access : Access} {action token : String}
  {memo left : Option Endpoints} {xs : List Exchange} {outcome : Except AuthError AuthOutcome}

theorem accessOf_cases (haccess : accessOf config action = some access) :
    action = "user_info" ∧ access = userinfo ∨
      action = "introspect" ∧ access = introspection ∧ config.clientId.isEmpty = false := by
  unfold accessOf at haccess
  split at haccess
  · cases haccess
    exact .inl ⟨rfl, rfl⟩
  · split at haccess
    · cases haccess
    · rename_i hid
      cases haccess
      exact .inr ⟨rfl, rfl, by simpa using hid⟩
  · cases haccess

theorem request_ne (haccess : accessOf config action = some access) (url : String) :
    access.request config token url ≠ discoveryRequest config := by
  rcases accessOf_cases haccess with ⟨-, rfl⟩ | ⟨-, rfl, -⟩
  · intro h
    cases h
  · intro h
    cases h

theorem Access.Asked.requests {endpoint : Option String} {ts : List Exchange}
    (h : access.Asked lib config token endpoint ts outcome) :
    ∀ x ∈ ts, ∃ url, endpoint = some url ∧ x.request = access.request config token url := by
  cases h with
  | nowhere err => simp
  | endpoint url answer => simp

private theorem discovered_asked (haccess : accessOf config action = some access)
    {endpoint : Option String}
    {ts : List Exchange} (h : access.Asked lib config token endpoint ts outcome) :
    ts.filterMap (Exchange.endpoints lib config) = [] := by
  apply List.filterMap_eq_nil_iff.mpr
  intro x hx
  obtain ⟨url, -, hrequest⟩ := h.requests x hx
  exact if_neg (hrequest ▸ request_ne haccess url)

/-- What one call does to the memo: it keeps it, or fills it from the one discovery it makes. -/
theorem Called.left_eq (h : Called lib config action token memo xs outcome left) :
    left.toList = memo.toList ++ xs.filterMap (Exchange.endpoints lib config) := by
  cases h with
  | unreached err haccess => simp
  | reached haccess hran =>
    rw [List.filterMap_append, discovered_asked haccess hran.asked, List.append_nil]
    cases hran.discovery with
    | spared h => simp
    | asked hoverride hmemo answer =>
      subst hmemo
      cases hread : readEndpoints lib answer with
      | error err => simp [Exchange.endpoints, hread, Except.toOption]
      | ok endpoints => simp [Exchange.endpoints, hread, Except.toOption]

end

section

variable {lib : Lib} {backend last : AuthBackend} {turns : List Turn}

/-- The memo is what the run has discovered. -/
theorem Life.memo (hlife : Life lib backend turns last) (hfresh : backend.state.discovery = none) :
    last.state.config = backend.state.config ∧
      last.state.discovery.toList = turns.flatMap (Turn.discovered lib backend.state.config) := by
  induction hlife with
  | start => simp [hfresh]
  | call life hrun ih =>
    obtain ⟨hconfig, outcome, -, hcalled⟩ := call_called hrun
    rw [ih.1] at hconfig hcalled
    refine ⟨hconfig, ?_⟩
    rw [hcalled.left_eq, ih.2]
    simp [Turn.discovered]

private theorem Life.found_eq (hlife : Life lib backend turns last)
    (hfresh : backend.state.discovery = none) :
    found lib backend.state.config turns = last.state.discovery := by
  rw [found, ← (hlife.memo hfresh).2, Option.head?_toList]

/-- Each call of a run finds and leaves what the run has discovered so far. -/
theorem Life.called (hlife : Life lib backend turns last) (hfresh : backend.state.discovery = none)
    {i : Nat} {turn : Turn} (hturn : turns[i]? = some turn) :
    ∃ outcome, turn.result = (outcome.map AuthOutcome.json).mapError AuthError.intoResourceError ∧
      Called lib backend.state.config turn.action turn.token
        (found lib backend.state.config (turns.take i)) (exchanges turn.es) outcome
        (found lib backend.state.config (turns.take (i + 1))) := by
  induction hlife with
  | start => simp at hturn
  | @call later last turns action token es result life hrun ih =>
    rcases getElem?_snoc hturn with hold | ⟨rfl, rfl⟩
    · have hlt : i < turns.length := (List.getElem?_eq_some_iff.mp hold).1
      rw [List.take_append_of_le_length hlt.le, List.take_append_of_le_length hlt]
      exact ih hold
    · obtain ⟨hconfig, outcome, hresult, hcalled⟩ := call_called hrun
      rw [(life.memo hfresh).1] at hcalled
      have hnext := (life.call hrun).found_eq hfresh
      have htake : (turns ++ [Turn.mk action token es result]).take (turns.length + 1) =
          turns ++ [⟨action, token, es, result⟩] := List.take_of_length_le (by simp)
      refine ⟨outcome, hresult, ?_⟩
      rwa [List.take_left, htake, life.found_eq hfresh, hnext]

end

/-! ## Verdicts -/

def Turn.Grants (lib : Lib) (claims : Json) (turn : Turn) : Prop :=
  ∃ text, turn.result = .ok text ∧ Auth.Grants lib claims text

def Turn.Denies (lib : Lib) (turn : Turn) : Prop :=
  ∃ text, turn.result = .ok text ∧ Auth.Denies lib text

/-- The endpoint answered this turn's request in full. -/
def Turn.Answered (config : AuthConfig) (access : Access) (endpoint : Option String) (turn : Turn)
    (status : UInt16) (body : String) : Prop :=
  ∃ url, endpoint = some url ∧
    ⟨access.request config turn.token url, .ok (status, .ok body)⟩ ∈ exchanges turn.es

/-- The result of a turn is what its own endpoint made of its own token. -/
structure Turn.Judged (lib : Lib) (config : AuthConfig) (access : Access) (endpoint : Option String)
    (turn : Turn) : Prop where
  granted : ∀ claims, turn.Grants lib claims ↔ ∃ status body,
    turn.Answered config access endpoint status body ∧ isSuccess status = true ∧
      lib.fromStr body = .ok claims
  denied : turn.Denies lib ↔ ∃ status body,
    turn.Answered config access endpoint status body ∧ access.inBand status = true
  otherwise : (∀ claims, ¬turn.Grants lib claims) → ¬turn.Denies lib → ∃ err, turn.result = .error err

section

variable {lib : Lib} {config : AuthConfig} {access : Access} {turn : Turn}
  {memo left : Option Endpoints} {ds ts : List Exchange} {outcome : Except AuthError AuthOutcome}

private theorem result_ok {text : String} :
    (outcome.map AuthOutcome.json).mapError AuthError.intoResourceError = .ok text ↔
      ∃ out, outcome = .ok out ∧ out.json = text := by
  cases outcome <;> simp [Except.map, Except.mapError]

theorem accessOf_inBand {action : String} (haccess : accessOf config action = some access)
    (status : UInt16)
    (h : access.inBand status = true) : status = 401 ∨ status = 403 := by
  rcases accessOf_cases haccess with ⟨-, rfl⟩ | ⟨-, rfl, -⟩
  · exact of_decide_eq_true h
  · cases h

theorem Discovery.request {override : Option String} (h : Discovery lib config override memo ds left) :
    ∀ x ∈ ds, x.request = discoveryRequest config := by
  cases h <;> simp

private theorem Discovery.asked_iff {override : Option String}
    (h : Discovery lib config override memo ds left) :
    (∃ x ∈ ds, x.request = discoveryRequest config) ↔ override = none ∧ memo = none := by
  cases h with
  | spared h =>
    constructor
    · rintro ⟨x, hx, -⟩
      cases hx
    · rintro ⟨hoverride, hmemo⟩
      rcases h with h | h
      · exact absurd hoverride h
      · exact absurd hmemo h
  | asked hoverride hmemo answer => simp [hoverride, hmemo]

private theorem Access.Ran.judged (hwrites : Writes lib)
    (haccess : accessOf config turn.action = some access)
    (hran : access.Ran lib config turn.token memo ds ts outcome left)
    (hxs : exchanges turn.es = ds ++ ts)
    (hresult : turn.result = (outcome.map AuthOutcome.json).mapError AuthError.intoResourceError) :
    turn.Judged lib config access (access.endpointIn config left) := by
  have htext (T : String → Prop) :
      (∃ text, turn.result = .ok text ∧ T text) ↔ ∃ out, outcome = .ok out ∧ T out.json := by
    simp only [hresult, result_ok]
    constructor
    · rintro ⟨text, ⟨out, hout, rfl⟩, hT⟩
      exact ⟨out, hout, hT⟩
    · rintro ⟨out, hout, hT⟩
      exact ⟨out.json, ⟨out, hout, rfl⟩, hT⟩
  have hasked := hran.asked
  generalize access.endpointIn config left = endpoint at hasked ⊢
  cases hasked with
  | nowhere err =>
    have hnone : ∀ status body, ¬turn.Answered config access none status body :=
      fun status body ⟨url, hurl, _⟩ => nomatch hurl
    refine ⟨fun claims => ?_, ?_, fun _ _ => ⟨_, hresult⟩⟩
    · rw [Turn.Grants, htext]
      simp [hnone]
    · rw [Turn.Denies, htext]
      simp [hnone]
  | endpoint url answer =>
    have hanswered (status : UInt16) (body : String) :
        turn.Answered config access (some url) status body ↔ answer = .ok (status, .ok body) := by
      unfold Turn.Answered
      rw [hxs]
      constructor
      · rintro ⟨url', hurl, hmem⟩
        cases hurl
        rcases List.mem_append.mp hmem with hds | hts
        · exact absurd (hran.discovery.request _ hds) (request_ne haccess url)
        · cases List.mem_singleton.mp hts
          rfl
      · rintro rfl
        exact ⟨url, rfl, by simp⟩
    have hgrants (claims : Json) : turn.Grants lib claims ↔ ∃ status body,
        answer = .ok (status, .ok body) ∧ isSuccess status = true ∧ lib.fromStr body = .ok claims :=
      (htext _).trans (read_grants hwrites (accessOf_inBand haccess))
    have hdenies : turn.Denies lib ↔ ∃ status body,
        answer = .ok (status, .ok body) ∧ access.inBand status = true :=
      (htext _).trans (read_denies hwrites (accessOf_inBand haccess))
    simp only [← hanswered] at hgrants hdenies
    refine ⟨hgrants, hdenies, fun hno hnot => ?_⟩
    have hreading := access.reading lib answer
    cases hread : access.read lib answer with
    | error err =>
      rw [hread] at hresult
      exact ⟨_, hresult⟩
    | ok out =>
      rw [hread] at hreading
      cases hreading with
      | claims hsuccess hbody =>
        have hgranted := (hgrants _).mpr ⟨_, _, (hanswered _ _).mpr rfl, hsuccess, hbody⟩
        exact absurd hgranted (hno _)
      | invalid body hsuccess hband =>
        exact absurd (hdenies.mpr ⟨_, _, (hanswered _ _).mpr rfl, hband⟩) hnot

end

/-- What a turn does, given what the run had discovered before it and has after it. -/
structure Turn.Sound (lib : Lib) (config : AuthConfig) (before after : Option Endpoints) (turn : Turn) :
    Prop where
  userInfo : turn.action = "user_info" →
    turn.Judged lib config userinfo (userinfo.endpointIn config after)
  introspect : turn.action = "introspect" →
    ¬turn.Denies lib ∧ (config.clientId = "" → exchanges turn.es = [])
  discovers : (∃ x ∈ exchanges turn.es, x.request = discoveryRequest config) ↔
    before = none ∧ ∃ access, accessOf config turn.action = some access ∧ access.override config = none
  sends : ∀ x ∈ exchanges turn.es, x.request = discoveryRequest config ∨ ∃ access url,
    accessOf config turn.action = some access ∧ access.endpointIn config after = some url ∧
      x.request = access.request config turn.token url

theorem Called.sound {lib : Lib} {config : AuthConfig} {before after : Option Endpoints} {turn : Turn}
    {outcome : Except AuthError AuthOutcome} (hwrites : Writes lib)
    (h : Called lib config turn.action turn.token before (exchanges turn.es) outcome after)
    (hresult : turn.result = (outcome.map AuthOutcome.json).mapError AuthError.intoResourceError) :
    turn.Sound lib config before after := by
  generalize hxs : exchanges turn.es = xs at h
  cases h with
  | unreached err haccess =>
    have hfails : ∃ err, turn.result = .error err := ⟨_, hresult⟩
    refine ⟨fun haction => ?_, fun haction => ⟨?_, fun _ => hxs⟩, ?_, ?_⟩
    · rw [haction] at haccess
      cases haccess
    · rintro ⟨text, htext, -⟩
      cases hresult.symm.trans htext
    · simp [hxs, haccess]
    · simp [hxs]
  | @reached access ds ts outcome left haccess hran =>
    have hjudged := hran.judged hwrites haccess hxs hresult
    refine ⟨fun haction => ?_, fun haction => ?_, ?_, fun x hx => ?_⟩
    · rcases accessOf_cases haccess with ⟨-, rfl⟩ | ⟨hother, -, -⟩
      · exact hjudged
      · exact absurd (haction.symm.trans hother) (by decide)
    · rcases accessOf_cases haccess with ⟨hother, -⟩ | ⟨-, rfl, hid⟩
      · exact absurd (haction.symm.trans hother) (by decide)
      · refine ⟨fun hdenies => ?_, fun hempty => ?_⟩
        · obtain ⟨status, body, -, hband⟩ := hjudged.denied.mp hdenies
          cases hband
        · rw [hempty] at hid
          cases hid
    · rw [hxs]
      constructor
      · rintro ⟨x, hx, hrequest⟩
        rcases List.mem_append.mp hx with hds | hts
        · obtain ⟨hoverride, hmemo⟩ := hran.discovery.asked_iff.mp ⟨x, hds, hrequest⟩
          exact ⟨hmemo, access, haccess, hoverride⟩
        · obtain ⟨url, -, htoken⟩ := hran.asked.requests x hts
          exact absurd (htoken.symm.trans hrequest) (request_ne haccess url)
      · rintro ⟨hmemo, access', haccess', hoverride⟩
        cases haccess.symm.trans haccess'
        obtain ⟨x, hx, hrequest⟩ := hran.discovery.asked_iff.mpr ⟨hoverride, hmemo⟩
        exact ⟨x, List.mem_append_left ts hx, hrequest⟩
    · rw [hxs] at hx
      rcases List.mem_append.mp hx with hds | hts
      · exact .inl (hran.discovery.request x hds)
      · obtain ⟨url, hurl, hrequest⟩ := hran.asked.requests x hts
        exact .inr ⟨access, url, haccess, hurl, hrequest⟩

/-- Over any run of calls each verdict is of its own call and token, discovery is asked when
it is needed until it succeeds once, and tokens go to their endpoints only. -/
theorem life_verdicts {lib : Lib} {backend last : AuthBackend} {turns : List Turn}
    (hwrites : Writes lib) (hlife : Life lib backend turns last)
    (hfresh : backend.state.discovery = none) :
    (∀ (i : Nat) (turn : Turn), turns[i]? = some turn →
        turn.Sound lib backend.state.config (found lib backend.state.config (turns.take i))
          (found lib backend.state.config (turns.take (i + 1)))) ∧
      (turns.flatMap (Turn.discovered lib backend.state.config)).length ≤ 1 ∧
      ∀ i j endpoints, i ≤ j → found lib backend.state.config (turns.take i) = some endpoints →
        found lib backend.state.config (turns.take j) = some endpoints := by
  refine ⟨fun i turn hturn => ?_, ?_, fun i j endpoints hij hfound => ?_⟩
  · obtain ⟨outcome, hresult, hcalled⟩ := hlife.called hfresh hturn
    exact hcalled.sound hwrites hresult
  · rw [← (hlife.memo hfresh).2]
    exact Option.length_toList_le
  · have hstart : turns.take i <+: turns.take j := List.take_prefix_take_left hij
    obtain ⟨rest, hrest⟩ := hstart
    rw [found, ← hrest, List.flatMap_append, List.head?_append]
    rw [found] at hfound
    rw [hfound]
    rfl

/-- A backend of one issuer, with no endpoint configured. -/
def meBackend : AuthBackend :=
  ⟨⟨0, ⟨"https://issuer.test", none, none, "", "", 5000⟩, none⟩, "issuer.test", []⟩

end Fabricd.Auth
