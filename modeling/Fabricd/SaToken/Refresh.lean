import Fabricd.Backends.Auth
import Fabricd.Framework.Prog
import Fabricd.SaToken.Cache

/-!
# The refresh task

A round fetches the JWKS, discovering its URL first if none is configured, swaps the cache if
that went well, and sleeps. Checks read the cache in between.
-/

namespace Fabricd.SaToken

open Framework

/-- An HTTP response: its status, how that is displayed, and a body only decoding reads. -/
structure Response where
  status : UInt16
  display : String
  body : String
  deriving DecidableEq

/-- What the refresh task and the checks ask for: HTTP, the clocks and the locked cache. A `GET`
is done when the last of its redirects has been followed. -/
inductive JwksOp (jwt : Jwt) where
  | send (url : String)
  | jsonValue (response : Response)
  | jsonSet (response : Response)
  | write (map : KeyMap jwt)
  | sleep (interval : Nat)
  | read
  | now

/-- Requests and decoding fail with a text; `now` is in seconds since the epoch. -/
def JwksOp.Ans {jwt : Jwt} : JwksOp jwt → Type
  | send _ => Except String Response
  | jsonValue _ => Except String Json
  | jsonSet _ => Except String JwkSet
  | write _ => Unit
  | sleep _ => Unit
  | read => Option (KeyMap jwt)
  | now => Nat

def JwksFx (jwt : Jwt) : Sig where
  Op := JwksOp jwt
  Ans := JwksOp.Ans

variable {jwt : Jwt}

/-! ## The task -/

/-- `GET url`, and what the body of the response that this comes to decodes to. -/
def getJson {α : Type} (json : Response → Prog (JwksFx jwt) (Except String α)) (url : String) :
    ExceptT String (Prog (JwksFx jwt)) α := do
  let sent : Except String Response ← ExceptT.lift (Prog.perform (S := JwksFx jwt) (.send url))
  match sent with
  | .error err => throw s!"GET {url} failed: {err}"
  | .ok response =>
    if !Auth.isSuccess response.status then throw s!"GET {url} returned {response.display}"
    else
      let decoded : Except String α ← ExceptT.lift (json response)
      match decoded with
      | .error err => throw s!"decode {url} failed: {err}"
      | .ok value => return value

def discoveryUrl (issuer : String) : String :=
  s!"{Auth.trimEndSlashes issuer}/.well-known/openid-configuration"

def jwksUri (doc : Json) : Option String :=
  ((doc.get "jwks_uri").bind Json.asStr).filter (· ≠ "")

def discoverJwksUrl (issuer : String) : ExceptT String (Prog (JwksFx jwt)) String := do
  let doc : Json ← getJson (fun response => Prog.perform (S := JwksFx jwt) (.jsonValue response))
    (discoveryUrl issuer)
  match jwksUri doc with
  | some url => return url
  | none => throw "discovery document has no jwks_uri"

/-- Fetches the JWKS, redirects followed, into a key map. -/
def fetchKeys (issuer : String) (jwksUrl : Option String) :
    ExceptT String (Prog (JwksFx jwt)) (KeyMap jwt) := do
  let url : String ←
    match jwksUrl with
    | some explicit => pure explicit
    | none => discoverJwksUrl issuer
  let set : JwkSet ← getJson (fun response => Prog.perform (S := JwksFx jwt) (.jsonSet response)) url
  return buildKeyMap jwt set

def refreshRound (issuer : String) (jwksUrl : Option String) (interval : Nat) :
    Prog (JwksFx jwt) Unit := do
  let fetched : Except String (KeyMap jwt) ← (fetchKeys issuer jwksUrl).run
  match fetched with
  | .ok map =>
    let _ : Unit ← Prog.perform (S := JwksFx jwt) (.write map)
    Prog.perform (S := JwksFx jwt) (.sleep interval)
  | .error _ => Prog.perform (S := JwksFx jwt) (.sleep interval)

/-- The first turns of the refresh loop, which has no end of its own. -/
def refreshLoop (issuer : String) (jwksUrl : Option String) (interval : Nat) :
    Nat → Prog (JwksFx jwt) Unit
  | 0 => return ()
  | rounds + 1 => do
    refreshRound issuer jwksUrl interval
    refreshLoop issuer jwksUrl interval rounds

/-- The floor on the refresh interval, in seconds. -/
def minRefresh : Nat := 1

/-- The task that `JwksVerifier::spawn` leaves behind. -/
def refreshTask (config : SaTokenVerifyConfig) (rounds : Nat) : Prog (JwksFx jwt) Unit :=
  refreshLoop config.issuer config.jwksUrl (max config.refresh minRefresh) rounds

/-! ## Its protocol -/

/-- Where a round stands. -/
inductive Stage where
  | begun
  | described (response : Response)
  | located (url : String)
  | answered (response : Response)
  | fetched (set : JwkSet)
  | finished

/-- What a response to a `GET` leads to. -/
def Stage.sent (next : Response → Stage) : Except String Response → Stage
  | .ok response => if Auth.isSuccess response.status then next response else .finished
  | .error _ => .finished

/-- The events of a round, one stage after another. -/
def protocol (jwt : Jwt) (config : SaTokenVerifyConfig) : Monitor (JwksFx jwt) Stage where
  ok
    | .begun, ⟨.send url, _⟩ => url = config.jwksUrl.getD (discoveryUrl config.issuer)
    | .described response, ⟨.jsonValue response', _⟩ => response' = response
    | .located url, ⟨.send url', _⟩ => url' = url
    | .answered response, ⟨.jsonSet response', _⟩ => response' = response
    | .fetched set, ⟨.write map, _⟩ => map = buildKeyMap jwt set
    | .finished, ⟨.sleep interval, _⟩ => interval = max config.refresh minRefresh
    | _, _ => False
  next
    | .begun, ⟨.send _, sent⟩ => Stage.sent
        (match config.jwksUrl with | some _ => .answered | none => .described) sent
    | _, ⟨.jsonValue _, .ok doc⟩ =>
      match jwksUri doc with
      | some url => .located url
      | none => .finished
    | _, ⟨.send _, sent⟩ => Stage.sent .answered sent
    | _, ⟨.jsonSet _, .ok set⟩ => .fetched set
    | _, ⟨.sleep _, _⟩ => .begun
    | _, _ => .finished

/-- An error leaves nothing but the sleep; a value stands at the stage it says. -/
def Leaves {α : Type} (at' : Stage → α → Prop) (stage : Stage) : Except String α → Prop
  | .error _ => stage = .finished
  | .ok value => at' stage value

section

variable {config : SaTokenVerifyConfig} {α : Type} {at' : Stage → α → Prop}

private theorem getJson_run (json : Response → Prog (JwksFx jwt) (Except String α)) (url : String) :
    (getJson json url).run =
      (.act (.send url) fun (sent : Except String Response) =>
        match sent with
        | .error err => .ret (.error s!"GET {url} failed: {err}")
        | .ok response =>
          if Auth.isSuccess response.status then
            json response >>= fun decoded => .ret (decoded.mapError fun err => s!"decode {url} failed: {err}")
          else .ret (.error s!"GET {url} returned {response.display}") :
        Prog (JwksFx jwt) (Except String α)) := by
  refine congrArg (Prog.act (S := JwksFx jwt) _) (funext fun sent => ?_)
  cases sent with
  | error err => rfl
  | ok response =>
    show ExceptT.run (if !Auth.isSuccess response.status then _ else _) =
      if Auth.isSuccess response.status then _ else _
    cases Auth.isSuccess response.status with
    | false => rfl
    | true =>
      refine (ExceptT.run_bind_lift (json response) _).trans ?_
      refine congrArg (json response >>= ·) (funext fun decoded => ?_)
      cases decoded with
      | error err => rfl
      | ok value => rfl

private theorem getJson_meets {json : Response → Prog (JwksFx jwt) (Except String α)} {url : String}
    {stage : Stage} (next : Response → Stage)
    (hok : ∀ sent, (protocol jwt config).ok stage ⟨.send url, sent⟩)
    (hnext : ∀ sent, (protocol jwt config).next stage ⟨.send url, sent⟩ = Stage.sent next sent)
    (hjson : ∀ response, Prog.Meets (protocol jwt config) (Leaves at') (next response) (json response)) :
    Prog.Meets (protocol jwt config) (Leaves at') stage (getJson json url).run := by
  rw [getJson_run]
  intro sent
  refine ⟨hok sent, ?_⟩
  rw [hnext]
  cases sent with
  | error err => rfl
  | ok response =>
    cases hsuccess : Auth.isSuccess response.status with
    | false =>
      simp only [Stage.sent, hsuccess]
      rfl
    | true =>
      simp only [Stage.sent, hsuccess, if_true]
      refine Prog.Meets.bind (hjson response) fun stage' decoded hdecoded => ?_
      cases decoded with
      | error err => exact hdecoded
      | ok value => exact hdecoded

private theorem discoverJwksUrl_meets (h : config.jwksUrl = none) :
    Prog.Meets (protocol jwt config) (Leaves fun stage url => stage = .located url) .begun
      (discoverJwksUrl config.issuer).run := by
  have hdoc : Prog.Meets (protocol jwt config)
      (Leaves fun stage doc => stage = match jwksUri doc with | some url => .located url | none => .finished)
      .begun (getJson (fun response => Prog.perform (S := JwksFx jwt) (.jsonValue response))
        (discoveryUrl config.issuer)).run := by
    refine getJson_meets .described (fun sent => ?_) (fun sent => ?_) fun response decoded => ?_
    · simp [protocol, h]
    · simp [protocol, h]
    · refine ⟨rfl, ?_⟩
      cases decoded with
      | error err => rfl
      | ok doc => rfl
  refine Prog.Meets.bind hdoc fun stage doc hstage => ?_
  cases doc with
  | error err => exact hstage
  | ok doc =>
    have hstage' : stage = match jwksUri doc with | some url => .located url | none => .finished := hstage
    show Prog.Meets _ _ _ (ExceptT.run (match jwksUri doc with | some url => _ | none => _))
    cases huri : jwksUri doc with
    | some url =>
      rw [huri] at hstage'
      exact hstage'
    | none =>
      rw [huri] at hstage'
      exact hstage'

private theorem jsonSet_meets {stage : Stage} {url : String}
    (hok : ∀ sent, (protocol jwt config).ok stage ⟨.send url, sent⟩)
    (hnext : ∀ sent, (protocol jwt config).next stage ⟨.send url, sent⟩ =
      Stage.sent .answered sent) :
    Prog.Meets (protocol jwt config) (Leaves fun stage set => stage = .fetched set) stage
      (getJson (fun response => Prog.perform (S := JwksFx jwt) (.jsonSet response)) url).run := by
  refine getJson_meets _ hok hnext fun response decoded => ⟨rfl, ?_⟩
  cases decoded with
  | error err => rfl
  | ok set => rfl

private theorem fetchKeys_meets : Prog.Meets (protocol jwt config)
    (Leaves fun stage map => ∃ set, stage = .fetched set ∧ map = buildKeyMap jwt set) .begun
    (fetchKeys config.issuer config.jwksUrl).run := by
  have hset {stage : Stage} {url : String}
      (hmeets : Prog.Meets (protocol jwt config) (Leaves fun stage set => stage = .fetched set) stage
        (getJson (fun response => Prog.perform (S := JwksFx jwt) (.jsonSet response)) url).run) :
      Prog.Meets (protocol jwt config)
        (Leaves fun stage map => ∃ set, stage = .fetched set ∧ map = buildKeyMap jwt set) stage
        (do
          let set : JwkSet ← getJson (fun response => Prog.perform (S := JwksFx jwt) (.jsonSet response)) url
          return buildKeyMap jwt set : ExceptT String (Prog (JwksFx jwt)) (KeyMap jwt)).run := by
    refine Prog.Meets.bind hmeets fun stage fetched hstage => ?_
    cases fetched with
    | error err => exact hstage
    | ok set => exact ⟨set, hstage, rfl⟩
  cases hurl : config.jwksUrl with
  | some url =>
    exact hset (jsonSet_meets (fun sent => by simp [protocol, hurl]) fun sent => by simp [protocol, hurl])
  | none =>
    refine Prog.Meets.bind (discoverJwksUrl_meets hurl) fun stage found hstage => ?_
    cases found with
    | error err => exact hstage
    | ok url =>
      have hlocated : stage = .located url := hstage
      subst hlocated
      exact hset (jsonSet_meets (fun sent => rfl) fun sent => rfl)

/-- A round follows the protocol, and ends where the next one begins. -/
theorem refreshRound_meets : Prog.Meets (protocol jwt config) (fun stage _ => stage = .begun) .begun
    (refreshRound config.issuer config.jwksUrl (max config.refresh minRefresh)) := by
  refine Prog.Meets.bind fetchKeys_meets fun stage fetched hstage => ?_
  cases fetched with
  | error err =>
    have hover : stage = .finished := hstage
    subst hover
    exact fun _ => ⟨rfl, rfl⟩
  | ok map =>
    obtain ⟨set, rfl, rfl⟩ := hstage
    exact fun _ => ⟨rfl, fun _ => ⟨rfl, rfl⟩⟩

/-- The task follows the protocol for as long as it runs. -/
theorem refreshTask_meets (rounds : Nat) : Prog.Meets (protocol jwt config)
    (fun stage _ => stage = .begun) .begun (refreshTask config rounds) := by
  unfold refreshTask
  induction rounds with
  | zero => rfl
  | succ rounds ih =>
    refine Prog.Meets.bind refreshRound_meets fun stage _ hstage => ?_
    rw [hstage]
    exact ih

end

/-! ## What the task fetches -/

/-- What is known of requests and bodies: the response a GET came to, and what one decodes to. -/
structure Evidence where
  response : String → Response → Prop
  document : Response → Json → Prop
  keys : Response → JwkSet → Prop

/-- What a log says of its requests. -/
def Evidence.ofLog (log : List (Event (JwksFx jwt))) : Evidence where
  response url response := ⟨.send url, .ok response⟩ ∈ log
  document response doc := ⟨.jsonValue response, .ok doc⟩ ∈ log
  keys response set := ⟨.jsonSet response, .ok set⟩ ∈ log

/-- The evidence has what this event says. -/
def Evidence.Records (E : Evidence) : Event (JwksFx jwt) → Prop
  | ⟨.send url, .ok response⟩ => E.response url response
  | ⟨.jsonValue response, .ok doc⟩ => E.document response doc
  | ⟨.jsonSet response, .ok set⟩ => E.keys response set
  | _ => True

structure Evidence.Extends (E' E : Evidence) : Prop where
  response : ∀ {url response}, E.response url response → E'.response url response
  document : ∀ {response doc}, E.document response doc → E'.document response doc
  keys : ∀ {response set}, E.keys response set → E'.keys response set

theorem Evidence.Extends.trans {E E' E'' : Evidence} (h : E''.Extends E') (h' : E'.Extends E) :
    E''.Extends E :=
  ⟨h.response ∘ h'.response, h.document ∘ h'.document, h.keys ∘ h'.keys⟩

private theorem Evidence.ofLog_extends {log log' : List (Event (JwksFx jwt))} (hsub : log ⊆ log') :
    (Evidence.ofLog log').Extends (Evidence.ofLog log) :=
  ⟨fun h => hsub h, fun h => hsub h, fun h => hsub h⟩

private theorem Evidence.ofLog_records {log : List (Event (JwksFx jwt))} {e : Event (JwksFx jwt)}
    (h : e ∈ log) : (Evidence.ofLog log).Records e := by
  obtain ⟨op, ans⟩ := e
  cases op with
  | send url => cases ans <;> trivial
  | jsonValue response => cases ans <;> trivial
  | jsonSet response => cases ans <;> trivial
  | _ => trivial

section

variable (config : SaTokenVerifyConfig) (E : Evidence)

/-- The discovery document of the issuer names this URL, and none is configured. -/
def Discovered (url : String) : Prop :=
  config.jwksUrl = none ∧ ∃ response doc, E.response (discoveryUrl config.issuer) response ∧
    Auth.isSuccess response.status = true ∧ E.document response doc ∧ jwksUri doc = some url

/-- This is the URL of the JWKS. -/
def Known (url : String) : Prop := config.jwksUrl = some url ∨ Discovered config E url

/-- A response with a 2xx status that a GET of the URL of the JWKS came to. -/
def Answered (response : Response) : Prop :=
  ∃ url, Known config E url ∧ E.response url response ∧ Auth.isSuccess response.status = true

/-- A GET of the URL of the JWKS brought this set. -/
def Fetched (set : JwkSet) : Prop := ∃ response, Answered config E response ∧ E.keys response set

/-- What has been learnt when a round stands at a stage. -/
def Learnt : Stage → Prop
  | .begun | .finished => True
  | .described response => config.jwksUrl = none ∧
      E.response (discoveryUrl config.issuer) response ∧ Auth.isSuccess response.status = true
  | .located url => Discovered config E url
  | .answered response => Answered config E response
  | .fetched set => Fetched config E set

end

section

variable {config : SaTokenVerifyConfig} {E E' : Evidence} {stage : Stage}

theorem Discovered.mono (hmore : E'.Extends E) {url : String} (h : Discovered config E url) :
    Discovered config E' url := by
  obtain ⟨hnone, response, doc, hresponse, hstatus, hdoc, huri⟩ := h
  exact ⟨hnone, response, doc, hmore.response hresponse, hstatus, hmore.document hdoc, huri⟩

theorem Known.mono (hmore : E'.Extends E) {url : String} (h : Known config E url) :
    Known config E' url :=
  h.imp_right (Discovered.mono hmore)

theorem Answered.mono (hmore : E'.Extends E) {response : Response} (h : Answered config E response) :
    Answered config E' response := by
  obtain ⟨url, hknown, hresponse, hstatus⟩ := h
  exact ⟨url, hknown.mono hmore, hmore.response hresponse, hstatus⟩

private theorem learnt_sent {next : Response → Stage} {sent : Except String Response}
    (h : ∀ response, sent = .ok response → Auth.isSuccess response.status = true →
      Learnt config E (next response)) : Learnt config E (Stage.sent next sent) := by
  cases sent with
  | error err => trivial
  | ok response =>
    cases hsuccess : Auth.isSuccess response.status with
    | false =>
      simp only [Stage.sent, hsuccess]
      trivial
    | true =>
      simp only [Stage.sent, hsuccess, if_true]
      exact h response rfl hsuccess

/-- One event of the protocol keeps what has been learnt. -/
theorem learnt_step {e : Event (JwksFx jwt)} (h : Learnt config E stage)
    (hok : (protocol jwt config).ok stage e) (hmore : E'.Extends E) (hnew : E'.Records e) :
    Learnt config E' ((protocol jwt config).next stage e) := by
  obtain ⟨op, ans⟩ := e
  cases stage with
  | begun =>
    cases op with
    | send url =>
      have hurl : url = config.jwksUrl.getD (discoveryUrl config.issuer) := hok
      cases hjwks : config.jwksUrl with
      | none =>
        rw [hjwks] at hurl
        simp only [protocol, hjwks]
        refine learnt_sent fun response hsent hstatus => ⟨hjwks, ?_, hstatus⟩
        subst hsent hurl
        exact hnew
      | some explicit =>
        rw [hjwks] at hurl
        simp only [protocol, hjwks]
        refine learnt_sent fun response hsent hstatus => ⟨url, .inl (hurl ▸ hjwks), ?_, hstatus⟩
        subst hsent
        exact hnew
    | _ => cases hok
  | described response =>
    cases op with
    | jsonValue response' =>
      have hsame : response' = response := hok
      subst hsame
      obtain ⟨hnone, hsend, hstatus⟩ := h
      cases ans with
      | error err => trivial
      | ok doc =>
        cases huri : jwksUri doc with
        | none =>
          simp only [protocol, huri]
          trivial
        | some url =>
          simp only [protocol, huri]
          exact ⟨hnone, response', doc, hmore.response hsend, hstatus, hnew, huri⟩
    | _ => cases hok
  | located url =>
    cases op with
    | send url' =>
      have hsame : url' = url := hok
      subst hsame
      refine learnt_sent fun response hsent hstatus => ⟨url', .inr (Discovered.mono hmore h), ?_, hstatus⟩
      subst hsent
      exact hnew
    | _ => cases hok
  | answered response =>
    cases op with
    | jsonSet response' =>
      have hsame : response' = response := hok
      subst hsame
      cases ans with
      | error err => trivial
      | ok set => exact ⟨response', Answered.mono hmore h, hnew⟩
    | _ => cases hok
  | fetched set =>
    cases op with
    | write map => trivial
    | _ => cases hok
  | finished =>
    cases op with
    | sleep interval => trivial
    | _ => cases hok

theorem learnt_url {url : String} {sent : Except String Response} (h : Learnt config E stage)
    (hok : (protocol jwt config).ok stage ⟨.send url, sent⟩) :
    Known config E url ∨ config.jwksUrl = none ∧ url = discoveryUrl config.issuer := by
  cases stage with
  | begun =>
    have hurl : url = config.jwksUrl.getD (discoveryUrl config.issuer) := hok
    cases hjwks : config.jwksUrl with
    | none =>
      rw [hjwks] at hurl
      exact .inr ⟨rfl, hurl⟩
    | some explicit =>
      rw [hjwks] at hurl
      rw [hurl]
      exact .inl (.inl hjwks)
  | located url' =>
    have hsame : url = url' := hok
    rw [hsame]
    exact .inl (.inr h)
  | _ => cases hok

private theorem learnt_after {log : List (Event (JwksFx jwt))}
    (h : (protocol jwt config).Accepts .begun log) :
    Learnt config (.ofLog log) ((protocol jwt config).after .begun log) := by
  induction log using List.reverseRecOn with
  | nil => trivial
  | append_singleton log e ih =>
    obtain ⟨hlog, hok, -⟩ := ((protocol jwt config).accepts_append .begun log [e]).mp h
    have hafter : (protocol jwt config).after .begun (log ++ [e]) =
        (protocol jwt config).next ((protocol jwt config).after .begun log) e := by
      unfold Monitor.after
      rw [List.foldl_append]
      rfl
    rw [hafter]
    exact learnt_step (ih hlog) hok (Evidence.ofLog_extends (List.subset_append_left _ _))
      (Evidence.ofLog_records (List.mem_append_right _ List.mem_cons_self))

end

/-! ## What it swaps in -/

def fetchedSets (log : List (Event (JwksFx jwt))) : List JwkSet :=
  log.filterMap fun e =>
    match e with
    | ⟨.jsonSet _, .ok set⟩ => some set
    | _ => none

/-- The map an event swaps in. -/
def swap : Event (JwksFx jwt) → Option (KeyMap jwt)
  | ⟨.write map, _⟩ => some map
  | _ => none

def swaps (log : List (Event (JwksFx jwt))) : List (KeyMap jwt) := log.filterMap swap

/-- The set a round has fetched and not swapped in yet. -/
def Stage.pending : Stage → List JwkSet
  | .fetched set => [set]
  | _ => []

private theorem pending_sent {next : Response → Stage}
    (h : ∀ response, (next response).pending = [])
    (sent : Except String Response) : (Stage.sent next sent).pending = [] := by
  cases sent with
  | error err => rfl
  | ok response =>
    simp only [Stage.sent]
    split
    · exact h response
    · rfl

/-- The sets are swapped in one by one, in the order they were fetched in. -/
theorem accepted_swaps {config : SaTokenVerifyConfig} {stage : Stage} {log : List (Event (JwksFx jwt))}
    (h : (protocol jwt config).Accepts stage log) :
    ∃ sets, stage.pending ++ fetchedSets log =
        sets ++ ((protocol jwt config).after stage log).pending ∧
      swaps log = sets.map (buildKeyMap jwt) := by
  induction log generalizing stage with
  | nil => exact ⟨[], by simp [fetchedSets], rfl⟩
  | cons e log ih =>
    obtain ⟨hok, hrest⟩ := h
    obtain ⟨sets, hsets, hswaps⟩ := ih hrest
    rw [Monitor.after_cons]
    obtain ⟨op, ans⟩ := e
    cases stage with
    | begun =>
      cases op with
      | send url =>
        have hnone : ((protocol jwt config).next .begun ⟨.send url, ans⟩).pending = [] := by
          cases hurl : config.jwksUrl with
          | none =>
            simp only [protocol, hurl]
            exact pending_sent (fun _ => rfl) ans
          | some explicit =>
            simp only [protocol, hurl]
            exact pending_sent (fun _ => rfl) ans
        rw [hnone] at hsets
        exact ⟨sets, hsets, hswaps⟩
      | _ => cases hok
    | described response =>
      cases op with
      | jsonValue response' =>
        have hnone : ((protocol jwt config).next (.described response) ⟨.jsonValue response', ans⟩).pending =
            [] := by
          cases ans with
          | error err => rfl
          | ok doc => cases huri : jwksUri doc <;> simp [protocol, huri, Stage.pending]
        rw [hnone] at hsets
        exact ⟨sets, hsets, hswaps⟩
      | _ => cases hok
    | located url =>
      cases op with
      | send url' =>
        have hnone : ((protocol jwt config).next (.located url) ⟨.send url', ans⟩).pending = [] :=
          pending_sent (fun _ => rfl) ans
        rw [hnone] at hsets
        exact ⟨sets, hsets, hswaps⟩
      | _ => cases hok
    | answered response =>
      cases op with
      | jsonSet response' => cases ans <;> exact ⟨sets, hsets, hswaps⟩
      | _ => cases hok
    | fetched set =>
      cases op with
      | write map =>
        have hmap : map = buildKeyMap jwt set := hok
        refine ⟨set :: sets, congrArg (set :: ·) hsets, ?_⟩
        rw [List.map_cons, ← hmap, ← hswaps]
        rfl
      | _ => cases hok
    | finished =>
      cases op with
      | sleep interval => exact ⟨sets, hsets, hswaps⟩
      | _ => cases hok

theorem fetchedSets_fetched {config : SaTokenVerifyConfig} {log : List (Event (JwksFx jwt))}
    (h : (protocol jwt config).Accepts .begun log) :
    ∀ set ∈ fetchedSets log, Fetched config (.ofLog log) set := by
  intro set hset
  obtain ⟨⟨op, ans⟩, he, hfetched⟩ := List.mem_filterMap.mp hset
  cases op with
  | jsonSet response =>
    cases ans with
    | error err => cases hfetched
    | ok set' =>
      cases hfetched
      obtain ⟨before, after, rfl⟩ := List.append_of_mem he
      have hlearnt := learnt_after (((protocol jwt config).accepts_append .begun before _).mp h).1
      have hok := h.ok_at
      generalize (protocol jwt config).after .begun before = stage at hlearnt hok
      cases stage with
      | answered response' =>
        have hsame : response = response' := hok
        subst hsame
        exact ⟨response, Answered.mono (Evidence.ofLog_extends (List.subset_append_left _ _)) hlearnt, he⟩
      | _ => cases hok
  | _ => cases hfetched

/-! ## How often it asks -/

def isSend : Event (JwksFx jwt) → Bool
  | ⟨.send _, _⟩ => true
  | _ => false

def isSleep : Event (JwksFx jwt) → Bool
  | ⟨.sleep _, _⟩ => true
  | _ => false

/-- The requests of a round: one more if the URL is to be discovered. -/
def perRound (config : SaTokenVerifyConfig) : Nat := if config.jwksUrl = none then 2 else 1

/-- The requests a round has left. -/
def Stage.left (config : SaTokenVerifyConfig) : Stage → Nat
  | .begun => perRound config
  | .described _ | .located _ => 1
  | .answered _ | .fetched _ | .finished => 0

@[simp] theorem left_begun (config : SaTokenVerifyConfig) : Stage.begun.left config = perRound config := rfl

@[simp] theorem left_located (config : SaTokenVerifyConfig) (url : String) :
    (Stage.located url).left config = 1 := rfl

private theorem perRound_pos (config : SaTokenVerifyConfig) : 1 ≤ perRound config := by
  unfold perRound
  split <;> omega

theorem left_le (config : SaTokenVerifyConfig) (stage : Stage) : stage.left config ≤ perRound config := by
  have hpos := perRound_pos config
  cases stage <;> simp only [Stage.left] <;> omega

private theorem left_sent {config : SaTokenVerifyConfig} {next : Response → Stage}
    {sent : Except String Response}
    {n : Nat} (h : ∀ response, (next response).left config ≤ n) :
    (Stage.sent next sent).left config ≤ n := by
  cases sent with
  | error err => exact Nat.zero_le n
  | ok response =>
    simp only [Stage.sent]
    split
    · exact h response
    · exact Nat.zero_le n

/-- One event of the protocol uses up a request that was left, or sleeps. -/
theorem left_step {config : SaTokenVerifyConfig} {stage : Stage} {e : Event (JwksFx jwt)}
    (hok : (protocol jwt config).ok stage e) :
    (isSend e).toNat + ((protocol jwt config).next stage e).left config ≤
      stage.left config + perRound config * (isSleep e).toNat := by
  obtain ⟨op, ans⟩ := e
  cases stage with
  | begun =>
    cases op with
    | send url =>
      cases hurl : config.jwksUrl with
      | none =>
        have hlater : ((protocol jwt config).next .begun ⟨.send url, ans⟩).left config ≤ 1 := by
          simp only [protocol, hurl]
          exact left_sent fun _ => Nat.le_refl 1
        have hround : perRound config = 2 := by simp [perRound, hurl]
        simp only [isSend, isSleep, left_begun, hround, Bool.toNat_true, Bool.toNat_false]
        omega
      | some explicit =>
        have hlater : ((protocol jwt config).next .begun ⟨.send url, ans⟩).left config ≤ 0 := by
          simp only [protocol, hurl]
          exact left_sent fun _ => Nat.le_refl 0
        have hround : perRound config = 1 := by simp [perRound, hurl]
        simp only [isSend, isSleep, left_begun, hround, Bool.toNat_true, Bool.toNat_false]
        omega
    | _ => cases hok
  | described response =>
    cases op with
    | jsonValue response' =>
      cases ans with
      | error err => simp [isSend, isSleep, protocol, Stage.left]
      | ok doc => cases huri : jwksUri doc <;> simp [isSend, isSleep, protocol, Stage.left, huri]
    | _ => cases hok
  | located url =>
    cases op with
    | send url' =>
      have hlater : ((protocol jwt config).next (.located url) ⟨.send url', ans⟩).left config ≤ 0 :=
        left_sent fun _ => Nat.le_refl 0
      simp only [isSend, isSleep, left_located, Bool.toNat_true, Bool.toNat_false]
      omega
    | _ => cases hok
  | answered response =>
    cases op with
    | jsonSet response' => cases ans <;> simp [isSend, isSleep, protocol, Stage.left]
    | _ => cases hok
  | fetched set =>
    cases op with
    | write map => simp [isSend, isSleep, protocol, Stage.left]
    | _ => cases hok
  | finished =>
    cases op with
    | sleep interval => simp [isSend, isSleep, protocol, Stage.left]
    | _ => cases hok

end Fabricd.SaToken
