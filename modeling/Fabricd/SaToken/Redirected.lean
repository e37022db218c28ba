import Fabricd.Drivers.Redirects
import Fabricd.SaToken.Refresh

/-!
# The refresh task and redirects

The task's client follows redirects. Here the task is seen request by request, as they go to the
servers: where each goes, what each key map comes from, and how many there are.
-/

namespace Fabricd.SaToken

open Framework

variable {jwt : Jwt}

/-- Requests of the task as they go to the servers. -/
abbrev JwksWire : Sig := Http.Wire Response

abbrev JwksPolicy := Http.Policy Response

/-- The effects of the task, of which each GET goes over the wire. -/
abbrev WireFx (jwt : Jwt) : Sig := (JwksFx jwt).sum JwksWire

/-- Each GET sent over the wire. -/
def overWire (policy : JwksPolicy) : Implementation (JwksFx jwt) (WireFx jwt)
  | .send url => (Http.deliver policy (.get url)).inr
  | op => Prog.perform (S := WireFx jwt) (.inl op)

/-- The refresh task on the wire. -/
def wireTask (policy : JwksPolicy) (config : SaTokenVerifyConfig) (rounds : Nat) :
    Prog (WireFx jwt) Unit :=
  (refreshTask config rounds).implement (overWire policy)

theorem overWire_cases (policy : JwksPolicy) (op : JwksOp jwt) : (∃ url, op = .send url) ∨
    (∀ url, op ≠ .send url) ∧ overWire policy op = Prog.perform (S := WireFx jwt) (.inl op) := by
  cases op with
  | send url => exact .inl ⟨url, rfl⟩
  | _ => exact .inr ⟨nofun, rfl⟩

/-! ## What the wire shows -/

section

variable (policy : JwksPolicy) (log : List (Event (WireFx jwt)))

/-- A GET of this URL, redirects followed, came to this response. -/
def CameTo (url : String) (response : Response) : Prop :=
  ∃ sent reply, policy.Leads (rights log) (.get url) sent ∧ ⟨sent, .ok reply⟩ ∈ rights log ∧
    policy.next sent reply = none ∧ reply.response = response

/-- What a log on the wire says of the requests of the task. -/
def onWire : Evidence where
  response := CameTo policy log
  document response doc := ⟨.inl (.jsonValue response), .ok doc⟩ ∈ log
  keys response set := ⟨.inl (.jsonSet response), .ok set⟩ ∈ log

/-- What an event of the task may be: a request for the JWKS, for the discovery document if no
URL is configured, or to where such a request has been redirected; the swap of the keys of a set
that a GET of the URL of the JWKS has brought; or a sleep of a second or more. -/
structure Asks (config : SaTokenVerifyConfig) (e : Event (WireFx jwt)) : Prop where
  request : ∀ sent, e.op = .inr sent → ∃ url,
    (Known config (onWire policy log) url ∨ config.jwksUrl = none ∧ url = discoveryUrl config.issuer) ∧
      policy.Leads (rights log) (.get url) sent
  swap : ∀ map, e.op = .inl (.write map) →
    ∃ set, map = buildKeyMap jwt set ∧ Fetched config (onWire policy log) set
  sleep : ∀ interval, e.op = .inl (.sleep interval) → interval = max config.refresh 1

end

/-- The events of the task on the wire, each after those before it. -/
def asking (jwt : Jwt) (policy : JwksPolicy) (config : SaTokenVerifyConfig) :
    Monitor (WireFx jwt) (List (Event (WireFx jwt))) where
  ok log e := Asks policy log config e
  next log e := log ++ [e]

section

variable {policy : JwksPolicy} {config : SaTokenVerifyConfig} {log log' : List (Event (WireFx jwt))}

private theorem asking_after (log es : List (Event (WireFx jwt))) :
    (asking jwt policy config).after log es = log ++ es := by
  induction es generalizing log with
  | nil => simp
  | cons e es ih =>
    rw [Monitor.after_cons, ih]
    simp [asking]

private theorem onWire_extends (es : List (Event (WireFx jwt))) :
    (onWire policy (log ++ es)).Extends (onWire policy log) where
  response := by
    rintro url response ⟨sent, reply, hleads, hreply, hstands, hresponse⟩
    have hsub : rights log ⊆ rights (log ++ es) := by
      rw [rights_append]
      exact List.subset_append_left _ _
    exact ⟨sent, reply, hleads.mono hsub, hsub hreply, hstands, hresponse⟩
  document h := List.mem_append_left _ h
  keys h := List.mem_append_left _ h

private theorem rights_snoc (log : List (Event (WireFx jwt))) (e : Event JwksWire) :
    rights (log ++ [e.inr]) = rights log ++ [e] :=
  rights_append log [e.inr]

section

variable {url : String} {sent : Http.Sent} {reply : Http.Reply Response}

private theorem cameTo_last (hleads : policy.Leads (rights log) (.get url) sent)
    (hstands : policy.next sent reply = none) (hlog : rights log' = rights log ++ [⟨sent, .ok reply⟩]) :
    CameTo policy log' url reply.response := by
  refine ⟨sent, reply, ?_, ?_, hstands, rfl⟩
  · rw [hlog]
    exact hleads.mono (List.subset_append_left _ _)
  · rw [hlog]
    exact List.mem_append_right _ List.mem_cons_self

private theorem leads_last {sent' : Http.Sent} (hleads : policy.Leads (rights log) (.get url) sent)
    (hnext : policy.next sent reply = some (.ok sent'))
    (hlog : rights log' = rights log ++ [⟨sent, .ok reply⟩]) :
    policy.Leads (rights log') (.get url) sent' := by
  rw [hlog]
  exact .onward (hleads.mono (List.subset_append_left _ _))
    (List.mem_append_right _ List.mem_cons_self) hnext

end

private theorem deliver_meets {url : String}
    (hurl : Known config (onWire policy log) url ∨
      config.jwksUrl = none ∧ url = discoveryUrl config.issuer) :
    Prog.Meets (asking jwt policy config)
      (fun log' sent => (onWire policy log').Extends (onWire policy log) ∧
        ∀ response, sent = .ok response → CameTo policy log' url response)
      log (Http.deliver policy (.get url)).inr := by
  refine Prog.Meets.inr (Http.deliver_meets ?_)
  refine Redirects.follow_meets
    (fun _ sent log' => (onWire policy log').Extends (onWire policy log) ∧
      policy.Leads (rights log') (.get url) sent) ?_ ?_ ?_ ?_ ⟨⟨id, id, id⟩, .start⟩
  · rintro limit sent log' ⟨hmore, hleads⟩ answer
    refine ⟨fun sent' hop => ?_, nofun, nofun⟩
    cases hop
    exact ⟨url, hurl.imp_left (Known.mono hmore), hleads⟩
  · rintro limit sent log' ⟨hmore, -⟩ answer err
    exact ⟨(onWire_extends _).trans hmore, nofun⟩
  · rintro limit sent log' reply ⟨hmore, hleads⟩ hstands
    refine ⟨(onWire_extends _).trans hmore, fun response hresponse => ?_⟩
    cases hresponse
    exact cameTo_last hleads hstands (rights_snoc log' _)
  · rintro limit sent sent' log' reply ⟨hmore, hleads⟩ hnext
    exact ⟨(onWire_extends _).trans hmore, leads_last hleads hnext (rights_snoc log' _)⟩

/-- Every request of the task is carried out as it may be, and brings what it says. -/
theorem overWire_meets {op : JwksOp jwt} {stage : Stage} (h : Learnt config (onWire policy log) stage)
    (hok : ∀ answer, (protocol jwt config).ok stage ⟨op, answer⟩) :
    Prog.Meets (asking jwt policy config)
      (fun log' answer => Learnt config (onWire policy log') ((protocol jwt config).next stage ⟨op, answer⟩))
      log (overWire policy op) := by
  rcases overWire_cases policy op with ⟨url, rfl⟩ | ⟨hsend, hplain⟩
  · have hurl := learnt_url h (hok (.error ""))
    refine (deliver_meets hurl).mono fun log' sent ⟨hmore, hcame⟩ => ?_
    refine learnt_step h (hok sent) hmore ?_
    cases sent with
    | error err => trivial
    | ok response => exact hcame response rfl
  · rw [hplain]
    intro answer
    refine ⟨⟨nofun, fun map hop => ?_, fun interval hop => ?_⟩, ?_⟩
    · cases hop
      have hmap := hok answer
      cases stage with
      | fetched set => exact ⟨set, hmap, h⟩
      | _ => cases hmap
    · cases hop
      have hinterval := hok answer
      cases stage with
      | finished => exact hinterval
      | _ => cases hinterval
    · refine learnt_step h (hok answer) (onWire_extends [⟨.inl op, answer⟩]) ?_
      have hlast : (⟨.inl op, answer⟩ : Event (WireFx jwt)) ∈ log ++ [⟨.inl op, answer⟩] :=
        List.mem_append_right _ List.mem_cons_self
      cases op with
      | send url => exact absurd rfl (hsend url)
      | jsonValue response => cases answer <;> trivial
      | jsonSet response => cases answer <;> trivial
      | _ => trivial

end

/-! ## How often it asks -/

def isRequest (e : Event (WireFx jwt)) : Bool := e.op.isRight

def isPause : Event (WireFx jwt) → Bool
  | ⟨.inl (.sleep _), _⟩ => true
  | _ => false

/-- The requests of a round at most, with those that redirects add. -/
def requestsPerRound (config : SaTokenVerifyConfig) : Nat := (Http.maxRedirects + 1) * perRound config

/-- A budget of requests that each sleep renews. -/
def pacing (jwt : Jwt) (config : SaTokenVerifyConfig) : Monitor (WireFx jwt) Nat where
  ok budget e := isRequest e = true → 0 < budget
  next budget e :=
    if isPause e then requestsPerRound config else if isRequest e then budget - 1 else budget

/-- The budget covers what the round may still ask for. -/
structure Covers (config : SaTokenVerifyConfig) (stage : Stage) (budget : Nat) : Prop where
  left : (Http.maxRedirects + 1) * stage.left config ≤ budget
  bound : budget ≤ requestsPerRound config

section

variable {policy : JwksPolicy} {config : SaTokenVerifyConfig} {stage : Stage} {budget : Nat}

private theorem covers_begun : Covers config .begun (requestsPerRound config) := ⟨le_rfl, le_rfl⟩

private theorem deliver_paced (h : Covers config stage budget) {url : String} {left : Nat}
    (hleft : left + 1 ≤ stage.left config) :
    Prog.Meets (pacing jwt config)
      (fun budget' _ => (Http.maxRedirects + 1) * left ≤ budget' ∧ budget' ≤ requestsPerRound config)
      budget (Http.deliver policy (.get url)).inr := by
  have hstart : (Http.maxRedirects + 1) * left + (Http.maxRedirects + 1) ≤ budget := by
    have hmul := Nat.mul_le_mul_left (Http.maxRedirects + 1) hleft
    rw [Nat.mul_add, Nat.mul_one] at hmul
    exact hmul.trans h.left
  refine Prog.Meets.inr (Http.deliver_meets ?_)
  refine Redirects.follow_meets
    (fun limit _ budget' => (Http.maxRedirects + 1) * left + limit + 1 ≤ budget' ∧
      budget' ≤ requestsPerRound config) ?_ ?_ ?_ ?_ ⟨by omega, h.bound⟩
  · rintro limit sent budget' ⟨hlow, -⟩ answer -
    exact Nat.zero_lt_of_lt hlow
  · rintro limit sent budget' ⟨hlow, hhigh⟩ answer err
    exact ⟨Nat.le_sub_one_of_lt (by omega), (Nat.sub_le _ _).trans hhigh⟩
  · rintro limit sent budget' reply ⟨hlow, hhigh⟩ -
    exact ⟨Nat.le_sub_one_of_lt (by omega), (Nat.sub_le _ _).trans hhigh⟩
  · rintro limit sent sent' budget' reply ⟨hlow, hhigh⟩ -
    exact ⟨Nat.le_sub_one_of_lt (by omega), (Nat.sub_le _ _).trans hhigh⟩

private theorem overWire_paced {op : JwksOp jwt} (h : Covers config stage budget)
    (hok : ∀ answer, (protocol jwt config).ok stage ⟨op, answer⟩) :
    Prog.Meets (pacing jwt config)
      (fun budget' answer => Covers config ((protocol jwt config).next stage ⟨op, answer⟩) budget')
      budget (overWire policy op) := by
  rcases overWire_cases policy op with ⟨url, rfl⟩ | ⟨hsend, hplain⟩
  · have hstep (sent : Except String Response) := left_step (hok sent)
    simp only [isSend, isSleep, Bool.toNat_true, Bool.toNat_false, Nat.mul_zero, Nat.add_zero] at hstep
    have hone := hstep (.error "")
    obtain ⟨left, hleft⟩ := Nat.exists_eq_add_of_lt (show 0 < stage.left config by omega)
    have hrun : Prog.Meets (pacing jwt config)
        (fun budget' _ => (Http.maxRedirects + 1) * left ≤ budget' ∧ budget' ≤ requestsPerRound config)
        budget (Http.deliver policy (.get url)).inr := deliver_paced h (by omega)
    refine hrun.mono fun budget' sent hspent => ⟨?_, hspent.2⟩
    have hlater := hstep sent
    exact (Nat.mul_le_mul_left _ (by omega)).trans hspent.1
  · rw [hplain]
    intro answer
    refine ⟨fun hsent => Bool.noConfusion hsent, ?_⟩
    have hstep := left_step (hok answer)
    have hle := left_le config ((protocol jwt config).next stage ⟨op, answer⟩)
    cases op with
    | send url => exact absurd rfl (hsend url)
    | sleep interval => exact ⟨Nat.mul_le_mul_left _ hle, le_rfl⟩
    | _ =>
      simp only [isSend, isSleep, Bool.toNat_false, Nat.zero_add, Nat.mul_zero, Nat.add_zero] at hstep
      exact ⟨(Nat.mul_le_mul_left _ hstep).trans h.left, h.bound⟩

private theorem paced_requests {log : List (Event (WireFx jwt))}
    (h : (pacing jwt config).Accepts budget log)
    (hbound : budget ≤ requestsPerRound config) :
    log.countP isRequest ≤ budget + requestsPerRound config * log.countP isPause ∧
      (pacing jwt config).after budget log ≤ requestsPerRound config := by
  induction log generalizing budget with
  | nil => exact ⟨Nat.zero_le _, hbound⟩
  | cons e log ih =>
    obtain ⟨hok, hrest⟩ := h
    cases hpause : isPause e with
    | true =>
      have hquiet : isRequest e = false := by
        obtain ⟨op, answer⟩ := e
        cases op with
        | inl op => rfl
        | inr sent => cases hpause
      have hnext : (pacing jwt config).next budget e = requestsPerRound config := if_pos hpause
      rw [hnext] at hrest
      obtain ⟨hcount, hafter⟩ := ih hrest le_rfl
      rw [Monitor.after_cons, hnext, List.countP_cons, List.countP_cons, hpause, hquiet]
      refine ⟨?_, hafter⟩
      rw [if_pos rfl, if_neg Bool.false_ne_true, Nat.mul_add]
      omega
    | false =>
      cases hrequest : isRequest e with
      | true =>
        have hpos := hok hrequest
        have hnext : (pacing jwt config).next budget e = budget - 1 := by
          simp [pacing, hpause, hrequest]
        rw [hnext] at hrest
        obtain ⟨hcount, hafter⟩ := ih hrest (by omega)
        rw [Monitor.after_cons, hnext, List.countP_cons, List.countP_cons, hpause, hrequest]
        refine ⟨?_, hafter⟩
        simp only [if_true, Bool.false_eq_true, if_false, Nat.add_zero]
        omega
      | false =>
        have hnext : (pacing jwt config).next budget e = budget := by
          simp [pacing, hpause, hrequest]
        rw [hnext] at hrest
        obtain ⟨hcount, hafter⟩ := ih hrest hbound
        rw [Monitor.after_cons, hnext, List.countP_cons, List.countP_cons, hpause, hrequest]
        refine ⟨?_, hafter⟩
        rw [if_neg Bool.false_ne_true]
        exact hcount

end

/-- The refresh task over every partial run, request by request. Each request is a GET of the
configured URL or the one that the discovery document of the issuer names, of that document only
if no URL is configured, or of where the answer to such a request redirects to; what is swapped
in are the keys of a set that a GET of the JWKS, redirects followed, came to with a 2xx status;
and between two sleeps of a second or more there are at most two GETs, one if the URL is
configured, each redirected ten times at most. -/
theorem refresh_task_asks (policy : JwksPolicy) (config : SaTokenVerifyConfig) (rounds : Nat)
    {log : List (Event (WireFx jwt))} {q : Prog (WireFx jwt) Unit}
    (hs : Prog.Steps (wireTask policy config rounds) log q) :
    (∀ before e after, log = before ++ e :: after → Asks policy before config e) ∧
    ∀ before mid after, log = before ++ mid ++ after →
      mid.countP isRequest ≤ requestsPerRound config * (mid.countP isPause + 1) := by
  have hasks : Prog.Meets (asking jwt policy config)
      (fun log _ => ∃ stage, Learnt config (onWire policy log) stage ∧ stage = .begun) []
      (wireTask policy config rounds) :=
    (refreshTask_meets rounds).implement (fun op stage log h hok => overWire_meets h hok) trivial
  have hpaced : Prog.Meets (pacing jwt config)
      (fun budget _ => ∃ stage, Covers config stage budget ∧ stage = .begun) (requestsPerRound config)
      (wireTask policy config rounds) :=
    (refreshTask_meets rounds).implement (fun op stage budget h hok => overWire_paced h hok)
      covers_begun
  refine ⟨?_, ?_⟩
  · rintro before e after rfl
    have hok := (hasks.steps hs).1.ok_at
    rwa [asking_after] at hok
  · rintro before mid after rfl
    have haccepts := (hpaced.steps hs).1
    rw [List.append_assoc, Monitor.accepts_append, Monitor.accepts_append] at haccepts
    obtain ⟨hbefore, hmid, -⟩ := haccepts
    have hbound := (paced_requests hbefore le_rfl).2
    have hcount := (paced_requests hmid hbound).1
    rw [Nat.mul_add, Nat.mul_one]
    omega

/-- Tokens that are a `kid` and its key at once. -/
def plainJwt : Jwt where
  DecodingKey := String
  decodeHeader token := .ok ⟨.rs256, some token⟩
  fromJwk jwk := .ok jwk.material
  newValidation algorithm := ⟨[algorithm], ["exp"], 60, true, false, true, none, none, none⟩
  setAudience validation aud := { validation with aud := some aud }
  setIssuer validation iss := { validation with iss := some iss }
  decode _ token key _ := if key = token then .ok .null else .error "InvalidSignature"

def podConfig : SaTokenVerifyConfig :=
  { SaTokenVerifyConfig.new "https://cluster" "fabricd" with jwksUrl := some "https://cluster/jwks" }

def podKeys : JwkSet := ⟨[⟨some "pod", "pod"⟩]⟩

def podPolicy : JwksPolicy := Http.absolutePolicy Response.status id

/-- A round that is redirected and fetches a set. -/
def podLog : List (Event (WireFx plainJwt)) :=
  [.inr ⟨.get "https://cluster/jwks", .ok ⟨⟨302, "302 Found", ""⟩, some "https://keys.cluster/v2"⟩⟩,
    .inr ⟨.get "https://keys.cluster/v2", .ok ⟨⟨200, "200 OK", ""⟩, none⟩⟩,
    .inl ⟨.jsonSet ⟨200, "200 OK", ""⟩, .ok podKeys⟩,
    .inl ⟨.write (buildKeyMap plainJwt podKeys), ()⟩, .inl ⟨.sleep 300, ()⟩]

private theorem podLog_steps : Prog.Steps (wireTask podPolicy podConfig 1) podLog (.ret ()) :=
  .act (.act (.act (.act (.act (.refl _)))))

theorem refresh_task_asks_pod :
    podPolicy.Leads (rights (podLog.take 1)) (.get "https://cluster/jwks") (.get "https://keys.cluster/v2") ∧
    (∃ set, buildKeyMap plainJwt podKeys = buildKeyMap plainJwt set ∧
      Fetched podConfig (onWire podPolicy (podLog.take 3)) set) ∧
    podLog.countP isRequest ≤ requestsPerRound podConfig * (podLog.countP isPause + 1) := by
  obtain ⟨hevents, hpace⟩ := refresh_task_asks podPolicy podConfig 1 podLog_steps
  obtain ⟨url, hurl, hleads⟩ := (hevents (podLog.take 1) _ _ rfl).request _ rfl
  have hconfigured : url = "https://cluster/jwks" := by
    rcases hurl with (hurl | ⟨hnone, -⟩) | ⟨hnone, -⟩
    · exact (Option.some.inj hurl).symm
    · cases hnone
    · cases hnone
  rw [hconfigured] at hleads
  have hwrite := (hevents (podLog.take 3) _ _ rfl).swap _ rfl
  have hall := hpace [] podLog [] rfl
  exact ⟨hleads, hwrite, hall⟩

end Fabricd.SaToken
