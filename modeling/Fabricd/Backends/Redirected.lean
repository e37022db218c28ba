import Fabricd.Drivers.Redirects
import Fabricd.Backends.Verdicts

/-!
# Verdicts and redirects

The client of the `auth` backend follows redirects. A call is seen here request by request, as
they go to the servers: a verdict is its endpoint's, and a token goes to its endpoint only, as
long as no server redirects a request that bears one.
-/

namespace Fabricd.Auth

open Framework Http

/-- Requests of the backend as they go to the servers. -/
abbrev AuthWire : Sig := Wire (UInt16 × Except String String)

abbrev AuthPolicy := Policy (UInt16 × Except String String)

/-- The effects of a session with each request of the backend sent over the wire. -/
def overWire (policy : AuthPolicy) : Implementation Fx (Fx.sum AuthWire)
  | ⟨.auth (.send _ request), _⟩ => (deliver policy request.sent).inr
  | op => Prog.perform (S := Fx.sum AuthWire) (.inl op)

/-- The wire's part of some exchanges: the hops of each, one after another. -/
inductive Delivers (policy : AuthPolicy) : List Exchange → List (Event AuthWire) → Prop where
  | nil : Delivers policy [] []
  | cons {x : Exchange} {xs : List Exchange} {hops rest : List (Event AuthWire)}
      {reply : Except String (Reply (UInt16 × Except String String))}
      (hfollowed : policy.Followed maxRedirects x.request.sent hops reply)
      (hanswer : x.answer = reply.map Reply.response) (hrest : Delivers policy xs rest) :
      Delivers policy (x :: xs) (hops ++ rest)

section

variable {policy : AuthPolicy} {xs : List Exchange} {hops : List (Event AuthWire)}

/-- A request of the backend, or an effect that is no exchange and stays as it is. -/
theorem overWire_cases (policy : AuthPolicy) (op : FxOp) :
    (∃ client request budget, op = ⟨.auth (.send client request), budget⟩) ∨
      overWire policy op = Prog.perform (S := Fx.sum AuthWire) (.inl op) ∧
        ∀ answer es, exchanges (⟨op, answer⟩ :: es) = exchanges es := by
  obtain ⟨call, budget⟩ := op
  cases call with
  | auth op =>
    cases op with
    | send client request => exact .inl ⟨client, request, budget, rfl⟩
    | buildClient timeoutMs => exact .inr ⟨rfl, fun _ _ => rfl⟩
  | _ => exact .inr ⟨rfl, fun _ _ => rfl⟩

private theorem carried_delivers {es : List (Event Fx)} {log : List (Event (Fx.sum AuthWire))}
    (h : Prog.Carried (overWire policy) es log) : Delivers policy (exchanges es) (rights log) := by
  induction h with
  | nil => exact .nil
  | @cons op answer es fs gs hop _ ih =>
    rw [rights_append]
    rcases overWire_cases policy op with ⟨client, request, budget, rfl⟩ | ⟨hplain, hsilent⟩
    · obtain ⟨hops, hrun, rfl⟩ := Prog.steps_inr_ret hop
      obtain ⟨reply, hfollowed, hanswer⟩ := steps_deliver hrun
      rw [rights_inr]
      exact .cons (x := ⟨request, answer⟩) hfollowed hanswer ih
    · rw [hplain] at hop
      rw [hsilent, Prog.steps_perform hop]
      exact ih

private theorem Delivers.of_mem (h : Delivers policy xs hops) {x : Exchange} (hx : x ∈ xs) :
    ∃ block reply, block ⊆ hops ∧ policy.Followed maxRedirects x.request.sent block reply ∧
      x.answer = reply.map Reply.response := by
  induction h with
  | nil => cases hx
  | @cons x' xs block rest reply hfollowed hanswer _ ih =>
    cases hx with
    | head => exact ⟨block, reply, List.subset_append_left _ _, hfollowed, hanswer⟩
    | tail _ hx =>
      obtain ⟨block', reply', hsub, hrest⟩ := ih hx
      exact ⟨block', reply', fun e he => List.mem_append_right _ (hsub he), hrest⟩

private theorem Delivers.mem_hops (h : Delivers policy xs hops) {e : Event AuthWire}
    (he : e ∈ hops) :
    ∃ x ∈ xs, ∃ block reply, e ∈ block ∧ block ⊆ hops ∧
      policy.Followed maxRedirects x.request.sent block reply ∧ x.answer = reply.map Reply.response := by
  induction h with
  | nil => cases he
  | @cons x xs block rest reply hfollowed hanswer _ ih =>
    rcases List.mem_append.mp he with he | he
    · exact ⟨x, List.mem_cons_self, block, reply, he, List.subset_append_left _ _, hfollowed, hanswer⟩
    · obtain ⟨x', hx', block', reply', hmem, hsub, hrest⟩ := ih he
      exact ⟨x', List.mem_cons_of_mem _ hx', block', reply', hmem,
        fun e he => List.mem_append_right _ (hsub he), hrest⟩

private theorem Delivers.eq_nil (h : Delivers policy [] hops) : hops = [] := by
  cases h
  rfl

end

/-! ## Calls -/

/-- A call of a backend, with what was seen of it on the wire. -/
structure WireTurn where
  action : String
  token : String
  log : List (Event (Fx.sum AuthWire))
  result : Except EgressError String

namespace WireTurn

def hops (turn : WireTurn) : List (Event AuthWire) := rights turn.log

def Grants (lib : Lib) (claims : Json) (turn : WireTurn) : Prop :=
  ∃ text, turn.result = .ok text ∧ Auth.Grants lib claims text

def Denies (lib : Lib) (turn : WireTurn) : Prop :=
  ∃ text, turn.result = .ok text ∧ Auth.Denies lib text

/-- No request that bears a token is redirected. -/
def Direct (policy : AuthPolicy) (turn : WireTurn) : Prop :=
  ∀ e ∈ turn.hops, ¬e.op.Bare → ∀ reply, e.ans = .ok reply → policy.next e.op reply = none

/-- The endpoint itself answered this turn's request in full. -/
def Answered (config : AuthConfig) (access : Access) (endpoint : Option String) (turn : WireTurn)
    (status : UInt16) (body : String) : Prop :=
  ∃ url location, endpoint = some url ∧
    ⟨(access.request config turn.token url).sent, .ok ⟨(status, .ok body), location⟩⟩ ∈ turn.hops

/-- The result of a turn is what its own endpoint made of its own token. -/
structure Judged (lib : Lib) (config : AuthConfig) (access : Access) (endpoint : Option String)
    (turn : WireTurn) : Prop where
  granted : ∀ claims, turn.Grants lib claims ↔ ∃ status body,
    turn.Answered config access endpoint status body ∧ isSuccess status = true ∧
      lib.fromStr body = .ok claims
  denied : turn.Denies lib ↔ ∃ status body,
    turn.Answered config access endpoint status body ∧ access.inBand status = true
  otherwise : (∀ claims, ¬turn.Grants lib claims) → ¬turn.Denies lib → ∃ err, turn.result = .error err

/-- What a turn does, given what the run had discovered before it and has after it. -/
structure Sound (lib : Lib) (policy : AuthPolicy) (config : AuthConfig)
    (before after : Option Endpoints) (turn : WireTurn) : Prop where
  userInfo : turn.action = "user_info" →
    turn.Judged lib config userinfo (userinfo.endpointIn config after)
  introspect : turn.action = "introspect" →
    ¬turn.Denies lib ∧ (config.clientId = "" → turn.hops = [])
  discovers : (∃ e ∈ turn.hops, e.op.Bare) ↔
    before = none ∧ ∃ access, accessOf config turn.action = some access ∧ access.override config = none
  /-- What goes out without a token is the discovery request, or where a server sent it on to. -/
  follows : ∀ e ∈ turn.hops, e.op.Bare → policy.Leads turn.hops (discoveryRequest config).sent e.op
  /-- What goes out with a token goes to the endpoint. -/
  sends : ∀ e ∈ turn.hops, ¬e.op.Bare → ∃ access url, accessOf config turn.action = some access ∧
    access.endpointIn config after = some url ∧ e.op = (access.request config turn.token url).sent

end WireTurn

/-- The endpoints that an answer to a request without a token holds. -/
def endpointsOf (lib : Lib) (e : Event AuthWire) : Option Endpoints :=
  if e.op.credentials = none ∧ e.op.form = none then
    (readEndpoints lib (e.ans.map Reply.response)).toOption
  else none

def WireTurn.discovered (lib : Lib) (turn : WireTurn) : List Endpoints :=
  turn.hops.filterMap (endpointsOf lib)

/-- What discovery found first in a run. -/
def foundOnWire (lib : Lib) (turns : List WireTurn) : Option Endpoints :=
  (turns.flatMap (WireTurn.discovered lib)).head?

/-- Calls of one backend, one after another, on the wire. -/
inductive WireLife (lib : Lib) (policy : AuthPolicy) :
    AuthBackend → List WireTurn → AuthBackend → Prop where
  | start (backend : AuthBackend) : WireLife lib policy backend [] backend
  | call {backend later last : AuthBackend} {turns : List WireTurn} {action token : String}
      {log : List (Event (Fx.sum AuthWire))} {result : Except EgressError String}
      (life : WireLife lib policy backend turns later)
      (hrun : Prog.Steps ((later.call lib action token).implement (overWire policy)) log
        (.ret (result, last))) :
      WireLife lib policy backend (turns ++ [⟨action, token, log, result⟩]) last

/-! ## What a call puts on the wire -/

private theorem discoveryRequest_bare (config : AuthConfig) :
    (discoveryRequest config).sent.Bare := ⟨rfl, rfl⟩

private theorem accessRequest_bears {config : AuthConfig} {action : String} {access : Access}
    (haccess : accessOf config action = some access) (token url : String) :
    ¬(access.request config token url).sent.Bare := by
  rcases accessOf_cases haccess with ⟨-, rfl⟩ | ⟨-, rfl, -⟩
  · rintro ⟨hcredentials, -⟩
    cases hcredentials
  · rintro ⟨hcredentials, -⟩
    cases hcredentials

/-- A turn and the same turn on the wire. -/
structure Sees (policy : AuthPolicy) (turn : Turn) (seen : WireTurn) : Prop where
  action : turn.action = seen.action
  token : turn.token = seen.token
  result : turn.result = seen.result
  delivers : Delivers policy (exchanges turn.es) seen.hops

theorem WireLife.exchanges {lib : Lib} {policy : AuthPolicy} {backend last : AuthBackend}
    {turns : List WireTurn} (hlife : WireLife lib policy backend turns last) :
    ∃ turns', Life lib backend turns' last ∧ List.Forall₂ (Sees policy) turns' turns := by
  induction hlife with
  | start => exact ⟨[], .start _, .nil⟩
  | call life hrun ih =>
    obtain ⟨turns', hturns', hsees⟩ := ih
    obtain ⟨es, hsteps, hcarried⟩ := Prog.steps_implement hrun
    refine ⟨_, .call hturns' hsteps, List.rel_append hsees (.cons ?_ .nil)⟩
    exact ⟨rfl, rfl, rfl, carried_delivers hcarried⟩

section

variable {lib : Lib} {policy : AuthPolicy} {config : AuthConfig} {turn : Turn} {seen : WireTurn}
  {before after : Option Endpoints}

theorem Turn.Sound.request (hsound : turn.Sound lib config before after) {x : Exchange}
    (hx : x ∈ exchanges turn.es) : x.request = discoveryRequest config ∨
      ¬x.request.sent.Bare ∧ ∃ access url, accessOf config turn.action = some access ∧
        access.endpointIn config after = some url ∧ x.request = access.request config turn.token url := by
  rcases hsound.sends x hx with hdiscovery | ⟨access, url, haccess, hurl, hrequest⟩
  · exact .inl hdiscovery
  · refine .inr ⟨?_, access, url, haccess, hurl, hrequest⟩
    rw [hrequest]
    exact accessRequest_bears haccess _ url

private theorem direct_hops (hdirect : seen.Direct policy) {request : Request}
    {block : List (Event AuthWire)}
    {reply : Except String (Reply (UInt16 × Except String String))} (hsub : block ⊆ seen.hops)
    (hbears : ¬request.sent.Bare)
    (hfollowed : policy.Followed maxRedirects request.sent block reply) :
    block = [⟨request.sent, reply⟩] :=
  hfollowed.direct fun reply hmem => hdirect _ (hsub hmem) hbears reply rfl

private theorem discovery_hops (hdocumented : policy.Documented Prod.fst)
    {block : List (Event AuthWire)}
    {reply : Except String (Reply (UInt16 × Except String String))}
    (hfollowed : policy.Followed maxRedirects (discoveryRequest config).sent block reply) :
    ∀ e ∈ block, e.op.Bare :=
  hfollowed.forall_op (fun request reply request' => hdocumented.bare request reply request')
    (discoveryRequest_bare config)

private theorem Sees.token_hop (hsees : Sees policy turn seen)
    (hsound : turn.Sound lib config before after)
    (hdocumented : policy.Documented Prod.fst) (hdirect : seen.Direct policy) {e : Event AuthWire}
    (he : e ∈ seen.hops) (hbears : ¬e.op.Bare) :
    ∃ x ∈ exchanges turn.es, ¬x.request.sent.Bare ∧ e.op = x.request.sent ∧
      x.answer = e.ans.map Reply.response := by
  obtain ⟨x, hx, block, reply, hmem, hsub, hfollowed, hanswer⟩ := hsees.delivers.mem_hops he
  rcases hsound.request hx with hdiscovery | ⟨hbears', -⟩
  · rw [hdiscovery] at hfollowed
    exact absurd (discovery_hops hdocumented hfollowed e hmem) hbears
  · rw [direct_hops hdirect hsub hbears' hfollowed] at hmem
    cases List.mem_singleton.mp hmem
    exact ⟨x, hx, hbears', rfl, hanswer⟩

private theorem Sees.bare_hop (hsees : Sees policy turn seen)
    (hsound : turn.Sound lib config before after)
    (hdirect : seen.Direct policy) {e : Event AuthWire} (he : e ∈ seen.hops) (hbare : e.op.Bare) :
    (∃ x ∈ exchanges turn.es, x.request = discoveryRequest config) ∧
      policy.Leads seen.hops (discoveryRequest config).sent e.op := by
  obtain ⟨x, hx, block, reply, hmem, hsub, hfollowed, hanswer⟩ := hsees.delivers.mem_hops he
  rcases hsound.request hx with hdiscovery | ⟨hbears, -⟩
  · rw [hdiscovery] at hfollowed
    exact ⟨⟨x, hx, hdiscovery⟩, (hfollowed.leads e hmem).mono hsub⟩
  · rw [direct_hops hdirect hsub hbears hfollowed] at hmem
    cases List.mem_singleton.mp hmem
    exact absurd hbare hbears

/-- The endpoint answered the exchange exactly if it answered on the wire. -/
theorem Sees.answered (hsees : Sees policy turn seen) (hsound : turn.Sound lib config before after)
    (hdocumented : policy.Documented Prod.fst) (hdirect : seen.Direct policy) {access : Access}
    (haccess : accessOf config turn.action = some access) {endpoint : Option String} {status : UInt16}
    {body : String} : turn.Answered config access endpoint status body ↔
      seen.Answered config access endpoint status body := by
  constructor
  · rintro ⟨url, hurl, hmem⟩
    obtain ⟨block, reply, hsub, hfollowed, hanswer⟩ := hsees.delivers.of_mem hmem
    have hbears := accessRequest_bears haccess turn.token url
    rw [direct_hops hdirect hsub hbears hfollowed] at hsub
    have hhop := hsub List.mem_cons_self
    cases reply with
    | error err => cases hanswer
    | ok reply =>
      obtain ⟨response, location⟩ := reply
      cases hanswer
      refine ⟨url, location, hurl, ?_⟩
      rwa [← hsees.token]
  · rintro ⟨url, location, hurl, hmem⟩
    rw [← hsees.token] at hmem
    obtain ⟨x, hx, -, hop, hanswer⟩ := hsees.token_hop hsound hdocumented hdirect hmem
      (accessRequest_bears haccess turn.token url)
    have hrequest := Request.sent_injective hop
    refine ⟨url, hurl, ?_⟩
    obtain ⟨request, answer⟩ := x
    cases hrequest
    cases hanswer
    exact hx

private theorem redirected_endpoints (hdocumented : policy.Documented Prod.fst) {sent : Sent}
    {reply : Reply (UInt16 × Except String String)} (h : policy.next sent reply ≠ none) :
    (readEndpoints lib (.ok reply.response)).toOption = none := by
  have hstatus := hdocumented.statuses sent reply h
  obtain ⟨⟨status, body⟩, location⟩ := reply
  have hfailed : isSuccess status = false := by
    simp only [List.mem_cons, List.not_mem_nil, or_false] at hstatus
    rcases hstatus with rfl | rfl | rfl | rfl | rfl <;> rfl
  cases body with
  | error err => rfl
  | ok body =>
    have hread : readEndpoints lib (.ok (status, .ok body)) =
        if !isSuccess status then .error (.withStatus authRequest "OIDC discovery failed" status)
        else _ := rfl
    rw [hread, hfailed]
    rfl

theorem Sees.discovered (hsees : Sees policy turn seen) (hsound : turn.Sound lib config before after)
    (hdocumented : policy.Documented Prod.fst) (hdirect : seen.Direct policy) :
    seen.discovered lib = turn.discovered lib config := by
  have hbare : ∀ x ∈ exchanges turn.es, x.request = discoveryRequest config ∨ ¬x.request.sent.Bare :=
    fun x hx => (hsound.request hx).imp_right And.left
  have hstands : ∀ block reply (request : Request), block ⊆ seen.hops → ¬request.sent.Bare →
      policy.Followed maxRedirects request.sent block reply → block = [⟨request.sent, reply⟩] :=
    fun block reply request => direct_hops hdirect
  have hdelivers := hsees.delivers
  unfold WireTurn.discovered Turn.discovered
  generalize seen.hops = hops at hstands hdelivers ⊢
  generalize exchanges turn.es = xs at hbare hdelivers ⊢
  induction hdelivers with
  | nil => rfl
  | @cons x xs block rest reply hfollowed hanswer _ ih =>
    have hlater := ih (fun block' reply' request hsub =>
      hstands block' reply' request fun e he => List.mem_append_right _ (hsub he))
      fun x' hx' => hbare x' (List.mem_cons_of_mem _ hx')
    rw [List.filterMap_append, hlater]
    rcases hbare x List.mem_cons_self with hdiscovery | hbears
    · rw [hdiscovery] at hfollowed
      have hblock : block.filterMap (endpointsOf lib) =
          (readEndpoints lib (reply.map Reply.response)).toOption.toList := by
        refine hfollowed.filterMap (g := fun reply => (readEndpoints lib (reply.map Reply.response)).toOption)
          (P := Sent.Bare) (fun request reply request' => hdocumented.bare request reply request')
          (fun request answer hrequest => if_pos hrequest) (fun err => rfl) (fun request reply hnext => ?_)
          (discoveryRequest_bare config)
        exact redirected_endpoints hdocumented hnext
      rw [hblock, List.filterMap_cons, Exchange.endpoints, if_pos hdiscovery, hanswer]
      cases (readEndpoints lib (reply.map Reply.response)).toOption <;> rfl
    · have hblock := hstands block reply x.request (List.subset_append_left _ _) hbears hfollowed
      have hnot : x.request ≠ discoveryRequest config := by
        intro h
        rw [h] at hbears
        exact hbears (discoveryRequest_bare config)
      have hnone : endpointsOf lib ⟨x.request.sent, reply⟩ = none := if_neg hbears
      have hnone' : x.endpoints lib config = none := if_neg hnot
      rw [hblock, List.filterMap_cons_none hnone, List.filterMap_cons_none hnone']
      rfl

private theorem Sees.grants (hsees : Sees policy turn seen) (claims : Json) :
    turn.Grants lib claims ↔ seen.Grants lib claims := by
  rw [Turn.Grants, WireTurn.Grants, hsees.result]

private theorem Sees.denies (hsees : Sees policy turn seen) :
    turn.Denies lib ↔ seen.Denies lib := by
  rw [Turn.Denies, WireTurn.Denies, hsees.result]

/-- What the wire shows of a sound turn. -/
theorem Sees.sound (hsees : Sees policy turn seen) (hsound : turn.Sound lib config before after)
    (hdocumented : policy.Documented Prod.fst) (hdirect : seen.Direct policy) :
    seen.Sound lib policy config before after where
  userInfo haction := by
    have haccess : accessOf config turn.action = some userinfo := by
      rw [hsees.action, haction]
      rfl
    obtain ⟨hgranted, hdenied, hotherwise⟩ := hsound.userInfo (hsees.action.trans haction)
    simp only [hsees.answered hsound hdocumented hdirect haccess, hsees.grants, hsees.denies,
      hsees.result] at hgranted hdenied hotherwise
    exact ⟨hgranted, hdenied, hotherwise⟩
  introspect haction := by
    obtain ⟨hdenies, hnone⟩ := hsound.introspect (hsees.action.trans haction)
    refine ⟨mt hsees.denies.mpr hdenies, fun hid => ?_⟩
    have hdelivers := hsees.delivers
    rw [hnone hid] at hdelivers
    exact hdelivers.eq_nil
  discovers := by
    rw [← hsees.action, ← hsound.discovers]
    constructor
    · rintro ⟨e, he, hbare⟩
      exact (hsees.bare_hop hsound hdirect he hbare).1
    · rintro ⟨x, hx, hdiscovery⟩
      obtain ⟨block, reply, hsub, hfollowed, -⟩ := hsees.delivers.of_mem hx
      rw [hdiscovery] at hfollowed
      obtain ⟨e, he⟩ := List.exists_mem_of_ne_nil block hfollowed.ne_nil
      exact ⟨e, hsub he, discovery_hops hdocumented hfollowed e he⟩
  follows e he hbare := (hsees.bare_hop hsound hdirect he hbare).2
  sends e he hbears := by
    obtain ⟨x, hx, hbears', hop, -⟩ := hsees.token_hop hsound hdocumented hdirect he hbears
    rcases hsound.request hx with hdiscovery | ⟨-, access, url, haccess, hurl, hrequest⟩
    · rw [hdiscovery] at hbears'
      exact absurd (discoveryRequest_bare config) hbears'
    · rw [hrequest] at hop
      rw [← hsees.action, ← hsees.token]
      exact ⟨access, url, haccess, hurl, hop⟩

end

/-- Over any run of calls none of which has a token redirected, each verdict is of its own call,
token and endpoint, discovery is asked when it is needed until it succeeds once, and tokens go
to their endpoints only. -/
theorem direct_verdicts {lib : Lib} {policy : AuthPolicy} {backend last : AuthBackend}
    {turns : List WireTurn} (hwrites : Writes lib) (hdocumented : policy.Documented Prod.fst)
    (hlife : WireLife lib policy backend turns last) (hfresh : backend.state.discovery = none)
    (hdirect : ∀ turn ∈ turns, turn.Direct policy) :
    (∀ (i : Nat) (turn : WireTurn), turns[i]? = some turn →
        turn.Sound lib policy backend.state.config (foundOnWire lib (turns.take i))
          (foundOnWire lib (turns.take (i + 1)))) ∧
      (turns.flatMap (WireTurn.discovered lib)).length ≤ 1 ∧
      ∀ i j endpoints, i ≤ j → foundOnWire lib (turns.take i) = some endpoints →
        foundOnWire lib (turns.take j) = some endpoints := by
  obtain ⟨turns', hlife', hsees⟩ := hlife.exchanges
  obtain ⟨hsound, hone, hkept⟩ := life_verdicts hwrites hlife' hfresh
  have hdiscovered : List.Forall₂ (fun turn seen =>
      seen.discovered lib = turn.discovered lib backend.state.config) turns' turns := by
    refine List.forall₂_iff_get.mpr ⟨hsees.length_eq, fun i hi hi' => ?_⟩
    have hturn : turns'[i]? = some (turns'.get ⟨i, hi⟩) := List.getElem?_eq_getElem hi
    exact (hsees.get hi hi').discovered (hsound i _ hturn) hdocumented
      (hdirect _ (List.get_mem turns ⟨i, hi'⟩))
  have hall {ts : List WireTurn} {ts' : List Turn} (h : List.Forall₂ (fun turn seen =>
      seen.discovered lib = turn.discovered lib backend.state.config) ts' ts) :
      ts.flatMap (WireTurn.discovered lib) = ts'.flatMap (Turn.discovered lib backend.state.config) := by
    induction h with
    | nil => rfl
    | cons hturn _ ih => rw [List.flatMap_cons, List.flatMap_cons, hturn, ih]
  have hfound (i : Nat) : foundOnWire lib (turns.take i) =
      found lib backend.state.config (turns'.take i) := by
    rw [foundOnWire, found, hall (List.forall₂_take i hdiscovered)]
  refine ⟨fun i seen hseen => ?_, ?_, fun i j endpoints hij => ?_⟩
  · obtain ⟨hi', rfl⟩ := List.getElem?_eq_some_iff.mp hseen
    have hi : i < turns'.length := by rwa [hsees.length_eq]
    have hturn : turns'[i]? = some turns'[i] := List.getElem?_eq_getElem hi
    rw [hfound, hfound]
    exact (hsees.get hi hi').sound (hsound i _ hturn) hdocumented (hdirect _ (List.getElem_mem hi'))
  · rw [hall hdiscovered]
    exact hone
  · rw [hfound, hfound]
    exact hkept i j endpoints hij

/-- The discovery document of an issuer with a userinfo endpoint. -/
def meDocument : Json := .object [("userinfo_endpoint", .string "https://issuer.test/me")]

/-- Reads and writes what the issuer below answers with. -/
def meLib : Lib :=
  { Lib.rejecting with
    fromStr := fun text =>
      if text = "\x7b\"userinfo_endpoint\":\"https://issuer.test/me\"\x7d" then .ok meDocument
      else if text = "\x7b\x7d" then .ok (.object [])
      else .error "expected value"
    toStr := fun value =>
      match value with
      | .object [("ok", .bool true), ("claims", .object [])] =>
        .ok "\x7b\"ok\":true,\"claims\":\x7b\x7d\x7d"
      | .object [("ok", .bool true), ("claims", .object [("userinfo_endpoint",
          .string "https://issuer.test/me")])] =>
        .ok "\x7b\"ok\":true,\"claims\":\x7b\"userinfo_endpoint\":\"https://issuer.test/me\"\x7d\x7d"
      | .object [("ok", .bool false), ("status", .number (.posInt 401)),
          ("code", .string "AUTH_INVALID_TOKEN")] =>
        .ok "\x7b\"ok\":false,\"status\":401,\"code\":\"AUTH_INVALID_TOKEN\"\x7d"
      | .object [("ok", .bool false), ("status", .number (.posInt 403)),
          ("code", .string "AUTH_INVALID_TOKEN")] =>
        .ok "\x7b\"ok\":false,\"status\":403,\"code\":\"AUTH_INVALID_TOKEN\"\x7d"
      | _ => .error "not written here" }

private theorem meLib_writes : Writes meLib where
  okClaims := by
    intro body claims h
    simp only [meLib] at h
    split at h
    · cases h
      exact ⟨_, rfl⟩
    · split at h
      · cases h
        exact ⟨_, rfl⟩
      · cases h
  invalidToken := by
    rintro status (rfl | rfl)
    · exact ⟨_, rfl⟩
    · exact ⟨_, rfl⟩
  unique := by
    intro value value' text h h'
    simp only [meLib] at h h'
    split at h <;> cases h <;> split at h' <;> first | rfl | simp at h'

/-- The server that an `https` URL names. -/
def meServer (url : String) : String :=
  String.ofList ((url.toList.drop "https://".length).takeWhile (· ≠ '/'))

def mePolicy : AuthPolicy := absolutePolicy Prod.fst meServer

def wireTick (t : Instant) : Event (Fx.sum AuthWire) := (tick t).inl

def wireHop (sent : Sent) (status : UInt16) (location : Option String) (body : String) :
    Event (Fx.sum AuthWire) :=
  Event.inr ⟨sent, .ok ⟨(status, .ok body), location⟩⟩

/-- A valid token, with a discovery that the issuer sends on to another server. -/
def meNew : List (Event (Fx.sum AuthWire)) :=
  [wireTick 1,
    wireHop (discoveryRequest meBackend.state.config).sent 301 (some "https://other.test/conf") "moved",
    wireHop (.get "https://other.test/conf") 200 none
      "\x7b\"userinfo_endpoint\":\"https://issuer.test/me\"\x7d",
    wireHop ⟨"https://issuer.test/me", some (.bearer "new"), none⟩ 200 none "\x7b\x7d", wireTick 5]

/-- Then an invalid one. -/
def meOld : List (Event (Fx.sum AuthWire)) :=
  [wireTick 6, wireHop ⟨"https://issuer.test/me", some (.bearer "old"), none⟩ 401 none "\x7b\x7d",
    wireTick 9]

private theorem meNew_direct (result : Except EgressError String) :
    WireTurn.Direct mePolicy ⟨"user_info", "new", meNew, result⟩ := by
  intro e he hbears reply hreply
  rcases he with _ | ⟨_, _ | ⟨_, _ | ⟨_, hnone⟩⟩⟩
  · exact absurd (discoveryRequest_bare _) hbears
  · exact absurd ⟨rfl, rfl⟩ hbears
  · cases hreply
    rfl
  · cases hnone

private theorem meOld_direct (result : Except EgressError String) :
    WireTurn.Direct mePolicy ⟨"user_info", "old", meOld, result⟩ := by
  intro e he hbears reply hreply
  cases List.mem_singleton.mp he
  cases hreply
  rfl

theorem direct_verdicts_me :
    ∃ (turns : List WireTurn) (last : AuthBackend) (turn : WireTurn),
      WireLife meLib mePolicy meBackend turns last ∧ turns[1]? = some turn ∧ turn.token = "old" ∧
      turn.Denies meLib ∧ ¬∃ e ∈ turn.hops, e.op.Bare := by
  have hfirst : Prog.Steps ((AuthBackend.call meLib meBackend "user_info" "new").implement
      (overWire mePolicy)) meNew (.ret (_, _)) := .act (.act (.act (.act (.act (.refl _)))))
  have hone : WireLife meLib mePolicy meBackend _ _ := .call (.start _) hfirst
  have htwo : WireLife meLib mePolicy meBackend (_ ++ [⟨"user_info", "old", meOld, _⟩]) _ :=
    .call hone (.act (.act (.act (.refl _))))
  have hsound := (direct_verdicts meLib_writes (absolutePolicy_documented _ _) htwo rfl
    (List.forall_mem_cons.mpr ⟨meNew_direct _, List.forall_mem_singleton.mpr (meOld_direct _)⟩)).1 1 _ rfl
  refine ⟨_, _, _, htwo, rfl, rfl, ?_, ?_⟩
  · refine (hsound.userInfo rfl).denied.mpr
      ⟨401, "\x7b\x7d", ⟨"https://issuer.test/me", none, rfl, ?_⟩, rfl⟩
    exact List.mem_singleton_self _
  · intro hdiscovers
    cases (hsound.discovers.mp hdiscovers).1

def checkBackend : AuthBackend :=
  { meBackend with
    state := ⟨0, ⟨"https://issuer.test", some "https://issuer.test/me", some "https://issuer.test/check",
      "fabricd", "hush", 5000⟩, none⟩ }

/-- The endpoint sends a token's request on to a page of another server, which becomes the verdict
on the token. Introspection sends the token itself on. -/
theorem redirected_verdicts :
    ∃ (first second : WireTurn) (last : AuthBackend),
      WireLife meLib mePolicy checkBackend [first, second] last ∧
      (first.action = "user_info" ∧ first.Grants meLib (.object []) ∧ ∀ status body,
        first.Answered checkBackend.state.config userinfo (some "https://issuer.test/me") status body →
          status = 302) ∧
      second.action = "introspect" ∧ second.token = "old" ∧
        ∃ e ∈ second.hops, e.op = ⟨"https://other.test/check", none, some ("token=" ++ Mongo.encode "old")⟩ := by
  have hfirst : Prog.Steps ((AuthBackend.call meLib checkBackend "user_info" "old").implement
        (overWire mePolicy))
      [wireTick 1,
        wireHop ⟨"https://issuer.test/me", some (.bearer "old"), none⟩ 302 (some "https://other.test/home") "",
        wireHop (.get "https://other.test/home") 200 none "\x7b\x7d", wireTick 5] (.ret (_, _)) :=
    .act (.act (.act (.act (.refl _))))
  have hone : WireLife meLib mePolicy checkBackend _ _ := .call (.start _) hfirst
  have htwo : WireLife meLib mePolicy checkBackend (_ ++ [⟨"introspect", "old",
      [wireTick 6,
        wireHop ⟨"https://issuer.test/check", some (.basic "fabricd" "hush"),
          some ("token=" ++ Mongo.encode "old")⟩ 307 (some "https://other.test/check") "",
        wireHop ⟨"https://other.test/check", none, some ("token=" ++ Mongo.encode "old")⟩ 200 none
          "\x7b\x7d", wireTick 9], _⟩]) _ :=
    .call hone (.act (.act (.act (.act (.refl _)))))
  refine ⟨_, _, _, htwo, ⟨rfl, ⟨_, rfl, rfl⟩, fun status body hanswered => ?_⟩, rfl, rfl, _,
    List.mem_cons_of_mem _ List.mem_cons_self, rfl⟩
  obtain ⟨url, location, hurl, hmem⟩ := hanswered
  cases hurl
  cases hmem with
  | head => rfl
  | tail _ hmem =>
    have hop := congrArg Event.op (List.mem_singleton.mp hmem)
    cases congrArg Sent.credentials hop

end Fabricd.Auth
