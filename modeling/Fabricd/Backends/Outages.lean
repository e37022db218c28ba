import Fabricd.Backends.Verdicts

/-!
# Outages of the issuer

How the `auth` backend classifies the exchange a call fails on: what calls for a retry, and
what does not.
-/

namespace Fabricd.Auth

open Framework Http

/-- The issuer is unavailable: no complete answer, or a 5xx. -/
inductive Unavailable : Answer → Prop where
  | transport (err : String) : Unavailable (.error err)
  | cut (status : UInt16) (err : String) : Unavailable (.ok (status, .error err))
  | server {status : UInt16} (body : String) (h : isServerError status = true) :
      Unavailable (.ok (status, .ok body))

/-- The statuses a request is answered in-band with: 401 and 403 if it asks for userinfo. -/
def inBandOf : Request → UInt16 → Bool
  | .get _ (some _), status => status = 401 ∨ status = 403
  | _, _ => false

/-- The issuer refuses the request, or answers what is no JSON. -/
inductive Rejected (lib : Lib) (request : Request) : Answer → Prop where
  | status {status : UInt16} (body : String) (hsuccess : isSuccess status = false)
      (hserver : isServerError status = false) (hband : inBandOf request status = false) :
      Rejected lib request (.ok (status, .ok body))
  | body {status : UInt16} {body err : String} (hsuccess : isSuccess status = true)
      (h : lib.fromStr body = .error err) : Rejected lib request (.ok (status, .ok body))

def Turn.Fails (fault : Fault) (turn : Turn) : Prop :=
  ∃ err, turn.result = .error err ∧ err.code = fault.code ∧ err.retryable = fault.retryable

/-- The exchange a turn fails on tells its error. -/
def Turn.Classified (lib : Lib) (turn : Turn) : Prop :=
  ∀ x ∈ exchanges turn.es,
    (Unavailable x.answer → turn.Fails authUnavailable) ∧
      (Rejected lib x.request x.answer → turn.Fails authRequest)

/-- The discovery of a turn was answered with a 5xx. -/
def Turn.DiscoveryDown (config : AuthConfig) (turn : Turn) : Prop :=
  ∃ x ∈ exchanges turn.es, x.request = discoveryRequest config ∧
    ∃ status body, x.answer = .ok (status, .ok body) ∧ isServerError status = true

section

variable {lib : Lib} {config : AuthConfig} {access : Access} {action token : String}
  {memo left : Option Endpoints} {outcome : Except AuthError AuthOutcome} {turn : Turn}
  {answer : Answer}

private theorem received_fault {err : AuthError} (h : received answer = .error err) :
    err.fault = authUnavailable := by
  rcases answer with e | ⟨status, e | body⟩
  · cases h
    rfl
  · cases h
    rfl
  · cases h

private theorem success_not_server {status : UInt16} (h : isSuccess status = true) :
    isServerError status = false := by
  simp only [isSuccess, isServerError, Bool.and_eq_true, Bool.and_eq_false_iff, decide_eq_true_eq,
    decide_eq_false_iff_not, UInt16.le_iff_toNat_le] at h ⊢
  have hlow : (299 : UInt16).toNat = 299 := rfl
  have hhigh : (500 : UInt16).toNat = 500 := rfl
  omega

private theorem inBandOf_request (haccess : accessOf config action = some access) (url : String) :
    inBandOf (access.request config token url) = access.inBand := by
  rcases accessOf_cases haccess with ⟨-, rfl⟩ | ⟨-, rfl, -⟩
  · rfl
  · rfl

private theorem read_unavailable (haccess : accessOf config action = some access)
    (h : Unavailable answer) :
    ∃ err, access.read lib answer = .error err ∧ err.fault = authUnavailable := by
  have hreading := access.reading lib answer
  generalize access.read lib answer = result at hreading ⊢
  cases hreading with
  | lost hlost => exact ⟨_, rfl, received_fault hlost⟩
  | claims hsuccess hbody | garbled hsuccess hbody =>
    cases h with
    | server body hserver => cases hserver.symm.trans (success_not_server hsuccess)
  | @invalid status body hsuccess hband =>
    cases h with
    | server body hserver =>
      rcases accessOf_inBand haccess status hband with rfl | rfl
      · exact absurd hserver (by decide)
      · exact absurd hserver (by decide)
  | server body hsuccess hband hserver => exact ⟨_, rfl, rfl⟩
  | other body hsuccess hband hother =>
    cases h with
    | server body hserver => cases hserver.symm.trans hother

private theorem read_rejected (haccess : accessOf config action = some access) {url : String}
    (h : Rejected lib (access.request config token url) answer) :
    ∃ err, access.read lib answer = .error err ∧ err.fault = authRequest := by
  have hreading := access.reading lib answer
  generalize access.read lib answer = result at hreading ⊢
  cases hreading with
  | lost hlost => cases h <;> cases hlost
  | claims hsuccess hbody =>
    cases h with
    | status body hfail hserver hband => cases hsuccess.symm.trans hfail
    | body hsuccess' hbody' => cases hbody.symm.trans hbody'
  | garbled hsuccess hbody => exact ⟨_, rfl, rfl⟩
  | invalid body hsuccess hband =>
    cases h with
    | status body hfail hserver hnot =>
      rw [inBandOf_request haccess] at hnot
      cases hband.symm.trans hnot
    | body hsuccess' hbody' => cases hsuccess'.symm.trans hsuccess
  | server body hsuccess hband hserver =>
    cases h with
    | status body hfail hnot hband => cases hserver.symm.trans hnot
    | body hsuccess' hbody' => cases hsuccess'.symm.trans hsuccess
  | other body hsuccess hband hother => exact ⟨_, rfl, rfl⟩

private theorem readEndpoints_status (lib : Lib) {status : UInt16} (body : String)
    (hsuccess : isSuccess status = false) :
    ∃ err, readEndpoints lib (.ok (status, .ok body)) = .error err ∧ err.fault = authRequest := by
  refine ⟨.withStatus authRequest "OIDC discovery failed" status, ?_, rfl⟩
  have hread : readEndpoints lib (.ok (status, .ok body)) =
      if !isSuccess status then .error (.withStatus authRequest "OIDC discovery failed" status)
      else _ := rfl
  rw [hread, hsuccess]
  rfl

private theorem readEndpoints_body {status : UInt16} {body err : String}
    (hsuccess : isSuccess status = true)
    (h : lib.fromStr body = .error err) :
    ∃ err, readEndpoints lib (.ok (status, .ok body)) = .error err ∧ err.fault = authRequest := by
  refine ⟨.new authRequest s!"invalid discovery document: {err}", ?_, rfl⟩
  have hread : readEndpoints lib (.ok (status, .ok body)) =
      if !isSuccess status then .error (.withStatus authRequest "OIDC discovery failed" status)
      else _ := rfl
  rw [hread, hsuccess, h]
  rfl

private theorem readEndpoints_lost {err : AuthError} (h : received answer = .error err) :
    readEndpoints lib answer = .error err := by
  rw [readEndpoints, h]
  rfl

private theorem fails_of_fault {fault : Fault} {err : AuthError} (houtcome : outcome = .error err)
    (hresult : turn.result = (outcome.map AuthOutcome.json).mapError AuthError.intoResourceError)
    (hfault : err.fault = fault) : turn.Fails fault := by
  subst houtcome
  exact ⟨_, hresult, congrArg Fault.code hfault, congrArg Fault.retryable hfault⟩

/-- A discovery exchange is classified as it should be, unless it is a complete 5xx. -/
theorem discovery_fault (lib : Lib) (x : Exchange) (hrequest : x.request = discoveryRequest config)
    (hup : ¬∃ status body, x.answer = .ok (status, .ok body) ∧ isServerError status = true) :
    (Unavailable x.answer → ∃ err, readEndpoints lib x.answer = .error err ∧ err.fault = authUnavailable) ∧
      (Rejected lib x.request x.answer → ∃ err, readEndpoints lib x.answer = .error err ∧
        err.fault = authRequest) := by
  obtain ⟨request, answer⟩ := x
  constructor
  · intro h
    cases h with
    | transport err => exact ⟨_, readEndpoints_lost rfl, rfl⟩
    | cut status err => exact ⟨_, readEndpoints_lost rfl, rfl⟩
    | server body hserver => exact absurd ⟨_, body, rfl, hserver⟩ hup
  · intro h
    cases h with
    | status body hsuccess hserver hband => exact readEndpoints_status lib body hsuccess
    | body hsuccess hbody => exact readEndpoints_body hsuccess hbody

private theorem Called.classified_iff
    (h : Called lib config turn.action turn.token memo (exchanges turn.es) outcome left)
    (hresult : turn.result = (outcome.map AuthOutcome.json).mapError AuthError.intoResourceError) :
    turn.Classified lib ↔ ¬turn.DiscoveryDown config := by
  unfold Turn.Classified Turn.DiscoveryDown
  generalize exchanges turn.es = xs at h
  cases h with
  | unreached err haccess => simp
  | @reached access ds ts _ _ haccess hran =>
    constructor
    · rintro hclassified ⟨x, hx, hrequest, status, body, hanswer, hserver⟩
      rcases List.mem_append.mp hx with hds | hts
      · have hdown : Unavailable x.answer := hanswer ▸ .server body hserver
        obtain ⟨err, herr, hcode, -⟩ := (hclassified x hx).1 hdown
        have hsuccess : isSuccess status = false := by
          by_contra hnot
          rw [Bool.not_eq_false] at hnot
          cases hserver.symm.trans (success_not_server hnot)
        obtain ⟨err', hread, hfault⟩ := readEndpoints_status lib body hsuccess
        rw [← hanswer] at hread
        have hrequested := fails_of_fault (hran.failed x hds err' hread) hresult hfault
        obtain ⟨err'', herr'', hcode', -⟩ := hrequested
        cases herr.symm.trans herr''
        exact absurd (hcode.symm.trans hcode') (by decide)
      · obtain ⟨url, -, htoken⟩ := hran.asked.requests x hts
        exact request_ne haccess url (htoken.symm.trans hrequest)
    · intro hup x hx
      rcases List.mem_append.mp hx with hds | hts
      · have hrequest := hran.discovery.request x hds
        have hfault := discovery_fault lib x hrequest fun hdown => hup ⟨x, hx, hrequest, hdown⟩
        constructor
        · intro hdown
          obtain ⟨err, hread, herr⟩ := hfault.1 hdown
          exact fails_of_fault (hran.failed x hds err hread) hresult herr
        · intro hrejected
          obtain ⟨err, hread, herr⟩ := hfault.2 hrejected
          exact fails_of_fault (hran.failed x hds err hread) hresult herr
      · have hasked := hran.asked
        generalize access.endpointIn config left = endpoint at hasked
        cases hasked with
        | nowhere err => cases hts
        | endpoint url answer =>
          cases List.mem_singleton.mp hts
          constructor
          · intro hdown
            obtain ⟨err, hread, herr⟩ := read_unavailable haccess hdown
            exact fails_of_fault hread hresult herr
          · intro hrejected
            obtain ⟨err, hread, herr⟩ := read_rejected haccess hrejected
            exact fails_of_fault hread hresult herr

end

/-- A turn of any run of calls reports an unavailable issuer as such, and a rejection as such,
exactly if its discovery was not answered with a 5xx. -/
theorem life_outages {lib : Lib} {backend last : AuthBackend} {turns : List Turn}
    (hlife : Life lib backend turns last) :
    ∀ turn ∈ turns, turn.Classified lib ↔ ¬turn.DiscoveryDown backend.state.config := by
  have hrun : last.state.config = backend.state.config ∧
      ∀ turn ∈ turns, turn.Classified lib ↔ ¬turn.DiscoveryDown backend.state.config := by
    induction hlife with
    | start => simp
    | call life hcall ih =>
      obtain ⟨hconfig, outcome, hresult, hcalled⟩ := call_called hcall
      rw [ih.1] at hconfig hcalled
      refine ⟨hconfig, fun turn hturn => ?_⟩
      rcases List.mem_append.mp hturn with hold | hnew
      · exact ih.2 turn hold
      · cases List.mem_singleton.mp hnew
        exact Called.classified_iff hcalled hresult
  exact hrun.2

/-- Discovery that does not get through is reported as an unavailable issuer. -/
theorem life_outages_me :
    ∃ (turn : Turn) (last : AuthBackend), Life Lib.rejecting meBackend [turn] last ∧
      turn.Classified Lib.rejecting := by
  have hcall : Prog.Steps (AuthBackend.call Lib.rejecting meBackend "user_info" "new")
      [tick 1, (Exchange.mk (discoveryRequest meBackend.state.config)
        (.error "connection refused")).event 0, tick 5] (.ret (_, _)) := .act (.act (.act (.refl _)))
  have hlife : Life Lib.rejecting meBackend _ _ := .call (.start _) hcall
  refine ⟨_, _, hlife, (life_outages hlife _ (List.mem_singleton_self _)).mpr ?_⟩
  rintro ⟨x, hx, -, status, body, hanswer, -⟩
  cases List.mem_singleton.mp hx
  cases hanswer

/-- Discovery answered with a 503 is reported as a rejection. -/
theorem discovery_503 :
    ∃ (turn : Turn) (last : AuthBackend), Life Lib.rejecting meBackend [turn] last ∧
      ¬turn.Classified Lib.rejecting := by
  have hcall : Prog.Steps (AuthBackend.call Lib.rejecting meBackend "user_info" "new")
      [tick 1, (Exchange.mk (discoveryRequest meBackend.state.config)
        (.ok (503, .ok "restarting"))).event 0, tick 5] (.ret (_, _)) := .act (.act (.act (.refl _)))
  have hlife : Life Lib.rejecting meBackend _ _ := .call (.start _) hcall
  refine ⟨_, _, hlife, fun hclassified => ?_⟩
  have hserver : isServerError 503 = true := by decide
  obtain ⟨err, herr, hcode, -⟩ :=
    (hclassified _ (List.mem_singleton_self _)).1 (.server "restarting" hserver)
  cases herr
  exact absurd hcode (by decide)

end Fabricd.Auth
