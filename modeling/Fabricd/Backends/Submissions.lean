import Fabricd.Deliveries
import Fabricd.Backends.MailPolicy

/-!
# The mail of a session

What a session submits to its transport: the message of each call that the operator's policy
lets through, within the operator's budget.
-/

namespace Fabricd.Mail

open Framework Smtp ClientAuth

/-- The message a request submits, and whether the transport took it. -/
def offer : Event Fx → Option (Message × Bool)
  | ⟨⟨.mail (.send _ message), _⟩, (answer : Except SmtpError Response)⟩ =>
    some (message, answer.isOk)
  | _ => none

private theorem offer_mail (e : Event Fx) (h : e.op.call.capability ≠ some .mail) :
    offer e = none := by
  obtain ⟨⟨call, budget⟩, answer⟩ := e
  cases call with
  | mail op => exact absurd rfl h
  | _ => rfl

/-- The policy of a config, on some transport. -/
def policy (config : MailConfig) (transport : TransportId) : SendCtx :=
  ⟨transport, config.sender, config.maxRecipients, config.allowedRecipientDomains⟩

/-- What a call is to submit: the message its payload builds, if that passes the checks. -/
def plan (lib : Lib) (config : MailConfig) (action payloadJson : String) : List Message :=
  match action, lib.mailPayload payloadJson with
  | "send", .ok fields => (checked lib (policy config 0) (.ofFields fields)).toOption.toList
  | _, _ => []

/-- A call that succeeds has submitted its message. -/
def contract (lib : Lib) (config : MailConfig) : Contract Message where
  plan := plan lib config
  acts _ := True
  spares _ := False

/-- A backend has the policy and the budget of its config. -/
def OnPolicy (config : MailConfig) (backend : MailBackend) : Prop :=
  backend.ctx = policy config backend.transport ∧ backend.maxSends = config.maxSends

/-! ## One call -/

section

variable (lib : Lib) {config : MailConfig}

/-- A dispatch under any monitor: it ends before it asks for anything, or submits its plan. -/
theorem dispatch_meets {γ : Type} {M : Monitor Fx γ} {Q : γ → Except MailError SendOutcome → Prop}
    {g : γ} {transport : TransportId} {action payloadJson : String}
    (hfailed : ∀ err, Q g (.error err))
    (hsent : ∀ fields message, plan lib config action payloadJson = [message] →
      (ask (.mail (.send transport message)) >>= fun answer =>
        .ret (sendResult lib (.ofFields fields) message answer)).Meets M Q g) :
    (dispatch lib (policy config transport) action payloadJson).run.Meets M Q g := by
  unfold dispatch
  split
  · cases hfields : lib.mailPayload payloadJson with
    | error err =>
      rw [doSend_unparsed payloadJson hfields]
      exact hfailed _
    | ok fields =>
      rw [doSend_run payloadJson hfields]
      have hsame : checked lib (policy config transport) (.ofFields fields) =
          checked lib (policy config 0) (.ofFields fields) := rfl
      cases hchecked : checked lib (policy config transport) (.ofFields fields) with
      | error err => exact hfailed err
      | ok message =>
        refine hsent fields message ?_
        simp only [plan, hfields]
        rw [← hsame, hchecked]
        rfl
  · exact hfailed _

theorem buildMetric_only (action : String) (outcome : Option SendOutcome) (start : Instant) :
    (buildMetric action outcome start).Only (On (· = .now)) := by
  cases outcome with
  | none | some out => exact ⟨rfl, fun _ => trivial⟩

/-- What a dispatched call leaves: a result that went as the dispatch did, and one more record. -/
structure Charged (backend later : MailBackend) : Prop where
  ctx : later.ctx = backend.ctx
  limit : later.maxSends = backend.maxSends
  counted : later.metrics.length = backend.metrics.length + 1

private theorem Charged.onPolicy {backend later : MailBackend} (h : Charged backend later)
    (hpolicy : OnPolicy config backend) : OnPolicy config later := by
  have htransport : later.transport = backend.transport := congrArg SendCtx.transport h.ctx
  refine ⟨?_, h.limit.trans hpolicy.2⟩
  rw [h.ctx, hpolicy.1, htransport]

/-- A call under a monitor that overlooks the clock: it is refused, or dispatched and recorded. -/
theorem runMail_meets {γ : Type} {M : Monitor Fx γ}
    {Q : γ → Except EgressError String → MailBackend → Prop} {g : γ} {backend : MailBackend}
    {action payloadJson : String} (hnow : ∀ op : FxOp, op.call = .now → M.Overlooks op)
    (hrefused : ∀ err, withinBudget backend.maxSends backend.metrics.length = false →
      Q g (.error err) backend)
    (hdispatched : withinBudget backend.maxSends backend.metrics.length = true →
      (dispatch lib backend.ctx action payloadJson).run.Meets M
        (fun g r => ∀ (result : Except EgressError String) (later : MailBackend),
          result.isOk = r.isOk → Charged backend later → Q g result later) g) :
    (BackendSet.runMail lib action payloadJson backend).Meets M (fun g r => Q g r.1 r.2) g := by
  have hcall : (backend.call lib action payloadJson).Meets M
      (fun g r => ∀ result : Except EgressError String, result.isOk = r.1.isOk → Q g result r.2) g := by
    unfold MailBackend.call
    by_cases hspent : backend.maxSends ≠ 0 ∧ backend.maxSends ≤ backend.metrics.opCount
    · rw [if_pos hspent]
      intro result hresult
      cases result with
      | error err => exact hrefused err (backend.spent_iff.mp hspent)
      | ok text => cases hresult
    · rw [if_neg hspent]
      have hroom : withinBudget backend.maxSends backend.metrics.length = true := by
        simpa using mt backend.spent_iff.mpr hspent
      refine measured_meets hnow (fun result start => buildMetric_only action _ start)
        (hdispatched hroom) fun g r metric h result hresult => ?_
      refine h result _ (hresult.trans ?_) ⟨rfl, rfl, List.length_append⟩
      cases r <;> rfl
  refine hcall.bind fun g r h => h _ ?_
  cases r.1 <;> rfl

private theorem runMail_delivers (config : MailConfig) (backend : MailBackend)
    (hpolicy : OnPolicy config backend)
    (action payloadJson : String) :
    (BackendSet.runMail lib action payloadJson backend).Meets (delivery offer)
      (fun left r => (contract lib config).Tells action payloadJson (left = some []) r.1 ∧
        OnPolicy config r.2)
      (some ((contract lib config).plan action payloadJson)) := by
  apply runMail_meets lib (Q := fun left result later =>
    (contract lib config).Tells action payloadJson (left = some []) result ∧ OnPolicy config later)
    (fun op hop => delivery_overlooks (offer_now offer_mail op hop))
    (fun err _ => ⟨.unsent err, hpolicy⟩)
  intro _
  rw [hpolicy.1]
  apply dispatch_meets lib
  · intro err result later hresult hcharged
    exact ⟨(Tells.unsent err).of_isOk hresult, hcharged.onPolicy hpolicy⟩
  · intro fields message hplan
    have hsend : (contract lib config).plan action payloadJson = [message] := hplan
    rw [hsend]
    refine Prog.Meets.bind (Prog.perform_offer (fun answer : Except SmtpError Response => answer.isOk)
      fun _ => rfl) ?_
    rintro _ answer rfl result later hresult hcharged
    have hsame : (sendResult lib (.ofFields fields) message answer).isOk = answer.isOk := by
      cases answer <;> rfl
    refine ⟨?_, hcharged.onPolicy hpolicy⟩
    unfold Contract.Tells
    rw [hsend]
    exact (Tells.answered (answer : Except SmtpError Response)).of_isOk (hresult.trans hsame)

/-- Every submission is paid for by the record of its call. -/
theorem runMail_budgeted (hlimited : config.maxSends ≠ 0) :
    Fabricd.Budgeted offer (mailLane lib) OnPolicy (fun backend => backend.metrics.length)
      config.maxSends config := by
  intro backend hpolicy action payloadJson n (hn : n ≤ backend.metrics.length)
  apply runMail_meets lib
    (Q := fun n _ later => n ≤ later.metrics.length ∧ OnPolicy config later)
    (fun op hop => tally_overlooks _ (offer_now offer_mail op hop)) (fun err _ => ⟨hn, hpolicy⟩)
  intro hroom
  have hbelow : n < config.maxSends := by
    simp only [withinBudget, hpolicy.2, decide_eq_true_eq] at hroom
    omega
  rw [hpolicy.1]
  apply dispatch_meets lib
  · intro err result later _ hcharged
    refine ⟨?_, hcharged.onPolicy hpolicy⟩
    rw [hcharged.counted]
    omega
  · intro fields message _
    refine (Prog.perform_counted hbelow).bind fun n' answer hn' result later _ hcharged => ?_
    refine ⟨?_, hcharged.onPolicy hpolicy⟩
    rw [hcharged.counted]
    omega

end

theorem connect_quiet (slot : MailSlot) :
    (MailSlot.connect slot).Sat (fun op => ∀ ans, offer ⟨op, ans⟩ = none)
      (fun r => ∀ backend, r = .ok backend → OnPolicy slot.config backend) := by
  have hbuild : (buildTransport slot.config).run.Only
      (fun op => ∀ ans, offer ⟨op, ans⟩ = none) := by
    have hrelay : OnlyE (fun op => ∀ ans, offer ⟨op, ans⟩ = none) (relay slot.config) := by
      unfold relay
      split
      · trivial
      · exact Prog.Only.perform fun _ => rfl
    refine hrelay.bind fun _ => ?_
    exact (OnlyE.lift (Prog.Only.perform fun _ => rfl)).bind fun _ => trivial
  refine Prog.Sat.bind hbuild fun built _ => ?_
  cases built with
  | error err => exact nofun
  | ok transport =>
    rintro _ ⟨rfl⟩
    exact ⟨rfl, rfl⟩

/-! ## One session -/

/-- What a session submits to its transport, at any time: the messages of its calls in their
order, as many as its budget allows, and nothing unless its tenant has the binding. -/
theorem mail_submissions (lib : Lib) (shared : Shared) (authenticator : Authenticator)
    {input : Input} {log : List (Event Fx)} {q : Fab (Except String Unit)}
    (hs : Prog.Steps (serve lib shared authenticator input).run log q) :
    offers offer log =
        (visitsOf .mail log).reverse.flatMap (fun visit => offers offer visit.work) ∧
      ((wired shared authenticator input).mail = none → offers offer log = []) ∧
      ∀ slot, (wired shared authenticator input).mail = some slot →
        (∀ visit ∈ visitsOf .mail log, Handover offer (contract lib slot.config) visit) ∧
          (slot.config.maxSends ≠ 0 → (offers offer log).length ≤ slot.config.maxSends) := by
  obtain ⟨configs, deps, hwired⟩ := wired_eq shared authenticator input
  rw [fromConfigs_eq] at hwired
  have hfresh : ∀ slot, (wired shared authenticator input).mail = some slot → slot.backend = none :=
    hwired ▸ slot_fresh
  obtain ⟨hlog, hnone, hvisits⟩ := lane_deliveries (mailLane lib) (mailPort lib) offer_mail
    connect_quiet (runMail_delivers lib) hfresh hs
  refine ⟨hlog, hnone, fun slot hslot => ⟨hvisits slot hslot, fun hlimited => ?_⟩⟩
  exact lane_budget (mailLane lib) (mailPort lib) offer_mail connect_quiet
    (runMail_budgeted lib hlimited) hslot (hfresh slot hslot) hs

def postOffice : Env Fx Unit
  | w, ⟨.now, _⟩ => ((0 : Nat), w)
  | w, ⟨.mail (.send _ _), _⟩ => (Except.ok ⟨true, some "250 OK"⟩, w)
  | w, ⟨.mail (.buildTransport _), _⟩ => ((0 : Nat), w)
  | w, ⟨call, _⟩ => ((default : call.Ans), w)

/-- One send a session. -/
def tillConfig : MailConfig :=
  ⟨"smtp.test", 25, "", "", .none, "till@shop.example", 3, ["SHOP.example"], 1, 1000⟩

def tillShared : Shared where
  table name := if name = "till" then some ⟨none, .mail tillConfig⟩ else none
  maxStatementTimeoutMs := 0
  breaker := false

def tillInput : Input :=
  [.ok (.init { WireInit.empty with mail := some "till" }),
    .ok (.call ⟨"mail", "send", "{}"⟩), .ok (.call ⟨"mail", "send", "{}"⟩)]

def tillSession : Outcome Fx Unit (Except String Unit) :=
  Prog.run postOffice () (serve receiptLib tillShared .none tillInput).run

theorem mail_submissions_till :
    offers offer tillSession.events = [(receipt, true)] ∧
      ∃ slot, (wired tillShared .none tillInput).mail = some slot ∧
        (∀ visit ∈ visitsOf .mail tillSession.events,
          Handover offer (contract receiptLib slot.config) visit) ∧
        (offers offer tillSession.events).length ≤ 1 := by
  have hs : Prog.Steps (serve receiptLib tillShared .none tillInput).run tillSession.events
      (.ret tillSession.value) := Prog.run_steps _ _ _
  obtain ⟨-, -, hslot⟩ := mail_submissions receiptLib tillShared .none hs
  obtain ⟨hvisits, hbudget⟩ := hslot _ rfl
  exact ⟨rfl, _, rfl, hvisits, hbudget (by decide)⟩

end Fabricd.Mail
