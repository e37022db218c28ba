import Fabricd.Faults

/-!
# The send policy of the `mail` backend

Which payloads are submitted to the transport and as what message, and how many messages
one backend submits in its life.
-/

namespace Fabricd.Mail

open Framework Smtp

/-! ## The policy -/

/-- The most strings a `Vec<String>` holds: `isize::MAX` bytes, 24 for each. -/
def vecMax : Nat := (2 ^ 63 - 1) / 24

/-- What the policy relies on: a built message has the recipients it was given, and a
payload's lists are vectors. -/
structure MailLib (lib : Lib) : Prop where
  envelope : ∀ {draft built : Message}, lib.buildMessage draft = .ok built →
    built.envelope = draft.envelope
  fits : ∀ {text : String} {fields : MailFields}, lib.mailPayload text = .ok fields →
    ∀ list ∈ [fields.to', fields.cc, fields.bcc], (list.getD []).length ≤ vecMax

def SendPayload.addresses (payload : SendPayload) : List String :=
  payload.to' ++ payload.cc ++ payload.bcc

def effectiveFrom (ctx : SendCtx) (payload : SendPayload) : String :=
  if payload.sender.isEmpty then ctx.defaultFrom else payload.sender

def Reads (lib : Lib) (addr : String) (mailbox : Mailbox) : Prop :=
  lib.parseMailbox addr = .ok mailbox

/-- The allowlist is empty or has the mailbox's domain, whatever the case. -/
def Allowed (lib : Lib) (allowed : List String) (mailbox : Mailbox) : Prop :=
  allowed ≠ [] → ∃ allow ∈ allowed, lib.toLowercase allow = lib.toLowercase mailbox.domain

/-- The message a payload asks for. -/
structure Drafts (lib : Lib) (ctx : SendCtx) (payload : SendPayload) (draft : Message) : Prop where
  sender : Reads lib (effectiveFrom ctx payload) draft.sender
  to' : List.Forall₂ (Reads lib) payload.to' draft.to'
  cc : List.Forall₂ (Reads lib) payload.cc draft.cc
  bcc : List.Forall₂ (Reads lib) payload.bcc draft.bcc
  replyTo : if payload.replyTo.isEmpty then draft.replyTo = none
    else ∃ mailbox, Reads lib payload.replyTo mailbox ∧ draft.replyTo = some mailbox
  subject : draft.subject = payload.subject
  body : draft.body = buildBody payload

/-- The policy lets a payload through, and its message is built. -/
structure Permitted (lib : Lib) (ctx : SendCtx) (payload : SendPayload) (built : Message) :
    Prop where
  counted : 1 ≤ payload.addresses.length ∧ payload.addresses.length ≤ ctx.maxRecipients
  recipients : ∀ addr ∈ payload.addresses, ∃ mailbox, Reads lib addr mailbox ∧
    Allowed lib ctx.allowedDomains mailbox
  sender : ∃ mailbox, Reads lib (effectiveFrom ctx payload) mailbox
  replyTo : payload.replyTo.isEmpty ∨ ∃ mailbox, Reads lib payload.replyTo mailbox
  body : ∀ draft, Drafts lib ctx payload draft → lib.buildMessage draft = .ok built

section Policy

variable {lib : Lib} {ctx : SendCtx} {payload : SendPayload} {draft built : Message}

private theorem parseMailbox_eq_ok {addr field : String} {mailbox : Mailbox} :
    parseMailbox lib addr field = .ok mailbox ↔ Reads lib addr mailbox :=
  mapError_eq_ok

private theorem exists_draft (h : Permitted lib ctx payload built) :
    ∃ draft, Drafts lib ctx payload draft := by
  have hlist : ∀ addrs : List String, (∀ addr ∈ addrs, addr ∈ payload.addresses) →
      ∃ mailboxes, List.Forall₂ (Reads lib) addrs mailboxes := by
    intro addrs hmem
    induction addrs with
    | nil => exact ⟨[], .nil⟩
    | cons addr addrs ih =>
      obtain ⟨mailbox, hread, -⟩ := h.recipients addr (hmem addr List.mem_cons_self)
      obtain ⟨mailboxes, hrest⟩ := ih fun addr haddr => hmem addr (List.mem_cons_of_mem _ haddr)
      exact ⟨mailbox :: mailboxes, .cons hread hrest⟩
  obtain ⟨sender, hsender⟩ := h.sender
  obtain ⟨to', hto⟩ := hlist payload.to' fun addr haddr => by simp [SendPayload.addresses, haddr]
  obtain ⟨cc, hcc⟩ := hlist payload.cc fun addr haddr => by simp [SendPayload.addresses, haddr]
  obtain ⟨bcc, hbcc⟩ := hlist payload.bcc fun addr haddr => by simp [SendPayload.addresses, haddr]
  by_cases hempty : payload.replyTo.isEmpty
  · exact ⟨⟨sender, to', cc, bcc, none, payload.subject, buildBody payload⟩,
      hsender, hto, hcc, hbcc, by rw [if_pos hempty], rfl, rfl⟩
  · obtain ⟨mailbox, hread⟩ := h.replyTo.resolve_left hempty
    exact ⟨⟨sender, to', cc, bcc, some mailbox, payload.subject, buildBody payload⟩,
      hsender, hto, hcc, hbcc, by rw [if_neg hempty]; exact ⟨mailbox, hread, rfl⟩, rfl, rfl⟩

theorem Drafts.envelope (h : Drafts lib ctx payload draft) :
    List.Forall₂ (Reads lib) payload.addresses draft.envelope :=
  List.rel_append (List.rel_append h.to' h.cc) h.bcc

private theorem Drafts.reads_replyTo (h : Drafts lib ctx payload draft) :
    payload.replyTo.isEmpty ∨ ∃ mailbox, Reads lib payload.replyTo mailbox := by
  have hreply := h.replyTo
  split at hreply
  next hempty => exact .inl hempty
  next =>
    obtain ⟨mailbox, hread, -⟩ := hreply
    exact .inr ⟨mailbox, hread⟩

private theorem reads_unique : Relator.RightUnique (Reads lib) := by
  intro addr mailbox mailbox' h h'
  exact Except.ok.inj (h.symm.trans h')

theorem Drafts.unique {draft' : Message} (h : Drafts lib ctx payload draft)
    (h' : Drafts lib ctx payload draft') : draft = draft' := by
  obtain ⟨sender, to', cc, bcc, replyTo, subject, body⟩ := draft
  obtain ⟨sender', to'', cc', bcc', replyTo', subject', body'⟩ := draft'
  obtain rfl := reads_unique h.sender h'.sender
  obtain rfl := List.right_unique_forall₂' reads_unique h.to' h'.to'
  obtain rfl := List.right_unique_forall₂' reads_unique h.cc h'.cc
  obtain rfl := List.right_unique_forall₂' reads_unique h.bcc h'.bcc
  obtain rfl : subject = subject' := h.subject.trans h'.subject.symm
  obtain rfl : body = body' := h.body.trans h'.body.symm
  have hreply := h.replyTo
  have hreply' := h'.replyTo
  split at hreply
  next hempty =>
    rw [if_pos hempty] at hreply'
    cases hreply
    cases hreply'
    rfl
  next hsome =>
    rw [if_neg hsome] at hreply'
    obtain ⟨mailbox, hread, hset⟩ := hreply
    obtain ⟨mailbox', hread', hset'⟩ := hreply'
    obtain rfl := reads_unique hread hread'
    cases hset
    cases hset'
    rfl

/-- `build_message` builds the message the payload asks for. -/
theorem buildMessage_eq_ok : buildMessage lib payload ctx.defaultFrom = .ok built ↔
    ∃ draft, Drafts lib ctx payload draft ∧ lib.buildMessage draft = .ok built := by
  simp only [buildMessage, bind_eq_ok, mapM_eq_ok, parseMailbox_eq_ok]
  by_cases hempty : payload.replyTo.isEmpty
  · simp only [if_pos hempty, bind_eq_ok, mapError_eq_ok]
    constructor
    · rintro ⟨sender, hsender, to', hto, cc, hcc, bcc, hbcc, replyTo, hnone, hbuilt⟩
      cases hnone
      exact ⟨⟨sender, to', cc, bcc, none, payload.subject, buildBody payload⟩,
        ⟨hsender, hto, hcc, hbcc, by rw [if_pos hempty], rfl, rfl⟩, hbuilt⟩
    · rintro ⟨⟨sender, to', cc, bcc, replyTo, subject, body⟩, hdraft, hbuilt⟩
      have hnone : replyTo = none := by simpa only [if_pos hempty] using hdraft.replyTo
      obtain rfl : subject = payload.subject := hdraft.subject
      obtain rfl : body = buildBody payload := hdraft.body
      rw [hnone] at hbuilt
      exact ⟨sender, hdraft.sender, to', hdraft.to', cc, hdraft.cc, bcc, hdraft.bcc, none, rfl, hbuilt⟩
  · simp only [if_neg hempty, bind_eq_ok, mapError_eq_ok]
    constructor
    · rintro ⟨sender, hsender, to', hto, cc, hcc, bcc, hbcc, replyTo, hsome, hbuilt⟩
      cases hread : parseMailbox lib payload.replyTo "reply_to" with
      | error err =>
        rw [hread] at hsome
        cases hsome
      | ok mailbox =>
        rw [hread] at hsome
        cases hsome
        exact ⟨⟨sender, to', cc, bcc, some mailbox, payload.subject, buildBody payload⟩,
          ⟨hsender, hto, hcc, hbcc,
            by rw [if_neg hempty]; exact ⟨mailbox, parseMailbox_eq_ok.mp hread, rfl⟩, rfl, rfl⟩, hbuilt⟩
    · rintro ⟨⟨sender, to', cc, bcc, replyTo, subject, body⟩, hdraft, hbuilt⟩
      obtain ⟨mailbox, hread, hsome⟩ : ∃ mailbox, Reads lib payload.replyTo mailbox ∧
          replyTo = some mailbox := by simpa only [if_neg hempty] using hdraft.replyTo
      obtain rfl : subject = payload.subject := hdraft.subject
      obtain rfl : body = buildBody payload := hdraft.body
      rw [hsome] at hbuilt
      have hmap : (parseMailbox lib payload.replyTo "reply_to").map some = .ok (some mailbox) := by
        rw [parseMailbox_eq_ok.mpr hread]
        rfl
      exact ⟨sender, hdraft.sender, to', hdraft.to', cc, hdraft.cc, bcc, hdraft.bcc, some mailbox,
        hmap, hbuilt⟩

/-- `enforce_recipient_domains` accepts exactly the lists of allowed addresses. -/
theorem enforceRecipientDomains_eq_ok (allowed : List String) :
    enforceRecipientDomains lib payload allowed = .ok () ↔
      (allowed ≠ [] → ∀ addr ∈ payload.addresses, ∃ mailbox, Reads lib addr mailbox ∧
        Allowed lib allowed mailbox) := by
  by_cases hempty : allowed.isEmpty
  · have hnil : allowed = [] := List.isEmpty_iff.mp hempty
    simp [enforceRecipientDomains, hnil]
  · have hne : allowed ≠ [] := fun h => hempty (List.isEmpty_iff.mpr h)
    rw [enforceRecipientDomains, if_neg hempty, forM_eq_ok]
    constructor
    · intro h _ addr haddr
      obtain ⟨mailbox, hread, hdomain⟩ := bind_eq_ok.mp (h addr haddr)
      refine ⟨mailbox, parseMailbox_eq_ok.mp (mapError_eq_ok.mp hread), fun _ => ?_⟩
      by_cases hany : allowed.any fun allow => lib.toLowercase allow == lib.toLowercase mailbox.domain
      · obtain ⟨allow, hmem, heq⟩ := List.any_eq_true.mp hany
        exact ⟨allow, hmem, beq_iff_eq.mp heq⟩
      · simp only [if_neg hany] at hdomain
        cases hdomain
    · intro h addr haddr
      obtain ⟨mailbox, hread, hallowed⟩ := h hne addr haddr
      obtain ⟨allow, hmem, heq⟩ := hallowed hne
      have hany : allowed.any fun allow => lib.toLowercase allow == lib.toLowercase mailbox.domain :=
        List.any_eq_true.mpr ⟨allow, hmem, beq_iff_eq.mpr heq⟩
      refine bind_eq_ok.mpr ⟨mailbox, mapError_eq_ok.mpr (parseMailbox_eq_ok.mpr hread), ?_⟩
      simp only [if_pos hany]

/-- The checks `do_send` makes before it sends, with the message they end in. -/
def checked (lib : Lib) (ctx : SendCtx) (payload : SendPayload) : Except MailError Message :=
  let recipients := countRecipients payload
  if recipients = 0 then .error (.fallback "at least one recipient (to/cc/bcc) is required")
  else if ctx.maxRecipients < recipients then
    .error (.fallback s!"too many recipients: {recipients} (max {ctx.maxRecipients})")
  else do
    enforceRecipientDomains lib payload ctx.allowedDomains
    (buildMessage lib payload ctx.defaultFrom).mapError .fallback

/-- What `do_send` makes of the transport's answer. -/
def sendResult (lib : Lib) (payload : SendPayload) (message : Message)
    (answer : Except SmtpError Response) : Except MailError SendOutcome :=
  (answer.mapError MailError.fromDriver).map fun response =>
    let escaped :=
      match lib.toStr (.string (response.firstLine.getD "")) with
      | .ok text => text
      | .error _ => "\"\""
    { json := "\x7b\"accepted\":" ++ toString response.positive ++ ",\"response\":" ++ escaped ++ "\x7d"
      recipients := countRecipients payload
      bytes := lib.formattedLen message
      accepted := response.positive }

theorem doSend_run (payloadJson : String) {fields : MailFields}
    (hfields : lib.mailPayload payloadJson = .ok fields) :
    (doSend lib ctx payloadJson).run =
      match checked lib ctx (.ofFields fields) with
      | .error err => .ret (.error err)
      | .ok message => ask (.mail (.send ctx.transport message)) >>= fun answer =>
          .ret (sendResult lib (.ofFields fields) message answer) := by
  have hparse : ofExcept ((lib.mailPayload payloadJson).mapError
      fun err => MailError.fallback s!"invalid mail payload: {err}") = pure fields := by
    rw [hfields]
    rfl
  unfold doSend checked
  rw [hparse, pure_bind]
  dsimp only
  split
  · rfl
  · split
    · rfl
    · cases enforceRecipientDomains lib (.ofFields fields) ctx.allowedDomains with
      | error err => rfl
      | ok u =>
        cases buildMessage lib (.ofFields fields) ctx.defaultFrom with
        | error err => rfl
        | ok message =>
          refine congrArg (Prog.act _) (funext fun answer => ?_)
          cases answer <;> rfl

theorem doSend_unparsed (payloadJson : String) {err : String}
    (h : lib.mailPayload payloadJson = .error err) :
    (doSend lib ctx payloadJson).run = .ret (.error (.fallback s!"invalid mail payload: {err}")) := by
  unfold doSend
  rw [h]
  rfl

/-- The addresses of three vectors are too few to saturate a `usize`. -/
theorem MailLib.countRecipients_eq (hlib : MailLib lib) {payloadJson : String}
    {fields : MailFields} (h : lib.mailPayload payloadJson = .ok fields) :
    countRecipients (.ofFields fields) = (SendPayload.ofFields fields).addresses.length := by
  have hto : (SendPayload.ofFields fields).to'.length ≤ vecMax := hlib.fits h fields.to' (by simp)
  have hcc : (SendPayload.ofFields fields).cc.length ≤ vecMax := hlib.fits h fields.cc (by simp)
  have hbcc : (SendPayload.ofFields fields).bcc.length ≤ vecMax := hlib.fits h fields.bcc (by simp)
  simp only [countRecipients, SendPayload.addresses, List.length_append, vecMax, usizeMax] at *
  omega

/-- The checks succeed exactly on what the policy permits. -/
theorem checked_eq_ok (hcount : countRecipients payload = payload.addresses.length) :
    checked lib ctx payload = .ok built ↔ Permitted lib ctx payload built := by
  unfold checked
  rw [hcount]
  dsimp only
  split
  case isTrue hzero =>
    constructor
    · intro h
      cases h
    · intro h
      have hone := h.counted.1
      omega
  case isFalse hsome =>
    split
    case isTrue hmany =>
      constructor
      · intro h
        cases h
      · intro h
        have hcap := h.counted.2
        omega
    case isFalse hfits =>
      rw [bind_eq_ok]
      constructor
      · rintro ⟨u, henforce, hbuilt⟩
        obtain ⟨draft, hdraft, hmessage⟩ := buildMessage_eq_ok.mp (mapError_eq_ok.mp hbuilt)
        refine ⟨⟨by omega, by omega⟩, fun addr haddr => ?_, ⟨_, hdraft.sender⟩, ?_, ?_⟩
        · by_cases hempty : ctx.allowedDomains = []
          · obtain ⟨mailbox, -, hread⟩ := exists_mem_right hdraft.envelope addr haddr
            exact ⟨mailbox, hread, fun hne => absurd hempty hne⟩
          · exact (enforceRecipientDomains_eq_ok _).mp henforce hempty addr haddr
        · exact hdraft.reads_replyTo
        · intro draft' hdraft'
          rw [hdraft'.unique hdraft]
          exact hmessage
      · intro h
        obtain ⟨draft, hdraft⟩ := exists_draft h
        refine ⟨(), (enforceRecipientDomains_eq_ok _).mpr fun _ => h.recipients, ?_⟩
        exact mapError_eq_ok.mpr (buildMessage_eq_ok.mpr ⟨draft, hdraft, h.body draft hdraft⟩)

theorem Permitted.envelope (hlib : MailLib lib) (h : Permitted lib ctx payload built) :
    List.Forall₂ (Reads lib) payload.addresses built.envelope ∧
      ∀ mailbox ∈ built.envelope, Allowed lib ctx.allowedDomains mailbox := by
  obtain ⟨draft, hdraft⟩ := exists_draft h
  rw [hlib.envelope (h.body draft hdraft)]
  refine ⟨hdraft.envelope, fun mailbox hmailbox => ?_⟩
  obtain ⟨addr, haddr, hread⟩ := exists_mem_right hdraft.envelope.flip mailbox hmailbox
  obtain ⟨mailbox', hread', hallowed⟩ := h.recipients addr haddr
  rwa [reads_unique hread hread']

end Policy

/-! ## What is submitted -/

def submissions (es : List (Event Fx)) : List (TransportId × Message) :=
  es.filterMap fun e =>
    match e.op.call with
    | .mail (.send transport message) => some (transport, message)
    | _ => none

section Submissions

variable {lib : Lib} {ctx : SendCtx} {payloadJson : String} {es : List (Event Fx)}
  {result : Except MailError SendOutcome}

/-- A send either fails its checks without a request, or makes its one request. -/
theorem doSend_steps (hrun : Prog.Steps (doSend lib ctx payloadJson).run es (.ret result)) :
    (∃ fields message answer, lib.mailPayload payloadJson = .ok fields ∧
        checked lib ctx (.ofFields fields) = .ok message ∧
        es = [⟨⟨.mail (.send ctx.transport message), none⟩, answer⟩] ∧
        result = sendResult lib (.ofFields fields) message answer) ∨
      submissions es = [] ∧ (∃ err, result = .error err) ∧
        ∀ fields, lib.mailPayload payloadJson = .ok fields →
          ∀ message, checked lib ctx (.ofFields fields) ≠ .ok message := by
  cases hfields : lib.mailPayload payloadJson with
  | error err =>
    rw [doSend_unparsed payloadJson hfields] at hrun
    obtain ⟨rfl, hret⟩ := Prog.steps_ret hrun
    cases hret
    refine .inr ⟨rfl, ⟨_, rfl⟩, fun fields hparsed => ?_⟩
    cases hparsed
  | ok fields =>
    rw [doSend_run payloadJson hfields] at hrun
    cases hchecked : checked lib ctx (.ofFields fields) with
    | error err =>
      rw [hchecked] at hrun
      obtain ⟨rfl, hret⟩ := Prog.steps_ret hrun
      cases hret
      refine .inr ⟨rfl, ⟨err, rfl⟩, fun fields' hfields' message hmessage => ?_⟩
      cases hfields'
      rw [hchecked] at hmessage
      cases hmessage
    | ok message =>
      rw [hchecked] at hrun
      obtain ⟨answer, rest, rfl, hrest⟩ := steps_ask hrun
      obtain ⟨rfl, hret⟩ := Prog.steps_ret hrest
      cases hret
      exact .inl ⟨fields, message, answer, rfl, hchecked, rfl, rfl⟩

/-- A send submits exactly what the policy permits: one message for the addresses of the
payload in order, none of them outside the allowlist. The metric counts these addresses
if the transport answers the submission with a response, and none if it fails. -/
theorem doSend_policy (hlib : MailLib lib)
    (hrun : Prog.Steps (doSend lib ctx payloadJson).run es (.ret result)) :
    (submissions es ≠ [] ↔ ∃ fields built, lib.mailPayload payloadJson = .ok fields ∧
        Permitted lib ctx (.ofFields fields) built) ∧
      (submissions es = [] → ∃ err, result = .error err) ∧
      ∀ fields built, lib.mailPayload payloadJson = .ok fields →
        Permitted lib ctx (.ofFields fields) built →
          ∃ answer : Except SmtpError Response,
            es = [⟨⟨.mail (.send ctx.transport built), none⟩, answer⟩] ∧
            submissions es = [(ctx.transport, built)] ∧
            List.Forall₂ (Reads lib) (SendPayload.ofFields fields).addresses built.envelope ∧
            (∀ mailbox ∈ built.envelope, Allowed lib ctx.allowedDomains mailbox) ∧
            result.isOk = answer.isOk ∧
            ∀ start, (buildMetric "send" result.toOption start).Sat (fun _ => True) fun metric =>
              metric.recipients =
                if answer.isOk then (SendPayload.ofFields fields).addresses.length else 0 := by
  have hchecked : ∀ {fields message}, lib.mailPayload payloadJson = .ok fields →
      (checked lib ctx (.ofFields fields) = .ok message ↔
        Permitted lib ctx (.ofFields fields) message) :=
    fun hfields => checked_eq_ok (hlib.countRecipients_eq hfields)
  rcases doSend_steps hrun with ⟨fields, message, answer, hfields, hmessage, rfl, rfl⟩ |
      ⟨hnone, hfail, hrefused⟩
  · refine ⟨iff_of_true (List.cons_ne_nil _ _)
      ⟨fields, message, hfields, (hchecked hfields).mp hmessage⟩, nofun, ?_⟩
    · intro fields' built hfields' hpermitted
      obtain rfl : fields = fields' := Except.ok.inj (hfields.symm.trans hfields')
      obtain rfl : message = built :=
        Except.ok.inj (hmessage.symm.trans ((hchecked hfields).mpr hpermitted))
      obtain ⟨hreads, hallowed⟩ := hpermitted.envelope hlib
      cases answer with
      | error err =>
        exact ⟨.error err, rfl, rfl, hreads, hallowed, rfl, fun start => Prog.Sat.after fun _ => rfl⟩
      | ok response =>
        exact ⟨.ok response, rfl, rfl, hreads, hallowed, rfl,
          fun start => Prog.Sat.after fun _ => hlib.countRecipients_eq hfields⟩
  · refine ⟨iff_of_false (by rw [hnone]; exact fun h => h rfl) ?_, fun _ => hfail, ?_⟩
    · rintro ⟨fields, built, hfields, hpermitted⟩
      exact hrefused fields hfields built ((hchecked hfields).mpr hpermitted)
    · intro fields built hfields hpermitted
      exact absurd ((hchecked hfields).mpr hpermitted) (hrefused fields hfields built)

end Submissions

/-- Reading an address at its `@`, and a payload with an address in each list. -/
def receiptLib : Lib :=
  { Lib.rejecting with
    mailPayload := fun _ => .ok ⟨none, some ["ann@Shop.example"], some ["bob@shop.example"],
      some ["eve@SHOP.example"], none, none, none, none⟩
    toLowercase := fun text => .ofList (text.toList.map Char.toLower)
    parseMailbox := fun addr =>
      match addr.toList.dropWhile (· ≠ '@') with
      | _ :: domain => .ok ⟨addr, .ofList domain⟩
      | [] => .error "missing domain"
    buildMessage := fun message => .ok message }

private theorem receiptLib_mail : MailLib receiptLib where
  envelope h := by
    cases h
    rfl
  fits h := by
    cases h
    decide

/-- A transport, the sender of the configuration, and an allowlist of one domain. -/
def receiptCtx : SendCtx := ⟨0, "till@shop.example", 3, ["SHOP.example"]⟩

def receipt : Message where
  sender := ⟨"till@shop.example", "shop.example"⟩
  to' := [⟨"ann@Shop.example", "Shop.example"⟩]
  cc := [⟨"bob@shop.example", "shop.example"⟩]
  bcc := [⟨"eve@SHOP.example", "SHOP.example"⟩]
  replyTo := none
  subject := ""
  body := .plain ""

private theorem receipt_permitted (fields : MailFields)
    (h : receiptLib.mailPayload "\x7b\x7d" = .ok fields) :
    Permitted receiptLib receiptCtx (.ofFields fields) receipt := by
  apply (checked_eq_ok (receiptLib_mail.countRecipients_eq h)).mp
  cases h
  rfl

theorem doSend_policy_receipt :
    ∃ es result, Prog.Steps (doSend receiptLib receiptCtx "\x7b\x7d").run es (.ret result) ∧
      submissions es = [(0, receipt)] ∧ result.isOk = true ∧
      ∀ mailbox ∈ receipt.envelope, Allowed receiptLib ["SHOP.example"] mailbox := by
  have hrun : Prog.Steps (doSend receiptLib receiptCtx "\x7b\x7d").run
      [⟨⟨.mail (.send 0 receipt), none⟩, .ok ⟨true, some "250 OK"⟩⟩] (.ret _) := .act (.refl _)
  obtain ⟨-, -, hpolicy⟩ := doSend_policy receiptLib_mail hrun
  obtain ⟨answer, hes, hsent, -, hallowed, hok, -⟩ := hpolicy _ receipt rfl (receipt_permitted _ rfl)
  cases hes
  exact ⟨_, _, hrun, hsent, hok, hallowed⟩

/-- A transport that refuses the message leaves a metric of no recipients. -/
theorem refused_send_counts_none :
    ∃ (lib : Lib) (ctx : SendCtx) (payloadJson : String) (fields : MailFields) (built : Message)
      (es fs : List (Event Fx)) (result : Except MailError SendOutcome) (metric : MailMetric),
      MailLib lib ∧ lib.mailPayload payloadJson = .ok fields ∧
        Permitted lib ctx (.ofFields fields) built ∧
        Prog.Steps (doSend lib ctx payloadJson).run es (.ret result) ∧
        submissions es = [(ctx.transport, built)] ∧
        Prog.Steps (buildMetric "send" result.toOption 0) fs (.ret metric) ∧
        metric.recipients ≠ (SendPayload.ofFields fields).addresses.length := by
  refine ⟨receiptLib, receiptCtx, "\x7b\x7d", _, receipt,
    [⟨⟨.mail (.send 0 receipt), none⟩, .error ⟨false, true, "550 no such user"⟩⟩], [tick 5], _, _,
    receiptLib_mail, rfl, receipt_permitted _ rfl, .act (.refl _), rfl, .act (.refl _), ?_⟩
  decide

/-! ## The budget of sends -/

def MailBackend.ctx (self : MailBackend) : SendCtx :=
  ⟨self.transport, self.defaultFrom, self.maxRecipients, self.allowedDomains⟩

/-- One step in the life of a backend, with what was seen of it. -/
inductive Turn where
  | call (action payload : String) (es : List (Event Fx)) (result : Except MailError String)
  | drain (metrics : List MailMetric)

/-- The life of a backend: calls one after another, with drains in between. -/
inductive Life (lib : Lib) : MailBackend → List Turn → MailBackend → Prop where
  | start (backend : MailBackend) : Life lib backend [] backend
  | call {backend later last : MailBackend} {turns : List Turn} {action payload : String}
      {es : List (Event Fx)} {result : Except MailError String}
      (life : Life lib backend turns later)
      (hrun : Prog.Steps (later.call lib action payload) es (.ret (result, last))) :
      Life lib backend (turns ++ [.call action payload es result]) last
  | drain {backend later : MailBackend} {turns : List Turn} (life : Life lib backend turns later) :
      Life lib backend (turns ++ [.drain later.drainMetrics]) later

def Turn.isCall : Turn → Bool
  | call _ _ _ _ => true
  | drain _ => false

def Turn.submitted : Turn → List (TransportId × Message)
  | call _ _ es _ => submissions es
  | drain _ => []

/-- A call the budget refused: the error, and no request of any kind. -/
def Turn.Refused : Turn → Prop
  | call _ _ es result => es = [] ∧ ∃ err, result = .error err ∧
      err.intoResourceError.code = "MAIL_OP_LIMIT" ∧ err.intoResourceError.retryable = false
  | drain _ => False

/-- A call that returned the error of a spent budget. -/
def Turn.Limited : Turn → Prop
  | call _ _ _ result => ∃ err, result = .error err ∧ err.intoResourceError.code = "MAIL_OP_LIMIT"
  | drain _ => False

/-- A call that went through dispatch, between two readings of the clock. -/
def Turn.Dispatched (lib : Lib) (ctx : SendCtx) : Turn → Prop
  | call action payload es result => ∃ start stop inner outcome,
      es = tick start :: inner ++ [tick stop] ∧
        Prog.Steps (dispatch lib ctx action payload).run inner (.ret outcome) ∧
        result = outcome.map SendOutcome.json
  | drain _ => False

section Budget

variable {lib : Lib} {ctx : SendCtx} {backend later : MailBackend} {turns : List Turn} {action payload : String}
  {es : List (Event Fx)} {result : Except MailError String}

theorem buildMetric_steps {outcome : Except MailError SendOutcome} {start : Instant}
    {metric : MailMetric}
    (hrun : Prog.Steps (buildMetric action outcome.toOption start) es (.ret metric)) :
    ∃ stop, es = [tick stop] := by
  cases outcome with
  | error err | ok out =>
    obtain ⟨stop, rest, rfl, hrest⟩ := steps_now hrun
    obtain ⟨rfl, -⟩ := Prog.steps_ret hrest
    exact ⟨stop, rfl⟩

/-- Everything one call does: it is refused, or dispatched and recorded. -/
theorem call_turn (hrun : Prog.Steps (backend.call lib action payload) es (.ret (result, later))) :
    (later.ctx = backend.ctx ∧ later.maxSends = backend.maxSends) ∧
      if withinBudget backend.maxSends backend.metrics.length then
        (Turn.call action payload es result).Dispatched lib backend.ctx ∧
          later.metrics.length = backend.metrics.length + 1
      else (Turn.call action payload es result).Refused ∧ later = backend := by
  unfold MailBackend.call at hrun
  split at hrun
  case isTrue hspent =>
    obtain ⟨rfl, hret⟩ := Prog.steps_ret hrun
    cases hret
    rw [backend.spent_iff.mp hspent]
    exact ⟨⟨rfl, rfl⟩, ⟨rfl, _, rfl, rfl, rfl⟩, rfl⟩
  case isFalse hroom =>
    have hunder : withinBudget backend.maxSends backend.metrics.length = true := by
      simpa using mt backend.spent_iff.mpr hroom
    rw [hunder]
    obtain ⟨start, rest, rfl, hrest⟩ := steps_now hrun
    obtain ⟨inner, after, outcome, rfl, hinner, hafter⟩ := Prog.steps_bind_ret hrest
    obtain ⟨built, done, metric, rfl, hbuilt, hdone⟩ := Prog.steps_bind_ret hafter
    obtain ⟨stop, rfl⟩ := buildMetric_steps hbuilt
    obtain ⟨rfl, hret⟩ := Prog.steps_ret hdone
    cases hret
    refine ⟨⟨rfl, rfl⟩, ⟨start, stop, inner, outcome, by simp, hinner, rfl⟩, ?_⟩
    exact List.length_append

private theorem dispatched_submitted {turn : Turn} (h : turn.Dispatched lib ctx) :
    turn.submitted.length ≤ 1 := by
  cases turn with
  | drain metrics => cases h
  | call action payload es result =>
    obtain ⟨start, stop, inner, outcome, rfl, hinner, -⟩ := h
    have htrim : submissions (tick start :: inner ++ [tick stop]) = submissions inner := by
      simp [submissions, tick]
    have hone : (submissions inner).length ≤ 1 := by
      unfold dispatch at hinner
      split at hinner
      · rcases doSend_steps hinner with ⟨_, _, _, -, -, rfl, -⟩ | ⟨hnone, -, -⟩
        · exact le_rfl
        · rw [hnone]
          exact Nat.zero_le _
      · obtain ⟨rfl, -⟩ := Prog.steps_ret hinner
        exact Nat.zero_le _
    simpa only [Turn.submitted, htrim] using hone

private theorem refused_submitted {turn : Turn} (h : turn.Refused) : turn.submitted = [] := by
  cases turn with
  | drain metrics => cases h
  | call action payload es result =>
    obtain ⟨rfl, -⟩ := h
    rfl

/-- What a life of calls and drains comes to, by the number of calls made. -/
structure Budgeted (lib : Lib) (backend : MailBackend) (turns : List Turn) (last : MailBackend) :
    Prop where
  ctx : last.ctx = backend.ctx
  limit : last.maxSends = backend.maxSends
  calls : ∀ i turn, (turns.filter Turn.isCall)[i]? = some turn →
    if withinBudget backend.maxSends i then turn.Dispatched lib backend.ctx else turn.Refused
  recorded : last.metrics.length =
    if backend.maxSends = 0 then (turns.filter Turn.isCall).length
    else min backend.maxSends (turns.filter Turn.isCall).length
  submitted : (turns.flatMap Turn.submitted).length ≤ last.metrics.length

/-- Each call finds the budget its predecessors left, and a drain leaves it alone. -/
theorem Life.budgeted (hlife : Life lib backend turns later) (hfresh : backend.metrics = []) :
    Budgeted lib backend turns later := by
  induction hlife with
  | start => exact ⟨rfl, rfl, by simp, by simp [hfresh], by simp⟩
  | @drain later turns life ih =>
    refine ⟨ih.ctx, ih.limit, ?_, ?_, ?_⟩
    · simpa [Turn.isCall] using ih.calls
    · simpa [Turn.isCall] using ih.recorded
    · simpa [Turn.submitted] using ih.submitted
  | @call later last turns action payload es result life hrun ih =>
    obtain ⟨⟨hctx, hlimit⟩, hturn⟩ := call_turn hrun
    rw [ih.ctx] at hctx hturn
    rw [ih.limit] at hlimit hturn
    have hcalls : (turns ++ [Turn.call action payload es result]).filter Turn.isCall =
        turns.filter Turn.isCall ++ [.call action payload es result] := by
      simp [Turn.isCall]
    have hsubmitted : ((turns ++ [Turn.call action payload es result]).flatMap Turn.submitted).length =
        (turns.flatMap Turn.submitted).length + (submissions es).length := by
      simp [Turn.submitted]
    -- the gate reads the records, of which there are as many as admitted calls
    have hgate : withinBudget backend.maxSends later.metrics.length =
        withinBudget backend.maxSends (turns.filter Turn.isCall).length := by
      have hcount := ih.recorded
      unfold withinBudget
      apply decide_eq_decide.mpr
      split at hcount <;> omega
    rw [hgate] at hturn
    have hrecorded := ih.recorded
    have hsent := ih.submitted
    cases hroom : withinBudget backend.maxSends (turns.filter Turn.isCall).length with
    | true =>
      rw [hroom, if_pos rfl] at hturn
      obtain ⟨hdispatched, hlength⟩ := hturn
      have hone := dispatched_submitted hdispatched
      refine ⟨hctx, hlimit, fun i turn hi => ?_, ?_, ?_⟩
      · rw [hcalls] at hi
        rcases getElem?_snoc hi with hold | ⟨rfl, rfl⟩
        · exact ih.calls i turn hold
        · rw [hroom, if_pos rfl]
          exact hdispatched
      · simp only [withinBudget, decide_eq_true_eq] at hroom
        rw [hcalls, List.length_append, List.length_singleton, hlength, hrecorded]
        split <;> omega
      · rw [hsubmitted, hlength]
        exact Nat.add_le_add hsent hone
    | false =>
      rw [hroom, if_neg Bool.false_ne_true] at hturn
      obtain ⟨hrefused, rfl⟩ := hturn
      have hnone := refused_submitted hrefused
      refine ⟨hctx, hlimit, fun i turn hi => ?_, ?_, ?_⟩
      · rw [hcalls] at hi
        rcases getElem?_snoc hi with hold | ⟨rfl, rfl⟩
        · exact ih.calls i turn hold
        · rw [hroom, if_neg Bool.false_ne_true]
          exact hrefused
      · simp only [withinBudget, decide_eq_false_iff_not] at hroom
        rw [hcalls, List.length_append, List.length_singleton, hrecorded]
        split <;> omega
      · rw [hsubmitted, show submissions es = [] from hnone]
        exact hsent

private theorem dispatched_not_limited {turn : Turn} (h : turn.Dispatched lib ctx) :
    ¬turn.Limited := by
  cases turn with
  | drain metrics => cases h
  | call action payload es result =>
    obtain ⟨start, stop, inner, outcome, -, hinner, rfl⟩ := h
    intro ⟨err, herr, hcode⟩
    have hfault : err.fault ∈ sendFaults :=
      (Prog.Sat.steps (dispatch_fails lib ctx action payload) hinner).2 err (map_eq_error.mp herr)
    have hother : ∀ fault ∈ sendFaults, fault.code ≠ "MAIL_OP_LIMIT" := by decide
    exact hother err.fault hfault hcode

end Budget

/-- The budget of a backend: as many calls as it allows are dispatched, every later one is
refused, and draining the metrics gives nothing back. Without a limit no call is refused. -/
theorem life_budget {lib : Lib} {backend last : MailBackend} {turns : List Turn}
    (hlife : Life lib backend turns last) (hfresh : backend.metrics = []) :
    (1 ≤ backend.maxSends →
      (∀ i turn, (turns.filter Turn.isCall)[i]? = some turn →
        (i < backend.maxSends → turn.Dispatched lib backend.ctx ∧ ¬turn.Limited) ∧
          (backend.maxSends ≤ i → turn.Refused)) ∧
      last.metrics.length = min backend.maxSends (turns.filter Turn.isCall).length ∧
      (turns.flatMap Turn.submitted).length ≤ backend.maxSends) ∧
    (backend.maxSends = 0 → ∀ turn ∈ turns, turn.isCall →
      turn.Dispatched lib backend.ctx ∧ ¬turn.Limited) := by
  have h := hlife.budgeted hfresh
  constructor
  · intro hcap
    have hrecorded := h.recorded
    rw [if_neg (by omega)] at hrecorded
    refine ⟨fun i turn hi => ?_, hrecorded, ?_⟩
    · have hcall := h.calls i turn hi
      simp only [withinBudget, decide_eq_true_eq] at hcall
      constructor
      · intro hlt
        rw [if_pos (.inr hlt)] at hcall
        exact ⟨hcall, dispatched_not_limited hcall⟩
      · intro hle
        rwa [if_neg (by omega)] at hcall
    · have hsubmitted := h.submitted
      omega
  · intro hzero turn hturn hcall
    obtain ⟨i, hi⟩ := List.mem_iff_getElem?.mp (List.mem_filter.mpr ⟨hturn, hcall⟩)
    have hcalled := h.calls i turn hi
    rw [if_pos (by simp [withinBudget, hzero])] at hcalled
    exact ⟨hcalled, dispatched_not_limited hcalled⟩

/-- A backend of one send refuses the second call after a drain. -/
theorem life_budget_one :
    ∃ (turns : List Turn) (last : MailBackend),
      Life Lib.rejecting ⟨0, "", 10, [], 1, []⟩ turns last ∧ last.metrics.length = 1 ∧
        ∃ turn, (turns.filter Turn.isCall)[1]? = some turn ∧ turn.Refused := by
  have hsent : Prog.Steps (MailBackend.call Lib.rejecting ⟨0, "", 10, [], 1, []⟩ "send" "")
      [tick 1, tick 5] (.ret (_, _)) := .act (.act (.refl _))
  have hone : Life Lib.rejecting ⟨0, "", 10, [], 1, []⟩ _ _ := .call (.start _) hsent
  have htwo : Life Lib.rejecting ⟨0, "", 10, [], 1, []⟩ (_ ++ [.call "send" "" [] _]) _ :=
    .call hone.drain (.refl _)
  have hbudget := (life_budget htwo rfl).1 le_rfl
  exact ⟨_, _, htwo, hbudget.2.1, _, rfl, (hbudget.1 1 _ rfl).2 le_rfl⟩

end Fabricd.Mail
