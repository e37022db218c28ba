import Fabricd.Effects
import Fabricd.Lib

/-!
# The `mail` backend

One SMTP transport per session, a send policy, and the budget of sends.
-/

namespace Fabricd.Mail

open Framework Smtp

def mailFallback : Fault := ⟨"MAIL_ERROR", true, .operator⟩

def mailOpLimit : Fault := ⟨"MAIL_OP_LIMIT", false, .developer⟩

structure MailError where
  fault : Fault
  message : String
  deriving DecidableEq

/-- A 4xx reply is transient, a 5xx reply permanent, anything else the fallback. -/
def classify (err : SmtpError) : Fault :=
  if err.transient then ⟨"MAIL_TRANSIENT", true, .operator⟩
  else if err.permanent then ⟨"MAIL_PERMANENT", false, .developer⟩
  else mailFallback

namespace MailError

def fallback (message : String) : MailError := ⟨mailFallback, message⟩

def fromDriver (err : SmtpError) : MailError := ⟨classify err, err.message⟩

def intoResourceError (self : MailError) : EgressError :=
  { code := self.fault.code
    message := self.message
    source := "mail"
    details := none
    retryable := self.fault.retryable
    owner := self.fault.owner }

end MailError

structure MailConfig where
  host : String
  port : UInt16
  user : String
  password : String
  tls : TlsMode
  sender : String
  maxRecipients : Nat
  allowedRecipientDomains : List String
  maxSends : Nat
  timeoutMs : UInt64
  deriving DecidableEq

/-- Parsed payload of a `send`. -/
structure SendPayload where
  sender : String
  to' : List String
  cc : List String
  bcc : List String
  replyTo : String
  subject : String
  text : String
  html : String
  deriving DecidableEq

def SendPayload.ofFields (fields : MailFields) : SendPayload :=
  { sender := fields.sender.getD ""
    to' := fields.to'.getD []
    cc := fields.cc.getD []
    bcc := fields.bcc.getD []
    replyTo := fields.replyTo.getD ""
    subject := fields.subject.getD ""
    text := fields.text.getD ""
    html := fields.html.getD "" }

structure SendOutcome where
  json : String
  recipients : Nat
  bytes : Nat
  accepted : Bool

/-- The transport and the policy of one send. -/
structure SendCtx where
  transport : TransportId
  defaultFrom : String
  maxRecipients : Nat
  allowedDomains : List String

/-! ## Transport -/

def transportSettings (config : MailConfig) : TransportSettings :=
  { tls := config.tls
    host := config.host
    port := config.port
    timeoutMs := config.timeoutMs
    credentials := if config.user.isEmpty then none else some (config.user, config.password) }

/-- The builder for a TLS mode; only the two TLS modes can fail. -/
def relay (config : MailConfig) : FabE String Unit :=
  match config.tls with
  | .none => return ()
  | tls => ExceptT.mk (ask (.mail (.relay tls config.host)))

/-- Builds the SMTP transport. -/
def buildTransport (config : MailConfig) : FabE String TransportId := do
  relay config
  let transport : TransportId ← ExceptT.lift (ask (.mail (.buildTransport (transportSettings config))))
  return transport

structure MailBackend where
  transport : TransportId
  defaultFrom : String
  maxRecipients : Nat
  allowedDomains : List String
  maxSends : Nat
  metrics : Collector MailMetric

def MailBackend.connectResource (config : MailConfig) : Fab (Except EgressError MailBackend) := do
  let built ← (buildTransport config).run
  match built with
  | .error err =>
    return .error
      { code := mailFallback.code
        message := err
        source := "mail"
        details := none
        retryable := mailFallback.retryable
        owner := mailFallback.owner }
  | .ok transport =>
    return .ok
      { transport
        defaultFrom := config.sender
        maxRecipients := config.maxRecipients
        allowedDomains := config.allowedRecipientDomains
        maxSends := config.maxSends
        metrics := [] }

/-! ## Send -/

def parseMailbox (lib : Lib) (addr field : String) : Except String Mailbox :=
  (lib.parseMailbox addr).mapError fun err => s!"invalid {field} address '{addr}': {err}"

/-- Total recipients across to, cc and bcc (saturating). -/
def countRecipients (payload : SendPayload) : Nat :=
  min (min (payload.to'.length + payload.cc.length) usizeMax + payload.bcc.length) usizeMax

/-- Rejects any recipient whose domain is not in `allowed`, whatever its case. -/
def enforceRecipientDomains (lib : Lib) (payload : SendPayload) (allowed : List String) :
    Except MailError Unit :=
  if allowed.isEmpty then .ok ()
  else
    (payload.to' ++ payload.cc ++ payload.bcc).forM fun addr => do
      let mailbox ← (parseMailbox lib addr "recipient").mapError .fallback
      let domain := lib.toLowercase mailbox.domain
      if allowed.any fun allow => lib.toLowercase allow == domain then .ok ()
      else .error (.fallback s!"recipient domain '{domain}' is not in allowed_recipient_domains")

/-- Attaches the body: plain, html, or both as alternatives. -/
def buildBody (payload : SendPayload) : Body :=
  if !payload.text.isEmpty && !payload.html.isEmpty then
    .alternativePlainHtml payload.text payload.html
  else if !payload.html.isEmpty then .html payload.html
  else .plain payload.text

/-- Builds the message from a payload, validating every address. -/
def buildMessage (lib : Lib) (payload : SendPayload) (defaultFrom : String) :
    Except String Message := do
  let fromStr := if payload.sender.isEmpty then defaultFrom else payload.sender
  let sender ← parseMailbox lib fromStr "from"
  let to' ← payload.to'.mapM fun addr => parseMailbox lib addr "to"
  let cc ← payload.cc.mapM fun addr => parseMailbox lib addr "cc"
  let bcc ← payload.bcc.mapM fun addr => parseMailbox lib addr "bcc"
  let replyTo ←
    if payload.replyTo.isEmpty then .ok none
    else (parseMailbox lib payload.replyTo "reply_to").map some
  let message : Message :=
    { sender, to', cc, bcc, replyTo, subject := payload.subject, body := buildBody payload }
  (lib.buildMessage message).mapError fun err => s!"failed to build message: {err}"

/-- Builds and sends one message. -/
def doSend (lib : Lib) (ctx : SendCtx) (payloadJson : String) : FabE MailError SendOutcome := do
  let fields ← ofExcept ((lib.mailPayload payloadJson).mapError
    fun err => .fallback s!"invalid mail payload: {err}")
  let payload := SendPayload.ofFields fields
  let recipients := countRecipients payload
  if recipients = 0 then
    ofExcept (.error (.fallback "at least one recipient (to/cc/bcc) is required"))
  else if ctx.maxRecipients < recipients then
    ofExcept (.error (.fallback s!"too many recipients: {recipients} (max {ctx.maxRecipients})"))
  else
    ofExcept (enforceRecipientDomains lib payload ctx.allowedDomains)
    let message ← ofExcept ((buildMessage lib payload ctx.defaultFrom).mapError .fallback)
    let bytes := lib.formattedLen message
    let response : Response ←
      orFail .fromDriver (ask (.mail (.send ctx.transport message)))
    let accepted := response.positive
    let line := response.firstLine.getD ""
    let escaped :=
      match lib.toStr (.string line) with
      | .ok text => text
      | .error _ => "\"\""
    let json := "\x7b\"accepted\":" ++ toString accepted ++ ",\"response\":" ++ escaped ++ "\x7d"
    return { json, recipients, bytes, accepted }

def dispatch (lib : Lib) (ctx : SendCtx) (action payloadJson : String) :
    FabE MailError SendOutcome :=
  match action with
  | "send" => doSend lib ctx payloadJson
  | other => ofExcept (.error (.fallback s!"unknown mail action: {other}"))

def buildMetric (action : String) (outcome : Option SendOutcome) (start : Instant) :
    Fab MailMetric := do
  let (recipients, bytes, accepted) :=
    match outcome with
    | none => (0, 0, false)
    | some out => (out.recipients, out.bytes, out.accepted)
  let durationUs ← elapsedMicros start
  return { action, durationUs, recipients, bytes, accepted }

/-- Runs one action and records its metric, unless the send budget is exhausted. -/
def MailBackend.call (lib : Lib) (self : MailBackend) (action payloadJson : String) :
    Fab (Except MailError String × MailBackend) := do
  if self.maxSends ≠ 0 ∧ self.maxSends ≤ self.metrics.opCount then
    return (.error ⟨mailOpLimit, s!"too many mail.send calls: limit is {self.maxSends}"⟩, self)
  else
    let start ← now
    let ctx : SendCtx :=
      { transport := self.transport
        defaultFrom := self.defaultFrom
        maxRecipients := self.maxRecipients
        allowedDomains := self.allowedDomains }
    let result ← (dispatch lib ctx action payloadJson).run
    let metric ← buildMetric action result.toOption start
    return (result.map SendOutcome.json, { self with metrics := self.metrics.record metric })

def MailBackend.drainMetrics (self : MailBackend) : List MailMetric := self.metrics.drain

end Fabricd.Mail
