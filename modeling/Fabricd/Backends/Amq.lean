import Fabricd.Effects
import Fabricd.Lib
import Fabricd.Framework.Bytes

/-!
# The `amq` backend

A producer without state beyond its config: every call opens its own connection.
-/

namespace Fabricd.Amq

open Framework Broker

def amqFallback : Fault := ⟨"AMQ_ERROR", true, .operator⟩

def amqConnection : Fault := ⟨"AMQ_CONNECTION", true, .operator⟩

def amqBatch : Fault := ⟨"AMQ_BATCH_TOO_LARGE", false, .developer⟩

def amqTimeout : Fault := ⟨"AMQ_TIMEOUT", true, .operator⟩

def amqUnsupported : Fault := ⟨"AMQ_UNSUPPORTED", false, .developer⟩

inductive AmqBackend where
  | rabbitmq
  | nats
  deriving DecidableEq

structure AmqConfig where
  backend : AmqBackend
  host : String
  port : Option UInt16
  username : Option String
  password : Option String
  token : Option String
  vhost : String
  exchange : String
  maxBatch : Nat
  requestTimeoutMs : UInt64
  tls : Bool
  caCert : Option String
  deriving DecidableEq

/-- The connection port, defaulting per backend. -/
def AmqConfig.resolvedPort (self : AmqConfig) : UInt16 :=
  self.port.getD (match self.backend with
    | .rabbitmq => 5672
    | .nats => 4222)

structure AmqError where
  fault : Fault
  message : String
  deriving DecidableEq

namespace AmqError

def fallback (message : String) : AmqError := ⟨amqFallback, message⟩

def connection (message : String) : AmqError := ⟨amqConnection, message⟩

def unsupported (message : String) : AmqError := ⟨amqUnsupported, message⟩

def intoResourceError (self : AmqError) : EgressError :=
  { code := self.fault.code
    message := self.message
    source := "amq"
    details := none
    retryable := self.fault.retryable
    owner := self.fault.owner }

end AmqError

structure SendOutcome where
  json : String
  messages : Nat
  bytes : Nat

/-! ## Payloads -/

/-- One message: a routing key and the raw JSON text of its payload. -/
structure AmqMessage where
  key : String
  payload : String
  deriving DecidableEq

def defaultPayload : String := "null"

def AmqMessage.ofFields (fields : AmqMessageFields) : AmqMessage :=
  { key := fields.key.getD "", payload := fields.payload.getD defaultPayload }

/-! ## RabbitMQ -/

def rabbitArgs (config : AmqConfig) : RabbitArgs :=
  { host := config.host
    port := config.resolvedPort
    username := config.username.getD "guest"
    password := config.password.getD "guest"
    vhost := config.vhost
    tls := if config.tls then some config.caCert else none }

def buildRuntime : FabE AmqError Unit :=
  orFail (fun err => .fallback s!"failed to build runtime: {err}") (ask (.amq .buildRuntime))

/-- Publishes the messages in order, adding up the body bytes. -/
def publishAll (channel : ChannelId) (exchange : String) :
    List AmqMessage → Nat → FabE AmqError Nat
  | [], totalBytes => return totalBytes
  | message :: messages, totalBytes => do
    let content := utf8Bytes message.payload
    let totalBytes := min (totalBytes + content.length) usizeMax
    let _ : Unit ← orFail (fun err => .fallback s!"amq publish failed: {err}")
      (ask (.amq (.basicPublish channel exchange message.key content)))
    publishAll channel exchange messages totalBytes

/-- Adds the TLS adaptor when the config asks for one. -/
def setUpTls (config : AmqConfig) : FabE AmqError Unit :=
  if config.tls then
    orFail (fun err => .connection s!"amq tls setup failed: {err}")
      (ask (.amq (.tlsAdaptor config.caCert config.host)))
  else return ()

/-- Opens one connection and channel, publishes every message, then closes. -/
def publishBatch (config : AmqConfig) (messages : List AmqMessage) : FabE AmqError Nat := do
  setUpTls config
  let connection : ConnId ← orFail (fun err => .connection s!"amq connect failed: {err}")
    (ask (.amq (.rabbitOpen (rabbitArgs config))))
  let channel : ChannelId ← orFail (fun err => .connection s!"amq channel failed: {err}")
    (ask (.amq (.openChannel connection)))
  let totalBytes ← publishAll channel config.exchange messages 0
  let _ : Unit ← ExceptT.lift (ask (.amq (.closeChannel channel)))
  let _ : Unit ← ExceptT.lift (ask (.amq (.closeConnection connection)))
  return totalBytes

/-! ## NATS -/

def natsAuth (config : AmqConfig) : NatsAuth :=
  match config.username, config.token with
  | some username, _ => .userAndPassword username (config.password.getD "")
  | none, some token => .token token
  | none, none => .none

def natsArgs (config : AmqConfig) : NatsArgs :=
  { address := s!"{config.host}:{config.resolvedPort}"
    requestTimeoutMs := config.requestTimeoutMs
    auth := natsAuth config
    requireTls := config.tls
    rootCertificates := if config.tls then config.caCert else none }

/-- Connects to the NATS server, applying auth and TLS. -/
def natsConnect (config : AmqConfig) : FabE AmqError ConnId :=
  orFail (fun err => .connection s!"nats connect failed: {err}")
    (ask (.amq (.natsConnect (natsArgs config))))

def natsPublishAll (client : ConnId) : List AmqMessage → Nat → FabE AmqError Nat
  | [], totalBytes => return totalBytes
  | message :: messages, totalBytes => do
    let content := utf8Bytes message.payload
    let totalBytes := min (totalBytes + content.length) usizeMax
    let _ : Unit ← orFail (fun err => .fallback s!"nats publish failed: {err}")
      (ask (.amq (.natsPublish client message.key content)))
    natsPublishAll client messages totalBytes

/-- Publishes every message to its subject, then flushes to confirm delivery. -/
def natsPublish (config : AmqConfig) (messages : List AmqMessage) : FabE AmqError Nat := do
  let client ← natsConnect config
  let totalBytes ← natsPublishAll client messages 0
  let _ : Unit ← orFail (fun err => .fallback s!"nats flush failed: {err}")
    (ask (.amq (.natsFlush client)))
  return totalBytes

/-- `str::contains`. -/
def contains (text pattern : String) : Bool :=
  (text.toList.tails).any fun rest => pattern.toList.isPrefixOf rest

/-- Classifies a NATS request error from its message. -/
def classifyRequestError (lib : Lib) (message : String) : Fault :=
  let lowered := lib.toLowercase message
  if contains lowered "no responders" || contains lowered "timed out"
      || contains lowered "timeout" then
    amqTimeout
  else
    amqFallback

/-- Sends a request and wraps the reply body under `reply`. -/
def natsRequest (lib : Lib) (config : AmqConfig) (subject payload : String) :
    FabE AmqError (String × Nat) := do
  let client ← natsConnect config
  let requestBytes := payload.utf8ByteSize
  let reply : List UInt8 ← orFail
    (fun err => ⟨classifyRequestError lib err, s!"nats request failed: {err}"⟩)
    (ask (.amq (.natsRequest client subject (utf8Bytes payload))))
  let bodyText := lib.fromUtf8Lossy reply
  let body := (lib.fromStr bodyText).toOption.getD (.string bodyText)
  return (lib.display (.object [("reply", body)]), requestBytes)

/-! ## Dispatch -/

/-- Parses and validates the batch, then publishes it. -/
def doSend (lib : Lib) (config : AmqConfig) (payloadJson : String) :
    FabE AmqError SendOutcome := do
  let fields ← ofExcept ((lib.amqSendPayload payloadJson).mapError
    fun err => .fallback s!"invalid amq payload: {err}")
  let messages := (fields.messages.getD []).map .ofFields
  let count := messages.length
  if count = 0 then
    ofExcept (.error (.fallback "amq.send requires at least one message"))
  else if config.maxBatch < count then
    ofExcept (.error ⟨amqBatch, s!"batch too large: {count} (max {config.maxBatch})"⟩)
  else
    buildRuntime
    let bytes ←
      match config.backend with
      | .rabbitmq => publishBatch config messages
      | .nats => natsPublish config messages
    let json := "\x7b\"published\":" ++ toString count ++ "\x7d"
    return { json, messages := count, bytes }

/-- Parses and dispatches a request-reply, which only the NATS backend has. -/
def doRequest (lib : Lib) (config : AmqConfig) (payloadJson : String) :
    FabE AmqError SendOutcome := do
  if config.backend ≠ .nats then
    ofExcept (.error (.unsupported "amq.request requires the nats backend"))
  else
    let req ← ofExcept ((lib.amqRequestPayload payloadJson).mapError
      fun err => .fallback s!"invalid amq payload: {err}")
    buildRuntime
    let (json, bytes) ←
      natsRequest lib config (req.subject.getD "") (req.payload.getD defaultPayload)
    return { json, messages := 1, bytes }

def dispatch (lib : Lib) (config : AmqConfig) (action payloadJson : String) :
    FabE AmqError SendOutcome :=
  match action with
  | "send" => doSend lib config payloadJson
  | "request" => doRequest lib config payloadJson
  | other => ofExcept (.error (.fallback s!"unknown amq action: {other}"))

def buildMetric (action : String) (outcome : Option SendOutcome) (start : Instant) :
    Fab AmqMetric := do
  let (messages, bytes, published) :=
    match outcome with
    | none => (0, 0, false)
    | some out => (out.messages, out.bytes, true)
  let durationUs ← elapsedMicros start
  return { action, durationUs, messages, bytes, published }

/-- The operator config and the metrics recorded so far. -/
structure AmqProducer where
  config : AmqConfig
  metrics : Collector AmqMetric

def AmqProducer.new (config : AmqConfig) : AmqProducer := { config, metrics := [] }

/-- Runs one action and records its metric. -/
def AmqProducer.call (lib : Lib) (self : AmqProducer) (action payloadJson : String) :
    Fab (Except AmqError String × AmqProducer) := do
  let start ← now
  let result ← (dispatch lib self.config action payloadJson).run
  let metric ← buildMetric action result.toOption start
  return (result.map SendOutcome.json, { self with metrics := self.metrics.record metric })

def AmqProducer.drainMetrics (self : AmqProducer) : List AmqMetric := self.metrics.drain

end Fabricd.Amq
