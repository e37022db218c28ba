import Fabricd.Deliveries
import Fabricd.Backends.Batches

/-!
# The messages of a session

What a session hands over for its broker: the messages of its calls, and how its answers tell of
them. A message counts as taken when the driver answers it without an error. For a publish that
says nothing of the broker, which is not asked to confirm; for a request it is the reply.
-/

namespace Fabricd.Amq

open Framework Broker ClientAuth

/-- A message for the broker: the exchange if it has one, a key or a subject, and a body. -/
structure Message where
  exchange : Option String
  key : String
  body : List UInt8
  deriving DecidableEq

/-- The message a request hands to the driver, and whether that answers without an error. -/
def offer : Event Fx → Option (Message × Bool)
  | ⟨⟨.amq (.basicPublish _ exchange key body), _⟩, (answer : Except String Unit)⟩ =>
    some (⟨some exchange, key, body⟩, answer.isOk)
  | ⟨⟨.amq (.natsPublish _ subject body), _⟩, (answer : Except String Unit)⟩ =>
    some (⟨none, subject, body⟩, answer.isOk)
  | ⟨⟨.amq (.natsRequest _ subject body), _⟩, (answer : Except String (List UInt8))⟩ =>
    some (⟨none, subject, body⟩, answer.isOk)
  | _ => none

private theorem offer_amq (e : Event Fx) (h : e.op.call.capability ≠ some .amq) :
    offer e = none := by
  obtain ⟨⟨call, budget⟩, answer⟩ := e
  cases call with
  | amq op => exact absurd rfl h
  | _ => rfl

/-! ## Plans -/

def exchangeOf (config : AmqConfig) : Option String :=
  match config.backend with
  | .rabbitmq => some config.exchange
  | .nats => none

/-- A message of a batch on the configured broker. -/
def AmqMessage.on (config : AmqConfig) (message : AmqMessage) : Message :=
  ⟨exchangeOf config, message.key, utf8Bytes message.payload⟩

/-- What a call is to hand over: the messages of a batch that is not too large, or one request
if the broker has requests. -/
def plan (lib : Lib) (config : AmqConfig) (action payloadJson : String) : List Message :=
  match action with
  | "send" =>
    match lib.amqSendPayload payloadJson with
    | .error _ => []
    | .ok fields =>
      if config.maxBatch < (batch fields).length then [] else (batch fields).map (·.on config)
  | "request" =>
    match config.backend, lib.amqRequestPayload payloadJson with
    | .nats, .ok req => [⟨none, req.subject.getD "", utf8Bytes (req.payload.getD defaultPayload)⟩]
    | _, _ => []
  | _ => []

/-- The answer of a NATS batch may be an error although the driver took all of it: there is
still the flush. -/
def contract (lib : Lib) (config : AmqConfig) : Contract Message where
  plan := plan lib config
  acts _ := True
  spares action := config.backend = .nats ∧ action = "send"

/-! ## Stages -/

private theorem quiet_stage {α β : Type} {p : Fab (Except String α)} {into : String → AmqError}
    {f : α → FabE AmqError β} {left : Option (List Message)}
    {R : Option (List Message) → Except AmqError β → Prop}
    (hp : p.Meets (delivery offer) (fun left' _ => left' = left) left)
    (hfailed : ∀ err, R left (.error err)) (hpassed : ∀ a, (f a).run.Meets (delivery offer) R left) :
    (orFail into p >>= f).run.Meets (delivery offer) R left := by
  have hstage : (orFail into p).run.Meets (delivery offer) (fun left' _ => left' = left) left :=
    hp.bind fun left' answer h => h
  apply Meets.stages hstage
  · rintro _ err rfl
    exact hfailed err
  · rintro _ a rfl
    exact hpassed a

private theorem handed_stage {α β : Type} {p : Fab (Except String α)} {into : String → AmqError}
    {f : α → FabE AmqError β} {message : Message} {rest : List Message}
    {R : Option (List Message) → Except AmqError β → Prop}
    (hp : p.Meets (delivery offer)
      (fun left answer => left = if answer.isOk then some rest else none) (some (message :: rest)))
    (hrefused : ∀ err, R none (.error err))
    (htaken : ∀ a, (f a).run.Meets (delivery offer) R (some rest)) :
    (orFail into p >>= f).run.Meets (delivery offer) R (some (message :: rest)) := by
  have hstage : (orFail into p).run.Meets (delivery offer)
      (fun left r => left = if r.isOk then some rest else none) (some (message :: rest)) := by
    refine hp.bind fun left answer h => ?_
    rw [h]
    cases answer <;> rfl
  apply Meets.stages hstage
  · rintro _ err rfl
    exact hrefused err
  · rintro _ a rfl
    exact htaken a

section

variable {config : AmqConfig} {messages : List AmqMessage}

/-- What is left after a loop: nothing, and no more after a failure. -/
def Through {α : Type} (left : Option (List Message)) (r : Except AmqError α) : Prop :=
  left = match r with
    | .ok _ => some []
    | .error _ => none

/-- A loop that hands its messages over one by one. -/
theorem loop_delivers {loop : List AmqMessage → Nat → FabE AmqError Nat}
    {publish : AmqMessage → Fab (Except String Unit)} {into : String → AmqError}
    (hnil : ∀ total, loop [] total = pure total)
    (hcons : ∀ message messages total, loop (message :: messages) total =
      orFail into (publish message) >>= fun _ =>
        loop messages (min (total + (utf8Bytes message.payload).length) usizeMax))
    (hpublish : ∀ message rest, (publish message).Meets (delivery offer)
      (fun left answer => left = if answer.isOk then some rest else none)
      (some (message.on config :: rest)))
    (messages : List AmqMessage) (total : Nat) :
    (loop messages total).run.Meets (delivery offer) Through (some (messages.map (·.on config))) := by
  induction messages generalizing total with
  | nil =>
    rw [hnil]
    rfl
  | cons message messages ih =>
    rw [hcons]
    exact handed_stage (hpublish message _) (fun _ => rfl) fun _ => ih _

private theorem publishAll_delivers (channel : ChannelId) (total : Nat)
    (hbackend : config.backend = .rabbitmq) :
    (publishAll channel config.exchange messages total).run.Meets (delivery offer) Through
      (some (messages.map (·.on config))) := by
  have hpublish (message : AmqMessage) (rest : List Message) :
      (ask (.amq (.basicPublish channel config.exchange message.key
        (utf8Bytes message.payload)))).Meets (delivery offer)
          (fun left answer => left = if (answer : Except String Unit).isOk then some rest else none)
          (some (message.on config :: rest)) := by
    have hon : message.on config = ⟨some config.exchange, message.key, utf8Bytes message.payload⟩ := by
      simp [AmqMessage.on, exchangeOf, hbackend]
    rw [hon]
    exact Prog.perform_offer _ fun _ => rfl
  exact loop_delivers (fun _ => rfl) (fun _ _ _ => rfl) hpublish messages total

private theorem natsPublishAll_delivers (client : ConnId) (total : Nat)
    (hbackend : config.backend = .nats) :
    (natsPublishAll client messages total).run.Meets (delivery offer) Through
      (some (messages.map (·.on config))) := by
  have hpublish (message : AmqMessage) (rest : List Message) :
      (ask (.amq (.natsPublish client message.key (utf8Bytes message.payload)))).Meets
        (delivery offer)
          (fun left answer => left = if (answer : Except String Unit).isOk then some rest else none)
          (some (message.on config :: rest)) := by
    have hon : message.on config = ⟨none, message.key, utf8Bytes message.payload⟩ := by
      simp [AmqMessage.on, exchangeOf, hbackend]
    rw [hon]
    exact Prog.perform_offer _ fun _ => rfl
  exact loop_delivers (fun _ => rfl) (fun _ _ _ => rfl) hpublish messages total

end

/-! ## One call -/

section

variable {config : AmqConfig} {action : String} {α : Type}

def Delivers (config : AmqConfig) (action : String) (planned : List Message)
    (p : Fab (Except AmqError α)) : Prop :=
  p.Meets (delivery offer)
    (fun left r => Tells planned True (config.backend = .nats ∧ action = "send") (left = some []) r)
    (some planned)

private theorem setUpTls_quiet (left : Option (List Message)) :
    (setUpTls config).run.Meets (delivery offer) (fun left' _ => left' = left) left := by
  unfold setUpTls
  split
  · exact (Prog.perform_quiet (fun _ => rfl) left).bind fun left' answer h => h
  · exact rfl

private theorem publishBatch_delivers {messages : List AmqMessage} (hmessages : messages ≠ [])
    (hbackend : config.backend = .rabbitmq) :
    Delivers config "send" (messages.map (·.on config)) (publishBatch config messages).run := by
  have hplanned : messages.map (·.on config) ≠ [] := by simpa using hmessages
  apply Meets.stages (setUpTls_quiet _)
  · rintro _ err rfl
    exact .unsent err
  rintro _ _ rfl
  refine quiet_stage ?_ .unsent fun connection => ?_
  · exact Prog.perform_quiet (fun _ => rfl) _
  refine quiet_stage ?_ .unsent fun channel => ?_
  · exact Prog.perform_quiet (fun _ => rfl) _
  apply Meets.stages (publishAll_delivers channel 0 hbackend)
  · rintro _ err rfl
    exact .stopped err
  rintro _ total rfl
  -- what closing the channel and the connection comes to is dropped
  refine (Prog.perform_quiet (fun _ => rfl) _).bind ?_
  rintro _ _ rfl
  refine (Prog.perform_quiet (fun _ => rfl) _).bind ?_
  rintro _ _ rfl
  exact .sent (fun _ => hplanned) total

private theorem natsPublish_delivers {messages : List AmqMessage} (hmessages : messages ≠ [])
    (hbackend : config.backend = .nats) :
    Delivers config "send" (messages.map (·.on config)) (natsPublish config messages).run := by
  have hplanned : messages.map (·.on config) ≠ [] := by simpa using hmessages
  refine quiet_stage ?_ .unsent fun client => ?_
  · exact Prog.perform_quiet (fun _ => rfl) _
  apply Meets.stages (natsPublishAll_delivers client 0 hbackend)
  · rintro _ err rfl
    exact .stopped err
  rintro _ total rfl
  refine quiet_stage ?_ (fun err => ?_) fun _ => .sent (fun _ => hplanned) total
  · exact Prog.perform_quiet (fun _ => rfl) _
  · exact ⟨nofun, fun _ _ _ => ⟨hbackend, rfl⟩⟩

private theorem publishOn_delivers {messages : List AmqMessage} (hmessages : messages ≠ []) :
    Delivers config "send" (messages.map (·.on config)) (publishOn config messages).run := by
  unfold publishOn
  cases hbackend : config.backend with
  | rabbitmq => exact publishBatch_delivers hmessages hbackend
  | nats => exact natsPublish_delivers hmessages hbackend

private theorem doSend_delivers (lib : Lib) (payloadJson : String) :
    Delivers config "send" (plan lib config "send" payloadJson) (doSend lib config payloadJson).run := by
  cases hpayload : lib.amqSendPayload payloadJson with
  | error err =>
    have hrun : (doSend lib config payloadJson).run =
        .ret (.error (.fallback s!"invalid amq payload: {err}")) := by
      simp only [doSend, hpayload]
      rfl
    rw [hrun]
    exact .unsent _
  | ok fields =>
    have hplan : plan lib config "send" payloadJson =
        if config.maxBatch < (batch fields).length then [] else (batch fields).map (·.on config) := by
      simp only [plan, hpayload]
    rw [doSend_parsed hpayload, hplan]
    by_cases hnone : (batch fields).length = 0
    · rw [if_pos hnone]
      exact .unsent _
    by_cases hmany : config.maxBatch < (batch fields).length
    · rw [if_neg hnone, if_pos hmany, if_pos hmany]
      exact .unsent _
    rw [if_neg hnone, if_neg hmany, if_neg hmany]
    have hmessages : batch fields ≠ [] := fun h => hnone (congrArg List.length h)
    refine quiet_stage ?_ .unsent fun _ => ?_
    · exact Prog.perform_quiet (fun _ => rfl) _
    · apply Meets.stages (publishOn_delivers hmessages)
      · intro left err h
        exact h.of_isOk rfl
      · intro left bytes h
        exact h.of_isOk rfl

private theorem doRequest_delivers (lib : Lib) (payloadJson : String) :
    Delivers config "request" (plan lib config "request" payloadJson)
      (doRequest lib config payloadJson).run := by
  unfold doRequest
  cases hbackend : config.backend with
  | rabbitmq => exact .unsent _
  | nats =>
    cases hpayload : lib.amqRequestPayload payloadJson with
    | error err => exact .unsent _
    | ok req =>
      have hplan : plan lib config "request" payloadJson =
          [⟨none, req.subject.getD "", utf8Bytes (req.payload.getD defaultPayload)⟩] := by
        simp only [plan, hbackend, hpayload]
      rw [hplan]
      have hrequest : Delivers config "request"
          [⟨none, req.subject.getD "", utf8Bytes (req.payload.getD defaultPayload)⟩]
          (natsRequest lib config (req.subject.getD "") (req.payload.getD defaultPayload)).run := by
        refine quiet_stage ?_ .unsent fun client => ?_
        · exact Prog.perform_quiet (fun _ => rfl) _
        refine handed_stage ?_ .stopped fun reply => .sent (fun _ => List.cons_ne_nil _ _) _
        exact Prog.perform_offer _ fun _ => rfl
      refine quiet_stage ?_ .unsent fun _ => ?_
      · exact Prog.perform_quiet (fun _ => rfl) _
      · apply Meets.stages hrequest
        · intro left err h
          exact h.of_isOk rfl
        · intro left answer h
          exact h.of_isOk rfl

theorem dispatch_delivers (lib : Lib) (action payloadJson : String) :
    Delivers config action (plan lib config action payloadJson)
      (dispatch lib config action payloadJson).run := by
  unfold dispatch
  split
  · exact doSend_delivers lib payloadJson
  · exact doRequest_delivers lib payloadJson
  · exact .unsent _

theorem buildMetric_only (action : String) (outcome : Option SendOutcome) (start : Instant) :
    (buildMetric action outcome start).Only (On (· = .now)) := by
  cases outcome with
  | none | some out => exact ⟨rfl, fun _ => trivial⟩

end

/-- The config of a producer outlives its calls. -/
def OnConfig (config : Option AmqConfig) (now : Option AmqProducer) : Prop :=
  now.map AmqProducer.config = config

def contractFor (lib : Lib) (config : Option AmqConfig) : Contract Message :=
  config.elim .idle (contract lib)

/-- Whatever a producer is called with, it hands over what the call plans. -/
theorem amqCall_fulfils (lib : Lib) (config : Option AmqConfig) :
    Fulfils offer (amqCall lib) (contractFor lib config) (OnConfig config) := by
  rintro now action payloadJson rfl
  cases now with
  | none => exact ⟨.unsent _, rfl⟩
  | some producer =>
    refine Prog.Meets.bind (Q := fun left r =>
      Tells (plan lib producer.config action payloadJson) True
        (producer.config.backend = .nats ∧ action = "send") (left = some []) r.1 ∧
        r.2.config = producer.config) ?_ fun left r h => ?_
    · refine measured_meets (fun op hop => delivery_overlooks (offer_now offer_amq op hop))
        (fun result start => buildMetric_only action _ start)
        (dispatch_delivers lib action payloadJson) fun left result metric h => ?_
      refine ⟨h.of_isOk ?_, rfl⟩
      cases result <;> rfl
    · refine ⟨h.1.of_isOk ?_, congrArg some h.2⟩
      cases r.1 <;> rfl

/-! ## One session -/

/-- A NATS server that takes everything but what goes to `mail`. -/
def mailless : Env Fx Unit
  | w, ⟨.amq .buildRuntime, _⟩ => (Except.ok (), w)
  | w, ⟨.amq (.natsConnect _), _⟩ => (Except.ok 0, w)
  | w, ⟨.amq (.natsPublish _ subject _), _⟩ =>
    (if subject = "mail" then .error "closed" else Except.ok (), w)
  | w, ⟨.amq (.natsRequest _ _ _), _⟩ => (Except.ok [], w)
  | w, ⟨call, _⟩ => ((default : call.Ans), w)

def auditLib : Lib :=
  { jobsLib with amqRequestPayload := fun _ => .ok ⟨some "audit", some "2"⟩ }

def jobsShared : Shared where
  table name := if name = "jobs" then some ⟨none, .amq jobsProducer.config⟩ else none
  maxStatementTimeoutMs := 0
  breaker := false

def jobsInput : Input :=
  [.ok (.init { WireInit.empty with amq := some "jobs" }),
    .ok (.call ⟨"amq", "send", jobsPayload⟩), .ok (.call ⟨"amq", "request", ""⟩)]

def jobsSession : Outcome Fx Unit (Except String Unit) :=
  Prog.run mailless () (serve auditLib jobsShared .none jobsInput).run

end Fabricd.Amq
