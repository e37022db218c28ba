import Fabricd.Faults

/-!
# Batches of the `amq` backend

What a `send` hands over to the broker, message by message, and what it reports of it.
-/

namespace Fabricd.Amq

open Framework Broker

/-! ## What the broker sees -/

structure Attempt where
  key : String
  body : List UInt8
  accepted : Bool
  deriving DecidableEq

/-- What matters of an event: the connection is up, a publish, the flush is through. -/
inductive Mark where
  | connected
  | attempted (attempt : Attempt)
  | flushed
  deriving DecidableEq

def mark (e : Event Fx) : Option Mark :=
  match e with
  | ⟨⟨.amq (.openChannel _), _⟩, (answer : Except String ChannelId)⟩ =>
    if answer.isOk then some .connected else none
  | ⟨⟨.amq (.natsConnect _), _⟩, (answer : Except String ConnId)⟩ =>
    if answer.isOk then some .connected else none
  | ⟨⟨.amq (.basicPublish _ _ key body), _⟩, (answer : Except String Unit)⟩ =>
    some (.attempted ⟨key, body, answer.isOk⟩)
  | ⟨⟨.amq (.natsPublish _ key body), _⟩, (answer : Except String Unit)⟩ =>
    some (.attempted ⟨key, body, answer.isOk⟩)
  | ⟨⟨.amq (.natsFlush _), _⟩, (answer : Except String Unit)⟩ =>
    if answer.isOk then some .flushed else none
  | _ => none

def marks (es : List (Event Fx)) : List Mark := es.filterMap mark

def Mark.attempt : Mark → Option Attempt
  | attempted attempt => some attempt
  | _ => none

def attempts (es : List (Event Fx)) : List Attempt := (marks es).filterMap Mark.attempt

@[simp] theorem marks_nil : marks [] = [] := rfl

@[simp] theorem marks_append (es fs : List (Event Fx)) : marks (es ++ fs) = marks es ++ marks fs :=
  List.filterMap_append

@[simp] theorem marks_tick (t : Instant) (es : List (Event Fx)) : marks (tick t :: es) = marks es := rfl

def AmqMessage.attempt (accepted : Bool) (message : AmqMessage) : Attempt :=
  ⟨message.key, utf8Bytes message.payload, accepted⟩

def bodyBytes (messages : List AmqMessage) : Nat :=
  (messages.map fun message => (utf8Bytes message.payload).length).sum

/-! ## The loops -/

/-- How a loop over the messages can go that starts at a total of bytes. -/
inductive Looped (messages : List AmqMessage) (total : Nat) :
    List Mark → Except AmqError Nat → Prop where
  | through :
      Looped messages total ((messages.map (AmqMessage.attempt true)).map .attempted)
        (.ok (min (total + bodyBytes messages) usizeMax))
  | stopped {before after : List AmqMessage} {message : AmqMessage} (err : AmqError)
      (h : messages = before ++ message :: after) :
      Looped messages total
        ((before.map (AmqMessage.attempt true) ++ [message.attempt false]).map .attempted) (.error err)

theorem Looped.cons {message : AmqMessage} {messages : List AmqMessage} {total : Nat}
    {ms : List Mark} {r : Except AmqError Nat}
    (h : Looped messages (min (total + (utf8Bytes message.payload).length) usizeMax) ms r) :
    Looped (message :: messages) total (.attempted (message.attempt true) :: ms) r := by
  cases h with
  | through =>
    have hbytes : min (min (total + (utf8Bytes message.payload).length) usizeMax + bodyBytes messages)
        usizeMax = min (total + bodyBytes (message :: messages)) usizeMax := by
      simp only [bodyBytes, List.map_cons, List.sum_cons]
      omega
    rw [hbytes]
    exact .through
  | @stopped before _ _ err hsplit =>
    exact @Looped.stopped _ _ (message :: before) _ _ err (congrArg (message :: ·) hsplit)

private theorem Looped.of_ok {messages : List AmqMessage} {ms : List Mark} {bytes : Nat}
    (h : Looped messages 0 ms (.ok bytes)) :
    ms = (messages.map (AmqMessage.attempt true)).map .attempted ∧
      bytes = min (bodyBytes messages) usizeMax := by
  cases h
  rw [Nat.zero_add]
  exact ⟨rfl, rfl⟩

private theorem Looped.of_error {messages : List AmqMessage} {total : Nat} {ms : List Mark}
    {err : AmqError}
    (h : Looped messages total ms (.error err)) :
    ∃ before message after, messages = before ++ message :: after ∧
      ms = (before.map (AmqMessage.attempt true) ++ [message.attempt false]).map .attempted := by
  cases h with
  | @stopped before after message _ hsplit => exact ⟨before, message, after, hsplit, rfl⟩

/-- A loop that publishes each message in turn, and stops at the first it cannot. -/
theorem loop_marks {loop : List AmqMessage → Nat → FabE AmqError Nat}
    {publish : AmqMessage → Fab (Except String Unit)} {into : String → AmqError}
    (hnil : ∀ total, loop [] total = pure total)
    (hcons : ∀ message messages total, loop (message :: messages) total =
      orFail into (publish message) >>= fun _ =>
        loop messages (min (total + (utf8Bytes message.payload).length) usizeMax))
    (hmark : ∀ message es answer, Prog.Steps (publish message) es (.ret answer) →
      marks es = [.attempted (message.attempt answer.isOk)])
    (messages : List AmqMessage) {total : Nat} {es : List (Event Fx)} {r : Except AmqError Nat}
    (htotal : total ≤ usizeMax) (hs : Prog.Steps (loop messages total).run es (.ret r)) :
    Looped messages total (marks es) r := by
  induction messages generalizing total es with
  | nil =>
    rw [hnil] at hs
    obtain ⟨rfl, hret⟩ := Prog.steps_ret hs
    cases hret
    have hdone : min (total + bodyBytes []) usizeMax = total := min_eq_left htotal
    have hthrough : Looped [] total [] (.ok (min (total + bodyBytes []) usizeMax)) := .through
    rwa [hdone] at hthrough
  | cons message messages ih =>
    rw [hcons] at hs
    rcases steps_bindE hs with ⟨err, hpublish, rfl⟩ | ⟨es₁, es₂, _, rfl, hpublish, hrest⟩
    · obtain ⟨e, hasked, -⟩ := steps_orFail_error hpublish
      have hlast : marks es = [.attempted (message.attempt false)] := hmark _ _ _ hasked
      rw [hlast]
      exact @Looped.stopped _ _ [] messages message err rfl
    · have hfirst : marks es₁ = [.attempted (message.attempt true)] :=
        hmark _ _ _ (steps_orFail_ok hpublish)
      rw [marks_append, hfirst]
      exact .cons (ih (min_le_right _ _) hrest)

/-! ## Both brokers -/

/-- How a batch can go, by what the broker sees of it. -/
inductive Course (backend : AmqBackend) (messages : List AmqMessage) :
    List Mark → Except AmqError Nat → Prop where
  | unconnected (err : AmqError) : Course backend messages [] (.error err)
  | stopped {before after : List AmqMessage} {message : AmqMessage} (err : AmqError)
      (h : messages = before ++ message :: after) :
      Course backend messages (.connected ::
        (before.map (AmqMessage.attempt true) ++ [message.attempt false]).map .attempted) (.error err)
  | unflushed (err : AmqError) (h : backend = .nats) :
      Course backend messages (.connected :: (messages.map (AmqMessage.attempt true)).map .attempted)
        (.error err)
  | published (h : backend = .rabbitmq) :
      Course backend messages (.connected :: (messages.map (AmqMessage.attempt true)).map .attempted)
        (.ok (min (bodyBytes messages) usizeMax))
  | flushed (h : backend = .nats) :
      Course backend messages
        (.connected :: (messages.map (AmqMessage.attempt true)).map .attempted ++ [.flushed])
        (.ok (min (bodyBytes messages) usizeMax))

section

variable {config : AmqConfig} {messages : List AmqMessage} {es : List (Event Fx)}
  {r : Except AmqError Nat}

private theorem publishAll_marks {channel : ChannelId} {exchange : String}
    (hs : Prog.Steps (publishAll channel exchange messages 0).run es (.ret r)) :
    Looped messages 0 (marks es) r := by
  have hmark (message : AmqMessage) (es : List (Event Fx)) (answer : Except String Unit)
      (hrun : Prog.Steps (ask (.amq (.basicPublish channel exchange message.key
        (utf8Bytes message.payload)))) es (.ret answer)) :
      marks es = [.attempted (message.attempt answer.isOk)] := by
    rw [steps_asked hrun]
    rfl
  exact loop_marks (fun _ => rfl) (fun _ _ _ => rfl) hmark messages (Nat.zero_le _) hs

private theorem natsPublishAll_marks {client : ConnId}
    (hs : Prog.Steps (natsPublishAll client messages 0).run es (.ret r)) :
    Looped messages 0 (marks es) r := by
  have hmark (message : AmqMessage) (es : List (Event Fx)) (answer : Except String Unit)
      (hrun : Prog.Steps (ask (.amq (.natsPublish client message.key
        (utf8Bytes message.payload)))) es (.ret answer)) :
      marks es = [.attempted (message.attempt answer.isOk)] := by
    rw [steps_asked hrun]
    rfl
  exact loop_marks (fun _ => rfl) (fun _ _ _ => rfl) hmark messages (Nat.zero_le _) hs

private theorem natsPublish_course (hs : Prog.Steps (natsPublish config messages).run es (.ret r)) :
    Course .nats messages (marks es) r := by
  rcases steps_bindE hs with ⟨err, hconnect, rfl⟩ | ⟨es₁, es₂, client, rfl, hconnect, hrest⟩
  · obtain ⟨e, hasked, -⟩ := steps_orFail_error hconnect
    rw [steps_asked hasked]
    exact .unconnected err
  have hconnected : marks es₁ = [.connected] := by
    rw [steps_asked (steps_orFail_ok hconnect)]
    rfl
  rw [marks_append, hconnected]
  rcases steps_bindE hrest with ⟨err, hloop, rfl⟩ | ⟨es₃, es₄, total, rfl, hloop, hflush⟩
  · obtain ⟨before, message, after, hsplit, hmarks⟩ := (natsPublishAll_marks hloop).of_error
    rw [hmarks]
    exact .stopped err hsplit
  obtain ⟨hmarks, rfl⟩ := (natsPublishAll_marks hloop).of_ok
  rw [marks_append, hmarks]
  rcases steps_bindE hflush with ⟨err, hfailed, rfl⟩ | ⟨es₅, es₆, _, rfl, hflushed, hdone⟩
  · obtain ⟨e, hasked, -⟩ := steps_orFail_error hfailed
    have hlast : marks es₄ = [] := by
      rw [steps_asked hasked]
      rfl
    rw [hlast, List.append_nil]
    exact .unflushed err rfl
  · obtain ⟨rfl, hret⟩ := Prog.steps_ret hdone
    cases hret
    rw [steps_asked (steps_orFail_ok hflushed)]
    exact .flushed rfl

private theorem setUpTls_marks {result : Except AmqError Unit}
    (hs : Prog.Steps (setUpTls config).run es (.ret result)) : marks es = [] := by
  unfold setUpTls at hs
  split at hs
  · cases result with
    | error err =>
      obtain ⟨e, hasked, -⟩ := steps_orFail_error hs
      rw [steps_asked hasked]
      rfl
    | ok _ =>
      rw [steps_asked (steps_orFail_ok hs)]
      rfl
  · obtain ⟨rfl, -⟩ := Prog.steps_ret hs
    rfl

private theorem publishBatch_course
    (hs : Prog.Steps (publishBatch config messages).run es (.ret r)) :
    Course .rabbitmq messages (marks es) r := by
  rcases steps_bindE hs with ⟨err, htls, rfl⟩ | ⟨es₁, es₂, _, rfl, htls, hopen⟩
  · rw [setUpTls_marks htls]
    exact .unconnected err
  rw [marks_append, setUpTls_marks htls, List.nil_append]
  rcases steps_bindE hopen with ⟨err, hfailed, rfl⟩ | ⟨es₃, es₄, connection, rfl, hopened, hchannel⟩
  · obtain ⟨e, hasked, -⟩ := steps_orFail_error hfailed
    rw [steps_asked hasked]
    exact .unconnected err
  have hquiet : marks es₃ = [] := by
    rw [steps_asked (steps_orFail_ok hopened)]
    rfl
  rw [marks_append, hquiet, List.nil_append]
  rcases steps_bindE hchannel with ⟨err, hfailed, rfl⟩ | ⟨es₅, es₆, channel, rfl, hup, hrest⟩
  · obtain ⟨e, hasked, -⟩ := steps_orFail_error hfailed
    rw [steps_asked hasked]
    exact .unconnected err
  have hconnected : marks es₅ = [.connected] := by
    rw [steps_asked (steps_orFail_ok hup)]
    rfl
  rw [marks_append, hconnected]
  rcases steps_bindE hrest with ⟨err, hloop, rfl⟩ | ⟨es₇, es₈, total, rfl, hloop, hclose⟩
  · obtain ⟨before, message, after, hsplit, hmarks⟩ := (publishAll_marks hloop).of_error
    rw [hmarks]
    exact .stopped err hsplit
  obtain ⟨hmarks, rfl⟩ := (publishAll_marks hloop).of_ok
  obtain ⟨closed, rest, rfl, hnext⟩ := steps_ask hclose
  obtain ⟨closed', last, rfl, hdone⟩ := steps_ask hnext
  obtain ⟨rfl, hret⟩ := Prog.steps_ret hdone
  cases hret
  have hclosing : marks [⟨⟨.amq (.closeChannel channel), none⟩, closed⟩,
      ⟨⟨.amq (.closeConnection connection), none⟩, closed'⟩] = [] := rfl
  rw [marks_append, hmarks, hclosing, List.append_nil]
  exact .published rfl

end

/-! ## One call -/

def batch (fields : AmqSendFields) : List AmqMessage := (fields.messages.getD []).map .ofFields

/-- The bodies of a batch are parts of one text in memory. -/
structure AmqLib (lib : Lib) : Prop where
  fits : ∀ {text : String} {fields : AmqSendFields}, lib.amqSendPayload text = .ok fields →
    bodyBytes (batch fields) ≤ usizeMax

def publishOn (config : AmqConfig) (messages : List AmqMessage) : FabE AmqError Nat :=
  match config.backend with
  | .rabbitmq => publishBatch config messages
  | .nats => natsPublish config messages

def publishedJson (messages : List AmqMessage) : String :=
  "\x7b\"published\":" ++ toString messages.length ++ "\x7d"

section

variable {lib : Lib} {config : AmqConfig} {fields : AmqSendFields} {payloadJson : String}
  {es : List (Event Fx)} {result : Except AmqError SendOutcome}

theorem doSend_parsed (hfields : lib.amqSendPayload payloadJson = .ok fields) :
    doSend lib config payloadJson =
      if (batch fields).length = 0 then
        ofExcept (.error (.fallback "amq.send requires at least one message"))
      else if config.maxBatch < (batch fields).length then
        ofExcept (.error
          ⟨amqBatch, s!"batch too large: {(batch fields).length} (max {config.maxBatch})"⟩)
      else
        buildRuntime >>= fun _ => publishOn config (batch fields) >>= fun bytes =>
          pure ⟨publishedJson (batch fields), (batch fields).length, bytes⟩ := by
  unfold doSend publishOn
  rw [hfields]
  generalize config.backend = backend
  cases backend <;> rfl

private theorem publishOn_course {messages : List AmqMessage} {r : Except AmqError Nat}
    (hs : Prog.Steps (publishOn config messages).run es (.ret r)) :
    Course config.backend messages (marks es) r := by
  unfold publishOn at hs
  cases hbackend : config.backend with
  | rabbitmq =>
    rw [hbackend] at hs
    exact publishBatch_course hs
  | nats =>
    rw [hbackend] at hs
    exact natsPublish_course hs

private theorem doSend_refused (hfields : lib.amqSendPayload payloadJson = .ok fields)
    (hsize : (batch fields).length = 0 ∨ config.maxBatch < (batch fields).length)
    (hs : Prog.Steps (doSend lib config payloadJson).run es (.ret result)) :
    es = [] ∧ ∃ err, result = .error err := by
  rw [doSend_parsed hfields] at hs
  split at hs
  · obtain ⟨rfl, hret⟩ := Prog.steps_ret hs
    cases hret
    exact ⟨rfl, _, rfl⟩
  · rename_i hnone
    rw [if_pos (hsize.resolve_left hnone)] at hs
    obtain ⟨rfl, hret⟩ := Prog.steps_ret hs
    cases hret
    exact ⟨rfl, _, rfl⟩

/-- Any other batch takes one of the courses, and is reported as it went. -/
theorem doSend_course (hfields : lib.amqSendPayload payloadJson = .ok fields)
    (hnone : (batch fields).length ≠ 0) (hmany : ¬config.maxBatch < (batch fields).length)
    (hs : Prog.Steps (doSend lib config payloadJson).run es (.ret result)) :
    ∃ r, Course config.backend (batch fields) (marks es) r ∧
      result = r.map fun bytes => ⟨publishedJson (batch fields), (batch fields).length, bytes⟩ := by
  rw [doSend_parsed hfields, if_neg hnone, if_neg hmany] at hs
  rcases steps_bindE hs with ⟨err, hbuilt, rfl⟩ | ⟨es₁, es₂, _, rfl, hbuilt, hrest⟩
  · obtain ⟨e, hasked, -⟩ := steps_orFail_error hbuilt
    rw [steps_asked hasked]
    exact ⟨.error err, .unconnected err, rfl⟩
  have hquiet : marks es₁ = [] := by
    rw [steps_asked (steps_orFail_ok hbuilt)]
    rfl
  rw [marks_append, hquiet, List.nil_append]
  rcases steps_bindE hrest with ⟨err, hfailed, rfl⟩ | ⟨es₃, es₄, bytes, rfl, hpublished, hdone⟩
  · exact ⟨.error err, publishOn_course hfailed, rfl⟩
  · obtain ⟨rfl, hret⟩ := Prog.steps_ret hdone
    cases hret
    rw [List.append_nil]
    exact ⟨.ok bytes, publishOn_course hpublished, rfl⟩

end

/-- What a call reports of a batch it was let to publish. -/
structure Batched (config : AmqConfig) (messages : List AmqMessage) (es : List (Event Fx))
    (result : Except AmqError String) (metric : AmqMetric) : Prop where
  published : result = .ok (publishedJson messages) ↔
    .connected ∈ marks es ∧ (attempts es).map Attempt.accepted = messages.map (fun _ => true) ∧
      (config.backend = .nats → .flushed ∈ marks es)
  delivered : result = .ok (publishedJson messages) →
    attempts es = messages.map (AmqMessage.attempt true) ∧ metric.messages = messages.length ∧
      metric.bytes = bodyBytes messages ∧ metric.published = true
  stopped : ∀ (i : Nat) (attempt : Attempt), (attempts es)[i]? = some attempt →
    attempt.accepted = false → ∃ message, messages[i]? = some message ∧
      attempts es = (messages.take i).map (AmqMessage.attempt true) ++ [message.attempt false]
  failed : result ≠ .ok (publishedJson messages) →
    (∃ err, result = .error err) ∧ metric.messages = 0 ∧ metric.bytes = 0 ∧ metric.published = false

@[simp] theorem filterMap_attempted (as : List Attempt) :
    (as.map Mark.attempted).filterMap Mark.attempt = as := by
  rw [List.filterMap_map]
  exact List.filterMap_some

@[simp] theorem attempt_accepted (accepted : Bool) (message : AmqMessage) :
    (message.attempt accepted).accepted = accepted := rfl

private theorem accepted_of_attempts {messages : List AmqMessage} {i : Nat} {attempt : Attempt}
    (h : (messages.map (AmqMessage.attempt true))[i]? = some attempt) : attempt.accepted = true := by
  rw [List.getElem?_map, Option.map_eq_some_iff] at h
  obtain ⟨message, -, rfl⟩ := h
  rfl

theorem Course.batched {config : AmqConfig} {messages : List AmqMessage} {es : List (Event Fx)}
    {r : Except AmqError Nat} {result : Except AmqError String} {metric : AmqMetric}
    (hfits : bodyBytes messages ≤ usizeMax) (h : Course config.backend messages (marks es) r)
    (hresult : result = r.map fun _ => publishedJson messages)
    (hok : ∀ bytes, r = .ok bytes →
      metric.messages = messages.length ∧ metric.bytes = bytes ∧ metric.published = true)
    (herror : ∀ err, r = .error err →
      metric.messages = 0 ∧ metric.bytes = 0 ∧ metric.published = false) :
    Batched config messages es result metric := by
  have hattempts : attempts es = (marks es).filterMap Mark.attempt := rfl
  generalize hmarks : marks es = ms at h hattempts
  have hall (hlist : attempts es = messages.map (AmqMessage.attempt true)) (i : Nat) (attempt : Attempt)
      (hi : (attempts es)[i]? = some attempt) (hrefused : attempt.accepted = false) :
      ∃ message, messages[i]? = some message ∧
        attempts es = (messages.take i).map (AmqMessage.attempt true) ++ [message.attempt false] := by
    rw [hlist] at hi
    cases (accepted_of_attempts hi).symm.trans hrefused
  cases h with
  | unconnected err =>
    subst hresult
    refine ⟨?_, nofun, ?_, fun _ => ⟨⟨err, rfl⟩, herror err rfl⟩⟩
    · simp [hmarks, Except.map]
    · simp [hattempts]
  | @stopped before after message err hsplit =>
    have hlist : attempts es = before.map (AmqMessage.attempt true) ++ [message.attempt false] := by
      rw [hattempts, List.filterMap_cons_none rfl, filterMap_attempted]
    subst hresult
    refine ⟨?_, nofun, fun i attempt hi hrefused => ?_, fun _ => ⟨⟨err, rfl⟩, herror err rfl⟩⟩
    · constructor
      · nofun
      · rintro ⟨-, haccepted, -⟩
        have hmem : false ∈ (attempts es).map Attempt.accepted := by simp [hlist]
        simp [haccepted] at hmem
    · rw [hlist] at hi
      rcases getElem?_snoc hi with hold | ⟨rfl, rfl⟩
      · cases (accepted_of_attempts hold).symm.trans hrefused
      · exact ⟨message, by simp [hsplit], by simp [hlist, hsplit]⟩
  | unflushed err hbackend =>
    have hlist : attempts es = messages.map (AmqMessage.attempt true) := by
      rw [hattempts, List.filterMap_cons_none rfl, filterMap_attempted]
    subst hresult
    refine ⟨?_, nofun, hall hlist, fun _ => ⟨⟨err, rfl⟩, herror err rfl⟩⟩
    constructor
    · nofun
    · rintro ⟨-, -, hflushed⟩
      have hmem := hflushed hbackend
      simp [hmarks] at hmem
  | published hbackend =>
    have hlist : attempts es = messages.map (AmqMessage.attempt true) := by
      rw [hattempts, List.filterMap_cons_none rfl, filterMap_attempted]
    obtain ⟨hmessages, hbytes, hpublished⟩ := hok _ rfl
    subst hresult
    refine ⟨⟨fun _ => ⟨?_, ?_, ?_⟩, fun _ => rfl⟩, fun _ => ⟨hlist, hmessages, ?_, hpublished⟩,
      hall hlist, fun hnot => absurd rfl hnot⟩
    · simp [hmarks]
    · rw [hlist, List.map_map]
      rfl
    · intro hnats
      rw [hbackend] at hnats
      cases hnats
    · rw [hbytes, min_eq_left hfits]
  | flushed hbackend =>
    have hlist : attempts es = messages.map (AmqMessage.attempt true) := by
      rw [hattempts, List.cons_append, List.filterMap_cons_none rfl, List.filterMap_append,
        filterMap_attempted]
      exact List.append_nil _
    obtain ⟨hmessages, hbytes, hpublished⟩ := hok _ rfl
    subst hresult
    refine ⟨⟨fun _ => ⟨?_, ?_, ?_⟩, fun _ => rfl⟩, fun _ => ⟨hlist, hmessages, ?_, hpublished⟩,
      hall hlist, fun hnot => absurd rfl hnot⟩
    · simp [hmarks]
    · rw [hlist, List.map_map]
      rfl
    · simp [hmarks]
    · rw [hbytes, min_eq_left hfits]

theorem buildMetric_steps {action : String} {outcome : Option SendOutcome} {start : Instant}
    {es : List (Event Fx)} {metric : AmqMetric}
    (hs : Prog.Steps (buildMetric action outcome start) es (.ret metric)) :
    (∃ stop, es = [tick stop]) ∧
      metric.messages = outcome.elim 0 SendOutcome.messages ∧
      metric.bytes = outcome.elim 0 SendOutcome.bytes ∧ metric.published = outcome.isSome := by
  cases outcome with
  | none | some out =>
    obtain ⟨stop, rest, rfl, hrest⟩ := steps_now hs
    obtain ⟨rfl, hret⟩ := Prog.steps_ret hrest
    cases hret
    exact ⟨⟨stop, rfl⟩, rfl, rfl, rfl⟩

/-- A `send` of a batch of no size to send asks nothing. Any other hands its messages over one
by one, and reports all of them or none. -/
theorem send_batched {lib : Lib} {producer last : AmqProducer} {payloadJson : String}
    {fields : AmqSendFields} {es : List (Event Fx)} {result : Except AmqError String}
    (hlib : AmqLib lib) (hfields : lib.amqSendPayload payloadJson = .ok fields)
    (hrun : Prog.Steps (producer.call lib "send" payloadJson) es (.ret (result, last))) :
    ∃ metric, last.metrics = producer.metrics ++ [metric] ∧
      ((batch fields).length = 0 ∨ producer.config.maxBatch < (batch fields).length →
        (∀ e ∈ es, e.op.call = .now) ∧ (∃ err, result = .error err) ∧
          metric.messages = 0 ∧ metric.published = false) ∧
      ((batch fields).length ≠ 0 → (batch fields).length ≤ producer.config.maxBatch →
        Batched producer.config (batch fields) es result metric) := by
  obtain ⟨start, rest, rfl, hrest⟩ := steps_now hrun
  obtain ⟨inner, after, outcome, rfl, hsend, hafter⟩ := Prog.steps_bind_ret hrest
  obtain ⟨built, done, metric, rfl, hbuilt, hdone⟩ := Prog.steps_bind_ret hafter
  obtain ⟨⟨stop, rfl⟩, hmessages, hbytes, hpublished⟩ := buildMetric_steps hbuilt
  obtain ⟨rfl, hret⟩ := Prog.steps_ret hdone
  cases hret
  refine ⟨metric, rfl, fun hsize => ?_, fun hnone hmany => ?_⟩
  · obtain ⟨rfl, err, rfl⟩ := doSend_refused hfields hsize hsend
    refine ⟨?_, ⟨err, rfl⟩, hmessages, hpublished⟩
    simp [tick]
  · obtain ⟨r, hcourse, rfl⟩ := doSend_course hfields hnone (Nat.not_lt.mpr hmany) hsend
    have hmarks : marks (tick start :: (inner ++ ([tick stop] ++ []))) = marks inner := by simp
    apply Course.batched (r := r) (hlib.fits hfields)
    · rwa [hmarks]
    · cases r <;> rfl
    · rintro bytes rfl
      exact ⟨hmessages, hbytes, hpublished⟩
    · rintro err rfl
      exact ⟨hmessages, hbytes, hpublished⟩

def jobsPayload : String :=
  "\x7b\"messages\":[\x7b\"key\":\"jobs\",\"payload\":1\x7d,\x7b\"key\":\"mail\"\x7d]\x7d"

def jobsLib : Lib :=
  { Lib.rejecting with
    amqSendPayload := fun text =>
      if text = jobsPayload then .ok ⟨some [⟨some "jobs", some "1"⟩, ⟨some "mail", none⟩]⟩
      else .error "expected value" }

private theorem jobsLib_fits : AmqLib jobsLib where
  fits := by
    intro text fields h
    simp only [jobsLib] at h
    split at h
    · cases h
      decide
    · cases h

/-- A producer for a NATS server. -/
def jobsProducer : AmqProducer :=
  ⟨⟨.nats, "nats.test", none, none, none, none, "/", "", 10, 5000, false, none⟩, []⟩

/-- The second of two publishes fails, and nothing is reported as sent. -/
theorem send_batched_jobs :
    ∃ (es : List (Event Fx)) (result : Except AmqError String) (last : AmqProducer),
      Prog.Steps (jobsProducer.call jobsLib "send" jobsPayload) es (.ret (result, last)) ∧
        attempts es = [⟨"jobs", utf8Bytes "1", true⟩, ⟨"mail", utf8Bytes "null", false⟩] ∧
        ∃ metric, last.metrics = [metric] ∧ metric.messages = 0 := by
  have hrun : Prog.Steps (jobsProducer.call jobsLib "send" jobsPayload)
      [tick 1, ⟨⟨.amq .buildRuntime, none⟩, .ok ()⟩,
        ⟨⟨.amq (.natsConnect (natsArgs jobsProducer.config)), none⟩, .ok (0 : ConnId)⟩,
        ⟨⟨.amq (.natsPublish 0 "jobs" (utf8Bytes "1")), none⟩, .ok ()⟩,
        ⟨⟨.amq (.natsPublish 0 "mail" (utf8Bytes "null")), none⟩, .error "closed"⟩, tick 5] (.ret _) :=
    .act (.act (.act (.act (.act (.act (.refl _))))))
  obtain ⟨metric, hmetrics, -, hbatched⟩ := send_batched jobsLib_fits rfl hrun
  have hjobs := hbatched (by decide) (by decide)
  obtain ⟨message, hmessage, hattempts⟩ := hjobs.stopped 1 ⟨"mail", utf8Bytes "null", false⟩ rfl rfl
  refine ⟨_, _, _, hrun, ?_, metric, hmetrics, (hjobs.failed nofun).2.1⟩
  cases hmessage
  exact hattempts

end Fabricd.Amq
