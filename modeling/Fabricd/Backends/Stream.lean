import Fabricd.Callwise
import Fabricd.LateCalls

/-!
# The statements of a session

What a session hands to its database connection: the timeout, and after it the statements of
its calls, each once and in their order.
-/

namespace Fabricd.Db

open Framework Postgres ClientAuth

/-! ## Statements handed over -/

/-- The statement a request hands to a client. -/
def handed : FxOp → Option (ClientId × Statement)
  | ⟨.db (.timeout client statement), _⟩ => some (client, statement)
  | ⟨.db (.batchExecute client cmd), _⟩ => some (client, .batch cmd)
  | _ => none

/-- The statements a log hands over, in order. -/
def stream (log : List (Event Fx)) : List (ClientId × Statement) := log.filterMap fun e => handed e.op

@[simp] theorem stream_nil : stream [] = [] := rfl

@[simp] theorem stream_append (log es : List (Event Fx)) :
    stream (log ++ es) = stream log ++ stream es :=
  List.filterMap_append ..

private theorem handed_db {op : FxOp} (h : (handed op).isSome) :
    ∃ request, op.call = .db request := by
  obtain ⟨call, budget⟩ := op
  cases call with
  | db op => exact ⟨op, rfl⟩
  | _ => cases h

private theorem stream_eq_nil {es : List (Event Fx)} (h : ∀ e ∈ es, ∀ op, e.op.call ≠ .db op) :
    stream es = [] := by
  refine List.filterMap_eq_nil_iff.mpr fun e he => ?_
  cases hhanded : handed e.op with
  | none => rfl
  | some sent =>
    obtain ⟨op, hop⟩ := handed_db (Option.isSome_of_eq_some hhanded)
    exact absurd hop (h e he op)

private theorem stream_requests (log : List (Event Fx)) :
    stream (requests .db log) = stream log := by
  unfold stream requests
  rw [List.filterMap_filter]
  congr 1
  funext e
  cases hhanded : handed e.op with
  | none => simp
  | some sent =>
    obtain ⟨op, hop⟩ := handed_db (Option.isSome_of_eq_some hhanded)
    have hcapability : e.op.call.capability = some .db := by rw [hop]; rfl
    simp [hcapability]

/-! ## Connecting -/

/-- The statement that follows a connect. -/
def opening (config : DbConfig) (client : ClientId) : ClientId × Statement :=
  (client, .batch (timeoutCmd config))

/-- A connect hands over nothing but the timeout, and that on the client it has got. -/
def Opened (config : DbConfig) (es : List (Event Fx)) : Prop :=
  ∃ client, stream es <+: [opening config client]

private theorem Opened.of_nil {config : DbConfig} {es : List (Event Fx)} (h : stream es = []) :
    Opened config es := ⟨0, by simp [h]⟩

private theorem connect_stream (config : DbConfig) {log : List (Event Fx)} (h : stream log = []) :
    (connect config).run.Meets (Prog.history (Opened config))
      (fun es r => Opened config es ∧ ∀ client, r = .ok client →
        stream es = [opening config client]) log := by
  intro answer
  have hfirst : stream (log ++ [⟨⟨.db (.connect (connectParams config)), none⟩, answer⟩]) = [] := by
    rw [stream_append, h]
    rfl
  refine ⟨.of_nil hfirst, ?_⟩
  cases answer with
  | error err => exact ⟨.of_nil hfirst, nofun⟩
  | ok client =>
    intro answer
    have hsecond : stream (log ++ [⟨⟨.db (.connect (connectParams config)), none⟩, .ok client⟩] ++
        [⟨⟨.db (.batchExecute client (timeoutCmd config)), none⟩, answer⟩]) =
          [opening config client] := by
      rw [stream_append, hfirst]
      rfl
    have hopened : Opened config (log ++ [⟨⟨.db (.connect (connectParams config)), none⟩, .ok client⟩] ++
        [⟨⟨.db (.batchExecute client (timeoutCmd config)), none⟩, answer⟩]) :=
      ⟨client, ⟨[], by rw [hsecond, List.append_nil]⟩⟩
    refine ⟨hopened, ?_⟩
    cases answer with
    | error err => exact ⟨hopened, nofun⟩
    | ok _ =>
      refine ⟨hopened, ?_⟩
      rintro _ ⟨rfl⟩
      exact hsecond

private theorem connectThroughBreaker_stream (config : DbConfig) (breaker : Bool) :
    (connectThroughBreaker config breaker).Meets (Prog.history (Opened config))
      (fun es r => Opened config es ∧ ∀ client, r = .ok client →
        stream es = [opening config client]) [] := by
  have hdriver {r : Except PgError ClientId} {client : ClientId}
      (h : r.mapError ConnectError.driver = .ok client) : r = .ok client := mapError_ok h
  cases breaker with
  | false =>
    refine (connect_stream config rfl).bind fun es r h => ?_
    exact ⟨h.1, fun client hclient => h.2 client (hdriver hclient)⟩
  | true =>
    intro allowed
    have hasked : stream [⟨⟨.breakerAllow (breakerTarget config), none⟩, allowed⟩] = [] := rfl
    refine ⟨.of_nil hasked, ?_⟩
    cases allowed with
    | false => exact ⟨.of_nil hasked, nofun⟩
    | true =>
      refine (connect_stream config hasked).bind fun es r h => ?_
      obtain ⟨hopened, hclient⟩ := h
      have hsame : stream (es ++ [⟨⟨.breakerRecord (breakerTarget config) r.isOk, none⟩, ()⟩]) =
          stream es := by
        rw [stream_append]
        exact List.append_nil _
      have hopened' : Opened config (es ++ [⟨⟨.breakerRecord (breakerTarget config) r.isOk, none⟩, ()⟩]) := by
        unfold Opened
        rw [hsame]
        exact hopened
      intro _
      exact ⟨hopened', hopened', fun client h => hsame.trans (hclient client (hdriver h))⟩

private theorem connectResource_stream (config : DbConfig) (deps : DbDeps) :
    (DbBackend.connectResource config deps).Meets (Prog.history (Opened config))
      (fun es r => Opened config es ∧ ∀ backend, r = .ok backend →
        stream es = [opening config backend.client] ∧ backend.maxRows = config.maxRows) [] := by
  let T (ε : Type) (es : List (Event Fx)) (r : Except ε DbBackend) : Prop :=
    Opened config es ∧ ∀ backend, r = .ok backend →
      stream es = [opening config backend.client] ∧ backend.maxRows = config.maxRows
  refine Prog.Meets.bind (Q := T ConnectError) ?_ fun es r h => ?_
  · refine (connectThroughBreaker_stream config deps.breaker).bind fun es r h => ?_
    obtain ⟨hopened, hclient⟩ := h
    cases r with
    | error err => exact ⟨hopened, nofun⟩
    | ok client =>
      have hquiet (fs : List (Event Fx)) (hfs : ∀ e ∈ fs, e.op.call = .now) :
          stream (es ++ fs) = stream es := by
        have hnone : stream fs = [] := stream_eq_nil fun e he op h => by
          rw [hfs e he] at h
          cases h
        rw [stream_append, hnone, List.append_nil]
      have hopened' (fs : List (Event Fx)) (hfs : ∀ e ∈ fs, e.op.call = .now) :
          Opened config (es ++ fs) := by
        unfold Opened
        rw [hquiet fs hfs]
        exact hopened
      refine (((only_anchorDeadline deps.timeout).meets_history fun fs hfs => hopened' fs hfs).bind
        fun es' deadline h => ?_).bind fun _ _ h => h
      obtain ⟨-, fs, rfl, hfs⟩ := h
      refine ⟨hopened' fs hfs, ?_⟩
      rintro _ ⟨rfl⟩
      exact ⟨(hquiet fs hfs).trans (hclient client rfl), rfl⟩
  · obtain ⟨hopened, hbackend⟩ := h
    cases r with
    | error err => exact ⟨hopened, nofun⟩
    | ok backend =>
      refine ⟨hopened, ?_⟩
      rintro _ ⟨rfl⟩
      exact hbackend backend rfl

private theorem slot_stream {slot : DbSlot} {es : List (Event Fx)}
    {q : Fab (Except EgressError DbBackend)}
    (hs : Prog.Steps (DbSlot.connect slot) es q) :
    Opened slot.config es ∧ ∀ backend, q = .ret (.ok backend) →
      stream es = [opening slot.config backend.client] ∧ backend.maxRows = slot.config.maxRows := by
  obtain ⟨hopened, hmeets⟩ :=
    (connectResource_stream slot.config _).run_history (.of_nil rfl) hs
  refine ⟨hopened, ?_⟩
  rintro backend rfl
  exact hmeets.2 backend rfl

/-! ## One call -/

/-- The statement a call stands for, if it has one. -/
def statement (lib : Lib) (visit : Visit) : Option Statement :=
  match parseDbPayload lib visit.call.payload with
  | .error _ => none
  | .ok args => (statementOf lib visit.call.action args.sql args.paramsJson).toOption

/-- A run of a dispatch: nothing if there is no statement, and else the one statement. -/
theorem dispatch_stream {lib : Lib} {call : DbCall} {action query paramsJson : String} {maxRows : Nat}
    {es : List (Event Fx)} {q : Fab (Except DbError String)}
    (hs : Prog.Steps (dispatch lib call action query paramsJson maxRows).run es q) :
    (stream es = [] ∧ ∀ r, q = .ret r → (∃ err, r = .error err) ∧
        (statementOf lib action query paramsJson).toOption = none) ∨
      ∃ s t answer, statementOf lib action query paramsJson = .ok s ∧
        es = [tick t, awaited call.client s (call.deadline - t) answer] ∧
        q = .ret (outcome lib maxRows s answer) := by
  rw [dispatch_run] at hs
  cases hstatement : statementOf lib action query paramsJson with
  | error err =>
    rw [hstatement] at hs
    obtain ⟨rfl, rfl⟩ := Prog.steps_ret hs
    refine .inl ⟨rfl, ?_⟩
    rintro _ ⟨rfl⟩
    exact ⟨⟨err, rfl⟩, rfl⟩
  | ok s =>
    rw [hstatement] at hs
    cases hs with
    | refl => exact .inl ⟨rfl, nofun⟩
    | @act _ _ t es _ hs =>
      cases hs with
      | refl => exact .inl ⟨rfl, nofun⟩
      | @act _ _ answer es _ hs =>
        obtain ⟨rfl, rfl⟩ := Prog.steps_ret hs
        exact .inr ⟨s, t, answer, rfl, rfl, rfl⟩

/-- What a call has done with its statement: it has handed over nothing so far, and if it is
over, it failed and has none; or its statement once, and its reply is what the answer decides. -/
def Delivered (lib : Lib) (client : ClientId) (maxRows : Nat) (visit : Visit) (use : List (Event Fx))
    (replied : Option (Except EgressError String)) : Prop :=
  (stream use = [] ∧ ∀ result, replied = some result →
      (∃ err, result = .error err) ∧ statement lib visit = none) ∨
    ∃ s budget answer, statement lib visit = some s ∧ stream use = [(client, s)] ∧
      awaited client s budget answer ∈ use ∧ ∀ result, replied = some result →
        result = (outcome lib maxRows s answer).mapError DbError.intoResourceError

def returned {α : Type} : Fab (Except EgressError String × α) → Option (Except EgressError String)
  | .ret r => some r.1
  | .act _ _ => none

private theorem run_stream {lib : Lib} {backend : DbBackend} (visit : Visit) {es : List (Event Fx)}
    {q : Fab (Except EgressError String × DbBackend)}
    (hs : Prog.Steps (BackendSet.runDb lib visit.call.action visit.call.payload backend) es q) :
    Delivered lib backend.client backend.maxRows visit es (returned q) := by
  unfold BackendSet.runDb at hs
  cases hpayload : parseDbPayload lib visit.call.payload with
  | error err =>
    have hnone : statement lib visit = none := by simp [statement, hpayload]
    rw [hpayload] at hs
    obtain ⟨rfl, rfl⟩ := Prog.steps_ret hs
    refine .inl ⟨rfl, ?_⟩
    rintro _ ⟨rfl⟩
    exact ⟨⟨err, rfl⟩, hnone⟩
  | ok args =>
    have hsome : statement lib visit =
        (statementOf lib visit.call.action args.sql args.paramsJson).toOption := by
      simp [statement, hpayload]
    rw [hpayload] at hs
    obtain ⟨rest, hcall, hend⟩ := Lane.steps_bind_pure hs
    have hbuild (result : Except DbError String) (start : Instant) :
        (buildMetric lib visit.call.action result start).Only (On (· = .now)) := by
      rw [← bind_pure (buildMetric lib visit.call.action result start), buildMetric_bind]
      exact ⟨rfl, fun _ => trivial⟩
    obtain ⟨fs, q', hdispatch, hsame, hreturn⟩ := measured_steps hbuild hcall
    have hkept : es.filter (fun e => (handed e.op).isSome) = fs.filter fun e => (handed e.op).isSome :=
      hsame (fun op => (handed op).isSome) fun _ => rfl
    have hstream : stream es = stream fs := by
      have hfilter (log : List (Event Fx)) :
          stream (log.filter fun e => (handed e.op).isSome) = stream log := by
        unfold stream
        rw [List.filterMap_filter]
        congr 1
        funext e
        cases handed e.op <;> rfl
      rw [← hfilter es, hkept, hfilter]
    have hresult {result : Except EgressError String} (h : returned q = some result) :
        ∃ r, q' = .ret r ∧ result = r.mapError DbError.intoResourceError := by
      cases q with
      | act op k => cases h
      | ret r =>
        obtain ⟨r', rfl, rfl⟩ := hend r rfl
        obtain ⟨inner, metric, hq', rfl⟩ := hreturn r' rfl
        exact ⟨inner, hq', (Option.some.inj h).symm⟩
    rcases dispatch_stream hdispatch with ⟨hnothing, hfails⟩ | ⟨s, t, answer, hstatement, rfl, rfl⟩
    · refine .inl ⟨hstream.trans hnothing, fun result h => ?_⟩
      obtain ⟨r, rfl, rfl⟩ := hresult h
      obtain ⟨⟨err, rfl⟩, hnone⟩ := hfails r rfl
      exact ⟨⟨_, rfl⟩, hsome.trans hnone⟩
    · refine .inr ⟨s, backend.deadline - t, answer, ?_, hstream.trans rfl, ?_, fun result h => ?_⟩
      · rw [hsome, hstatement]
        rfl
      · have hmem : awaited backend.client s (backend.deadline - t) answer ∈
            es.filter fun e => (handed e.op).isSome := by
          rw [hkept]
          simp [awaited, handed]
        exact (List.mem_filter.mp hmem).1
      · obtain ⟨r, hr, rfl⟩ := hresult h
        cases hr
        rfl

theorem run_keeps {lib : Lib} {action payload : String} {backend : DbBackend} {es : List (Event Fx)}
    {r : Except EgressError String × DbBackend}
    (hs : Prog.Steps (BackendSet.runDb lib action payload backend) es (.ret r)) :
    r.2.client = backend.client ∧ r.2.maxRows = backend.maxRows := by
  unfold BackendSet.runDb at hs
  cases hpayload : parseDbPayload lib payload with
  | error err =>
    rw [hpayload] at hs
    obtain ⟨-, hr⟩ := Prog.steps_ret hs
    cases hr
    exact ⟨rfl, rfl⟩
  | ok args =>
    rw [hpayload] at hs
    obtain ⟨es₁, es₂, r', -, hcall, hret⟩ := Prog.steps_bind_ret hs
    obtain ⟨-, hr⟩ := Prog.steps_ret hret
    cases hr
    obtain ⟨metric, -, hbackend⟩ := call_called hcall
    rw [hbackend]
    exact ⟨rfl, rfl⟩

private theorem Delivered.whole {lib : Lib} {client : ClientId} {maxRows : Nat} {visit : Visit}
    {use : List (Event Fx)} {result : Except EgressError String}
    (h : Delivered lib client maxRows visit use (some result)) :
    stream use = (statement lib visit).toList.map (client, ·) := by
  rcases h with ⟨hnothing, hover⟩ | ⟨s, budget, answer, hstatement, hstream, -, -⟩
  · rw [hnothing, (hover result rfl).2]
    rfl
  · rw [hstream, hstatement]
    rfl

theorem Delivered.part {lib : Lib} {client : ClientId} {maxRows : Nat} {visit : Visit}
    {use : List (Event Fx)} {replied : Option (Except EgressError String)}
    (h : Delivered lib client maxRows visit use replied) :
    stream use <+: (statement lib visit).toList.map (client, ·) := by
  rcases h with ⟨hnothing, -⟩ | ⟨s, budget, answer, hstatement, hstream, -, -⟩
  · rw [hnothing]
    exact List.nil_prefix
  · rw [hstream, hstatement]
    exact List.prefix_refl _

/-! ## One session -/

/-- What the calls of a session hand over, the newest call first. -/
def sent (visits : List Visit) : List (ClientId × Statement) :=
  visits.reverse.flatMap fun visit => stream visit.work

def statements (lib : Lib) (visits : List Visit) : List Statement :=
  visits.reverse.filterMap (statement lib)

private theorem sent_cons (visit : Visit) (older : List Visit) :
    sent (visit :: older) = sent older ++ stream visit.work := by
  simp [sent]

private theorem statements_cons (lib : Lib) (visit : Visit) (older : List Visit) :
    statements lib (visit :: older) = statements lib older ++ (statement lib visit).toList := by
  unfold statements
  rw [List.reverse_cons, List.filterMap_append]
  cases hstatement : statement lib visit <;> simp [hstatement]

/-- What an answered call has come to: an error, with at most the timeout of a connect handed
over; or what the answer to its statement decides, which it handed over itself and once. -/
def Concluded (lib : Lib) (config : DbConfig) (client : ClientId) (visit : Visit) : Prop :=
  ∀ response, visit.response = some response →
    (∃ err, response = .reply (.error err) ∧ stream visit.work <+: [opening config client]) ∨
      ∃ s budget answer, statement lib visit = some s ∧
        awaited client s budget answer ∈ visit.work ∧
        (stream visit.work = [(client, s)] ∨
          stream visit.work = [opening config client, (client, s)]) ∧
        response = .reply ((outcome lib config.maxRows s answer).mapError DbError.intoResourceError)

private theorem concluded_waiting {lib : Lib} {config : DbConfig} {client : ClientId}
    {visit : Visit}
    (h : visit.response = none) : Concluded lib config client visit := by
  intro response hr
  rw [h] at hr
  cases hr

private theorem concluded_failed {lib : Lib} {config : DbConfig} {client : ClientId} {visit : Visit}
    {err : EgressError} (h : visit.response = some (.reply (.error err)))
    (hstream : stream visit.work <+: [opening config client]) : Concluded lib config client visit := by
  intro response hr
  exact .inl ⟨err, Option.some.inj (hr.symm.trans h), hstream⟩

/-- A run of a backend concludes its call, after the attempt if it is the first. -/
theorem Delivered.concluded {lib : Lib} {config : DbConfig} {client : ClientId} {visit : Visit}
    {attempt use : List (Event Fx)} {result : Except EgressError String}
    (h : Delivered lib client config.maxRows visit use (some result))
    (hattempt : stream attempt = [] ∨ stream attempt = [opening config client])
    (work : visit.work = attempt ++ use) (answer : visit.response = some (.reply result)) :
    Concluded lib config client visit := by
  intro response hr
  have hresponse : response = .reply result := Option.some.inj (hr.symm.trans answer)
  rw [work, stream_append]
  rcases h with ⟨hnothing, hover⟩ | ⟨s, budget, reply, hstatement, hstream, hmem, hresult⟩
  · obtain ⟨⟨err, rfl⟩, -⟩ := hover result rfl
    refine .inl ⟨err, hresponse, ?_⟩
    rw [hnothing, List.append_nil]
    rcases hattempt with h | h <;> simp [h]
  · refine .inr ⟨s, budget, reply, hstatement, List.mem_append_right _ hmem, ?_, ?_⟩
    · rw [hstream]
      rcases hattempt with h | h <;> simp [h]
    · rw [hresponse, hresult result rfl]

/-- What has been handed over when the calls so far have left a cell. -/
def Handed (lib : Lib) (slot : DbSlot) (visits : List Visit) : OnceLock DbBackend → Prop
  | some (.ok backend) => backend.maxRows = slot.config.maxRows ∧
      sent visits = opening slot.config backend.client ::
        (statements lib visits).map (backend.client, ·) ∧
      ∀ visit ∈ visits, Concluded lib slot.config backend.client visit
  | some (.error _) | none => ∃ client, sent visits <+: [opening slot.config client] ∧
      ∀ visit ∈ visits, Concluded lib slot.config client visit

private theorem chronicle_handed {lib : Lib} {slot : DbSlot} {cell : OnceLock DbBackend}
    {visits : List Visit}
    (h : (dbLane lib).Chronicle slot cell visits) : Handed lib slot visits cell := by
  induction h with
  | unused => exact ⟨0, List.nil_prefix, List.forall_mem_nil _⟩
  | failed attempt answer =>
    obtain ⟨client, hprefix⟩ := (slot_stream attempt).1
    refine ⟨client, ?_, List.forall_mem_singleton.mpr (concluded_failed answer hprefix)⟩
    rw [sent_cons]
    simpa [sent] using hprefix
  | refused before idle answer ih =>
    obtain ⟨client, hprefix, hconcluded⟩ := ih
    refine ⟨client, ?_, List.forall_mem_cons.mpr ⟨concluded_failed answer ?_, hconcluded⟩⟩
    · rw [sent_cons, idle, stream_nil, List.append_nil]
      exact hprefix
    · rw [idle]
      exact List.nil_prefix
  | @connected visit attempt use backend r opened ran work answer =>
    obtain ⟨hopening, hrows⟩ := (slot_stream opened).2 backend rfl
    obtain ⟨hclient, hkept⟩ := run_keeps ran
    have hdelivered := run_stream visit ran
    refine ⟨hkept.trans hrows, ?_, List.forall_mem_singleton.mpr ?_⟩
    · rw [sent_cons, statements_cons, work, stream_append, hopening, hdelivered.whole, hclient]
      rfl
    · rw [hrows] at hdelivered
      rw [hclient]
      exact hdelivered.concluded (.inr hopening) work answer
  | @served visit older backend r before ran answer ih =>
    obtain ⟨hrows, hsent, hconcluded⟩ := ih
    obtain ⟨hclient, hkept⟩ := run_keeps ran
    have hdelivered := run_stream visit ran
    refine ⟨hkept.trans hrows, ?_, ?_⟩
    · rw [sent_cons, statements_cons, hdelivered.whole, hsent, hclient, List.map_append,
        List.cons_append]
    · rw [hrows] at hdelivered
      rw [hclient]
      exact List.forall_mem_cons.mpr
        ⟨hdelivered.concluded (.inl rfl) (List.nil_append _).symm answer, hconcluded⟩

/-- A session on its connection: the timeout first, then the statements of its calls in
order, as many as there have been so far; each call is decided by its own. -/
def Streamed (lib : Lib) (config : DbConfig) (visits : List Visit) : Prop :=
  ∃ client,
    sent visits <+: opening config client :: (statements lib visits).map (client, ·) ∧
      ∀ visit ∈ visits, Concluded lib config client visit

private theorem chronicle_streamed {lib : Lib} {slot : DbSlot} {cell : OnceLock DbBackend}
    {visits : List Visit} (h : (dbLane lib).Chronicle slot cell visits) :
    Streamed lib slot.config visits := by
  have hhanded := chronicle_handed h
  have hunopened : (∃ client, sent visits <+: [opening slot.config client] ∧
      ∀ visit ∈ visits, Concluded lib slot.config client visit) →
        Streamed lib slot.config visits := by
    rintro ⟨client, hprefix, hconcluded⟩
    exact ⟨client, hprefix.trans ⟨_, rfl⟩, hconcluded⟩
  cases cell with
  | none => exact hunopened hhanded
  | some outcome =>
    cases outcome with
    | error err => exact hunopened hhanded
    | ok backend =>
      obtain ⟨-, hsent, hconcluded⟩ := hhanded
      exact ⟨backend.client, hsent ▸ List.prefix_refl _, hconcluded⟩

private theorem unfolding_streamed {lib : Lib} {slot : DbSlot} {visits : List Visit}
    (h : (dbLane lib).Unfolding slot visits) : Streamed lib slot.config visits := by
  cases h with
  | rest before => exact chronicle_streamed before
  | connecting attempt waiting =>
    obtain ⟨client, hprefix⟩ := (slot_stream attempt).1
    refine ⟨client, ?_, List.forall_mem_singleton.mpr (concluded_waiting waiting)⟩
    rw [sent_cons]
    exact (by simpa [sent] using hprefix : _ <+: [opening slot.config client]).trans ⟨_, rfl⟩
  | @refusing visit older err before idle waiting =>
    obtain ⟨client, hprefix, hconcluded⟩ := chronicle_handed before
    refine ⟨client, ?_, List.forall_mem_cons.mpr ⟨concluded_waiting waiting, hconcluded⟩⟩
    rw [sent_cons, idle, stream_nil, List.append_nil]
    exact hprefix.trans ⟨_, rfl⟩
  | @starting visit attempt use backend q opened ran work waiting =>
    obtain ⟨hopening, -⟩ := (slot_stream opened).2 backend rfl
    have hpart := (run_stream visit ran).part
    refine ⟨backend.client, ?_, List.forall_mem_singleton.mpr (concluded_waiting waiting)⟩
    rw [sent_cons, statements_cons, work, stream_append, hopening]
    simpa [sent, statements] using hpart
  | @serving visit older backend q before ran waiting =>
    obtain ⟨-, hsent, hconcluded⟩ := chronicle_handed before
    have hpart := (run_stream visit ran).part
    refine ⟨backend.client, ?_, List.forall_mem_cons.mpr ⟨concluded_waiting waiting, hconcluded⟩⟩
    rw [sent_cons, statements_cons, hsent, List.map_append, List.cons_append, List.cons_prefix_cons]
    exact ⟨rfl, (List.prefix_append_right_inj _).mpr hpart⟩

/-! ## Over a whole session -/

private theorem clampTimeout_bounded {ceilingMs configuredMs : UInt64} (h : ceilingMs ≠ 0) :
    clampTimeout ceilingMs configuredMs ≠ 0 ∧ clampTimeout ceilingMs configuredMs ≤ ceilingMs := by
  have hmin : min configuredMs ceilingMs =
      if configuredMs ≤ ceilingMs then configuredMs else ceilingMs := rfl
  unfold clampTimeout
  rw [if_neg h, hmin]
  split
  · exact ⟨h, UInt64.le_refl _⟩
  · rename_i hconfigured
    split
    · rename_i hle
      exact ⟨hconfigured, hle⟩
    · exact ⟨h, UInt64.le_refl _⟩

private theorem wired_clamped {shared : Shared} {authenticator : Authenticator} {input : Input}
    {slot : DbSlot} (h : (wired shared authenticator input).db = some slot)
    (hceiling : shared.maxStatementTimeoutMs ≠ 0) :
    slot.config.statementTimeoutMs ≠ 0 ∧
      slot.config.statementTimeoutMs ≤ shared.maxStatementTimeoutMs := by
  unfold wired at h
  split at h
  · split at h
    · cases h
    · split at h
      · cases h
      · rename_i resolved _
        rw [fromConfigs_eq] at h
        obtain ⟨config, hconfig, rfl⟩ := Option.map_eq_some_iff.mp h
        obtain ⟨bound, -, rfl⟩ := Option.map_eq_some_iff.mp hconfig
        exact clampTimeout_bounded hceiling
  · cases h

/-- What a session hands to its database, at any time: nothing unless its tenant has the
binding; and else the timeout, within the ceiling, and then the statements of its calls. -/
theorem db_statement_stream (lib : Lib) (shared : Shared) (authenticator : Authenticator)
    {input : Input} {log : List (Event Fx)} {q : Fab (Except String Unit)}
    (hs : Prog.Steps (serve lib shared authenticator input).run log q) :
    stream log = sent (visitsOf .db log) ∧
      ((wired shared authenticator input).db = none → stream log = []) ∧
      ∀ slot, (wired shared authenticator input).db = some slot →
        Streamed lib slot.config (visitsOf .db log) ∧
          (shared.maxStatementTimeoutMs ≠ 0 → slot.config.statementTimeoutMs ≠ 0 ∧
            slot.config.statementTimeoutMs ≤ shared.maxStatementTimeoutMs) := by
  obtain ⟨configs, deps, hwired⟩ := wired_eq shared authenticator input
  rw [fromConfigs_eq] at hwired
  have htold := serve_chronicle (dbLane lib) lib shared authenticator (dbPort lib)
    (hwired ▸ slot_fresh) hs
  have hget : (dbPort lib).get (wired shared authenticator input) =
      (wired shared authenticator input).db := rfl
  rw [hget] at htold
  have hsent : stream log = sent (visitsOf .db log) := by
    have hgathered : requests .db log = _ := serve_gathered (dbPort lib) hs
    rw [← stream_requests, hgathered]
    unfold stream sent
    rw [List.filterMap_flatMap]
    congr 1
    funext visit
    exact stream_requests visit.work
  refine ⟨hsent, fun hnone => ?_, fun slot hslot => ?_⟩
  · rw [hnone] at htold
    rw [hsent]
    refine List.flatMap_eq_nil_iff.mpr fun visit hvisit => ?_
    rw [(htold visit (List.mem_reverse.mp hvisit)).1, stream_nil]
  · rw [hslot] at htold
    exact ⟨unfolding_streamed htold, wired_clamped hslot⟩

/-- The transaction above under a ceiling of a quarter of a second. -/
def cappedShared : Shared := { ordersShared with maxStatementTimeoutMs := 250 }

def cappedSession : Outcome Fx Nat (Except String Unit) :=
  Prog.run stoppedClock 0 (serve ordersLib cappedShared .none ordersInput).run

theorem db_statement_stream_orders :
    stream cappedSession.events = [opening { ordersConfig with statementTimeoutMs := 250 } 0,
      (0, .batch "BEGIN"), (0, .execute "UPDATE orders SET paid = true" []), (0, .batch "COMMIT")] ∧
      ∃ slot, (wired cappedShared .none ordersInput).db = some slot ∧
        Streamed ordersLib slot.config (visitsOf .db cappedSession.events) ∧
        slot.config.statementTimeoutMs ≤ 250 := by
  have hs : Prog.Steps (serve ordersLib cappedShared .none ordersInput).run cappedSession.events
      (.ret cappedSession.value) := Prog.run_steps _ _ _
  obtain ⟨-, -, hslot⟩ := db_statement_stream ordersLib cappedShared .none hs
  obtain ⟨hstreamed, hceiling⟩ := hslot _ rfl
  exact ⟨rfl, _, rfl, hstreamed, (hceiling (by decide)).2⟩

end Fabricd.Db
