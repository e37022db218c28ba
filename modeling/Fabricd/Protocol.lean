import Fabricd.Timeless
import Fabricd.Provenance

/-!
# The session protocol

One response per frame, in order; and the frames that are not calls have no effect on
the rest of the session.
-/

namespace Fabricd

open Framework Db Mongo Mail Kv Amq Auth ClientAuth

/-! ## Turns -/

/-- A frame read, or the clean end of the stream, and a response written. -/
inductive Turn where
  | read (frame : Option (Except String WireRequest))
  | wrote (response : WireResponse)

def turn : Event Fx → Option Turn
  | ⟨⟨.readFrame got, _⟩, _⟩ => some (.read got)
  | ⟨⟨.writeFrame response, _⟩, _⟩ => some (.wrote response)
  | _ => none

def turns (log : List (Event Fx)) : List Turn := log.filterMap turn

/-- The kind of response a frame after the first gets. -/
inductive Answers : WireRequest → WireResponse → Prop where
  | call (call : WireCall) (result : Except EgressError String) : Answers (.call call) (.reply result)
  | drain (metrics : BackendMetrics) : Answers .drain (.metrics metrics)
  | init (init : WireInit) (message : String) : Answers (.init init) (.protocolError message)

/-- The turns after an `Ack`. -/
inductive Conversation : List WireRequest → List Turn → Prop where
  | eof : Conversation [] [.read none]
  | next {frame : WireRequest} {response : WireResponse} {frames : List WireRequest}
      {turns : List Turn} (answer : Answers frame response) (rest : Conversation frames turns) :
      Conversation (frame :: frames) (.read (some (.ok frame)) :: .wrote response :: turns)

/-- The turns of a session. -/
inductive Dialogue : List WireRequest → List Turn → Prop where
  | eof : Dialogue [] [.read none]
  | refused {frame : WireRequest} {frames : List WireRequest} (message : String)
      (h : ∀ init, frame ≠ .init init) :
      Dialogue (frame :: frames) [.read (some (.ok frame)), .wrote (.protocolError message)]
  | initError {init : WireInit} {frames : List WireRequest} (code message : String) :
      Dialogue (.init init :: frames)
        [.read (some (.ok (.init init))), .wrote (.initError code message)]
  | acked {init : WireInit} {frames : List WireRequest} {turns : List Turn}
      (rest : Conversation frames turns) :
      Dialogue (.init init :: frames) (.read (some (.ok (.init init))) :: .wrote .ack :: turns)

/-- The write succeeded, or the task finished. -/
def Succeeds : Event Fx → Prop
  | ⟨⟨.writeFrame _, _⟩, result⟩ => (result : Except String Unit).isOk = true
  | ⟨⟨.spawnBlocking _, _⟩, joined⟩ => (joined : Except String Unit).isOk = true
  | _ => True

private theorem turns_inner {es : List (Event Fx)} (h : ∀ e ∈ es, Inner e.op.call) :
    turns es = [] := by
  refine List.filterMap_eq_nil_iff.mpr fun e he => ?_
  have hinner := h e he
  obtain ⟨⟨call, budget⟩, answer⟩ := e
  cases call <;> first | rfl | simp [Inner, Call.capability] at hinner

private theorem answer_answers {lib : Lib} {self : BackendSet} {frame : WireRequest}
    {es : List (Event Fx)} {r : WireResponse × BackendSet}
    (hs : Prog.Steps (answer lib self frame) es (.ret r)) (hok : ∀ e ∈ es, Succeeds e) :
    turns es = [] ∧ Answers frame r.1 := by
  cases frame with
  | init init =>
    obtain ⟨rfl, hr⟩ := Prog.steps_ret hs
    cases hr
    exact ⟨rfl, .init _ _⟩
  | drain =>
    obtain ⟨rfl, hr⟩ := Prog.steps_ret hs
    cases hr
    exact ⟨rfl, .drain _⟩
  | call call =>
    have hdispatch : Prog.Steps (dispatch lib self call) es (.ret r) := hs
    rw [dispatch_joined] at hdispatch
    cases hdispatch with
    | @act _ _ joined es _ hrest =>
      have hjoined := hok _ List.mem_cons_self
      cases joined with
      | error err => cases hjoined
      | ok _ =>
        obtain ⟨es₁, es₂, result, rfl, hcall, hend⟩ := Prog.steps_bind_ret hrest
        obtain ⟨rfl, hr⟩ := Prog.steps_ret hend
        cases hr
        refine ⟨?_, .call _ _⟩
        have hinner := ((self.call_inner lib call).steps hcall).1
        rw [List.append_nil]
        show turns es₁ = []
        exact turns_inner hinner

/-- The run lemma of the loop: one response of the right kind per frame. -/
theorem serveCalls_conversation (lib : Lib) (frames : List WireRequest) {self : BackendSet}
    {log : List (Event Fx)} {r : Except String Unit}
    (hs : Prog.Steps (serveCalls lib self (frames.map .ok)).run log (.ret r))
    (hok : ∀ e ∈ log, Succeeds e) : Conversation frames (turns log) := by
  induction frames generalizing self log with
  | nil =>
    cases hs with
    | act hs =>
      obtain ⟨rfl, -⟩ := Prog.steps_ret hs
      exact .eof
  | cons frame frames ih =>
    rw [List.map_cons, serveCalls_ok] at hs
    cases hs with
    | act hs =>
      obtain ⟨es₁, es₂, r₁, rfl, hanswer, hrest⟩ := Prog.steps_bind_ret hs
      cases hrest with
      | @act _ _ result es₂ _ hrest =>
        have hok₁ : ∀ e ∈ es₁, Succeeds e := fun e he => hok e (by simp [he])
        obtain ⟨hturns, hkind⟩ := answer_answers hanswer hok₁
        have hresult := hok _ (List.mem_cons_of_mem _ (List.mem_append_right _ List.mem_cons_self))
        cases result with
        | error err => cases hresult
        | ok _ =>
          have hok₂ : ∀ e ∈ es₂, Succeeds e := fun e he => hok e (by simp [he])
          have hjoin : turns (⟨⟨.readFrame (some (.ok frame)), none⟩, ()⟩ ::
              (es₁ ++ written r₁.1 (.ok ()) :: es₂)) =
                .read (some (.ok frame)) :: .wrote r₁.1 :: turns es₂ := by
            have hsplit : turns (es₁ ++ written r₁.1 (.ok ()) :: es₂) =
                turns es₁ ++ turns (written r₁.1 (.ok ()) :: es₂) := List.filterMap_append
            rw [hturns] at hsplit
            exact congrArg (Turn.read (some (.ok frame)) :: ·) hsplit
          have hconv := Conversation.next hkind (ih hrest hok₂)
          rw [← hjoin] at hconv
          exact hconv

private theorem serve_dialogue (lib : Lib) (shared : Shared) (authenticator : Authenticator)
    (frames : List WireRequest) {log : List (Event Fx)} {r : Except String Unit}
    (hs : Prog.Steps (serve lib shared authenticator (frames.map .ok)).run log (.ret r))
    (hok : ∀ e ∈ log, Succeeds e) : Dialogue frames (turns log) := by
  cases frames with
  | nil =>
    cases hs with
    | act hs =>
      obtain ⟨rfl, -⟩ := Prog.steps_ret hs
      exact .eof
  | cons frame frames =>
    rw [List.map_cons] at hs
    by_cases hinit : ∀ init, frame ≠ .init init
    · rw [serve_refused lib shared authenticator hinit] at hs
      cases hs with
      | act hs =>
        cases hs with
        | act hs =>
          obtain ⟨rfl, -⟩ := Prog.steps_ret hs
          exact .refused _ hinit
    · obtain ⟨init, rfl⟩ := not_forall_not.mp hinit
      cases hauth : authenticator.authenticate init.token with
      | error reject =>
        rw [serve_rejected lib shared authenticator hauth] at hs
        cases hs with
        | act hs =>
          cases hs with
          | act hs =>
            cases hs with
            | act hs =>
              obtain ⟨rfl, -⟩ := Prog.steps_ret hs
              exact .initError _ _
      | ok _ =>
        rw [serve_authenticated lib shared authenticator hauth] at hs
        cases hs with
        | act hs =>
          cases hresolve : resolve shared.table init with
          | error err =>
            rw [serveAuthenticated_refused lib shared hresolve] at hs
            cases hs with
            | act hs =>
              obtain ⟨rfl, -⟩ := Prog.steps_ret hs
              exact .initError _ _
          | ok resolved =>
            rw [serveAuthenticated_acked lib shared hresolve] at hs
            cases hs with
            | @act _ _ result es _ hs =>
              have hresult := hok _ (List.mem_cons_of_mem _ List.mem_cons_self)
              cases result with
              | error err => cases hresult
              | ok _ =>
                refine .acked (serveCalls_conversation lib frames hs fun e he => ?_)
                exact hok e (List.mem_cons_of_mem _ (List.mem_cons_of_mem _ he))

/-! ## What frames leave behind -/

/-- Metrics but for the durations. -/
def BackendMetrics.timeless (metrics : BackendMetrics) : BackendMetrics where
  db := metrics.db.map fun metric => { metric with durationUs := 0 }
  mongo := metrics.mongo.map fun metric => { metric with durationUs := 0 }
  mail := metrics.mail.map fun metric => { metric with durationUs := 0 }
  redis := metrics.redis.map fun metric => { metric with durationUs := 0 }
  amq := metrics.amq.map fun metric => { metric with durationUs := 0 }
  auth := metrics.auth.map fun metric => { metric with durationUs := 0 }

def WireResponse.timeless : WireResponse → WireResponse
  | metrics m => metrics m.timeless
  | response => response

private theorem slotMetrics_timeless {Config Deps Backend α : Type}
    (lane : Lane Config Deps Backend)
    (drain : Backend → List α) (erase : α → α)
    (hdrain : ∀ backend, (drain backend).map erase = drain (lane.timeless backend))
    {slot slot' : Option (Slot Config Deps Backend)}
    (h : slot.map lane.timelessSlot = slot'.map lane.timelessSlot) :
    (BackendSet.slotMetrics slot drain).map erase =
      (BackendSet.slotMetrics slot' drain).map erase := by
  have hslot (slot : Option (Slot Config Deps Backend)) :
      (BackendSet.slotMetrics slot drain).map erase =
        BackendSet.slotMetrics (slot.map lane.timelessSlot) drain := by
    cases slot with
    | none => rfl
    | some slot =>
      obtain ⟨config, deps, cell⟩ := slot
      cases cell with
      | none => rfl
      | some outcome =>
        cases outcome with
        | error err => rfl
        | ok backend => exact hdrain backend
  rw [hslot, hslot, h]

private theorem metrics_amq (self : BackendSet) :
    self.metrics.timeless.amq =
      ((self.amq.map AmqProducer.timeless).map AmqProducer.metrics).getD [] := by
  unfold BackendMetrics.timeless BackendSet.metrics
  cases self.amq with
  | none => rfl
  | some producer => rfl

private theorem metrics_timeless {lib : Lib} {self self' : BackendSet}
    (h : self.timeless lib = self'.timeless lib) :
    self.metrics.timeless = self'.metrics.timeless := by
  simp only [BackendSet.timeless, BackendSet.mk.injEq] at h
  obtain ⟨hdb, hmongo, hmail, hredis, hauth, hamq⟩ := h
  have hproducer : self.metrics.timeless.amq = self'.metrics.timeless.amq := by
    rw [metrics_amq, metrics_amq, hamq]
  unfold BackendMetrics.timeless BackendSet.metrics at *
  simp only at hproducer
  rw [hproducer, slotMetrics_timeless (dbLane lib) _ _ (fun _ => rfl) hdb,
    slotMetrics_timeless (mongoLane lib) _ _ (fun _ => rfl) hmongo,
    slotMetrics_timeless (mailLane lib) _ _ (fun _ => rfl) hmail,
    slotMetrics_timeless (redisLane lib) _ _ (fun _ => rfl) hredis,
    slotMetrics_timeless (authLane lib) _ _ (fun _ => rfl) hauth]

/-- The requests made while a frame is answered. -/
def Working (call : Call) : Prop := Asked call ∨ ∃ request, call = .spawnBlocking request

private theorem answer_lockstep {lib : Lib} {self self' : BackendSet}
    (h : self.timeless lib = self'.timeless lib) (frame : WireRequest) :
    Lockstep (untimed Working)
      (fun r r' => r.1.timeless = r'.1.timeless ∧ r.2.timeless lib = r'.2.timeless lib)
      (answer lib self frame) (answer lib self' frame) := by
  cases frame with
  | init init => exact .ret ⟨rfl, h⟩
  | drain => exact .ret ⟨congrArg WireResponse.metrics (metrics_timeless h), h⟩
  | call call =>
    show Lockstep _ _ (dispatch lib self call) (dispatch lib self' call)
    rw [dispatch_joined, dispatch_joined]
    refine .both ⟨rfl, .inr ⟨call, rfl⟩⟩ fun joined => ?_
    cases joined with
    | error err => exact .ret ⟨rfl, h⟩
    | ok _ =>
      refine (Lockstep.widen (BackendSet.call_lockstep lib h call) fun _ h => .inl h).bind
        fun r r' hr => .ret ⟨?_, hr.2⟩
      exact congrArg WireResponse.reply hr.1

private theorem answer_idle (lib : Lib) (self : BackendSet) {frame : WireRequest}
    (h : ∀ call, frame ≠ .call call) :
    ∃ response, answer lib self frame = .ret (response, self) := by
  cases frame with
  | call call => exact absurd rfl (h call)
  | drain => exact ⟨_, rfl⟩
  | init init => exact ⟨_, rfl⟩

/-! ## Shorter inputs -/

/-- The requests to backends of a log, with their configs and their answers, but for the
time they were given. -/
def asked (log : List (Event Fx)) : List (Σ call : Call, call.Ans) :=
  log.filterMap fun e =>
    if e.op.call.capability.isSome then some ⟨e.op.call, e.ans⟩ else none

def marked {α : Type} (marks : List Bool) (xs : List α) : List α :=
  ((xs.zip marks).filter Prod.snd).map Prod.fst

/-- A single session: its writes succeed, its tasks finish and a driver answers the rest. -/
def lone {D : Type} (driver : (call : Call) → D → call.Ans × D) : Env Fx ((Nat → Instant) × D)
  | w, ⟨.readFrame _, _⟩ => ((), w)
  | w, ⟨.writeFrame _, _⟩ => (Except.ok (), w)
  | w, ⟨.spawnBlocking _, _⟩ => (Except.ok (), w)
  | (clock, d), ⟨.now, _⟩ => (clock 0, fun n => clock (n + 1), d)
  | (clock, d), ⟨call, _⟩ => ((driver call d).1, clock, (driver call d).2)

/-- A run over some of the frames, against the run over all of them. -/
structure Abridges {D α : Type} (marks : List Bool) (full cut : Outcome Fx ((Nat → Instant) × D) α) :
    Prop where
  asked : asked cut.events = asked full.events
  driver : cut.world.2 = full.world.2
  responses : (responses cut.events).map WireResponse.timeless =
    (marked marks (responses full.events)).map WireResponse.timeless

private theorem asked_append (log log' : List (Event Fx)) :
    asked (log ++ log') = asked log ++ asked log' :=
  List.filterMap_append

private theorem lone_agree {D : Type} (driver : (call : Call) → D → call.Ans × D) :
    Lockstep.EnvAgree (untimed Working) (fun w w' => w.2 = w'.2) (lone driver) (lone driver) where
  skipLeft := by
    rintro w w' ⟨call, budget⟩ hw hskip
    cases hskip
    exact hw
  skipRight := by
    rintro w w' ⟨call, budget⟩ hw hskip
    cases hskip
    exact hw
  pairAns := by
    rintro ⟨clock, d⟩ ⟨clock', d'⟩ ⟨call, budget⟩ ⟨call', budget'⟩ hw hpair
    obtain ⟨hcall, hworking⟩ := hpair
    cases hcall
    cases hw
    cases call with
    | now => rcases hworking with h | ⟨request, h⟩ <;> cases h
    | _ => rfl
  pairWorld := by
    rintro ⟨clock, d⟩ ⟨clock', d'⟩ ⟨call, budget⟩ ⟨call', budget'⟩ hw hpair
    obtain ⟨hcall, hworking⟩ := hpair
    cases hcall
    cases hw
    cases call with
    | now => rcases hworking with h | ⟨request, h⟩ <;> cases h
    | _ => rfl

private theorem asked_same {log log' : List (Event Fx)}
    (h : List.Forall₂ (Lockstep.SameEvent (untimed Working)) log log') : asked log = asked log' := by
  induction h with
  | nil => rfl
  | @cons e e' log log' he _ ih =>
    obtain ⟨⟨call, budget⟩, answer⟩ := e
    obtain ⟨⟨call', budget'⟩, answer'⟩ := e'
    obtain ⟨⟨hcall, hworking⟩, hans⟩ := he
    cases hcall
    cases hans
    show asked ([_] ++ log) = asked ([_] ++ log')
    rw [asked_append, asked_append, ih]
    rfl

private theorem asked_filter {P : Call → Prop} [DecidablePred (untimed P).skip]
    (log : List (Event Fx)) :
    asked (log.filter fun e => ¬ (untimed P).skip e.op) = asked log := by
  unfold asked
  rw [List.filterMap_filter]
  refine List.filterMap_congr fun e _ => ?_
  by_cases hskip : (untimed P).skip e.op
  · have hnone : ¬ (Call.capability e.op.call).isSome := by
      have hnow : e.op.call = .now := hskip
      rw [hnow]
      nofun
    rw [if_neg (by simpa using hskip), if_neg hnone]
  · rw [if_pos (by simpa using hskip)]

private theorem answer_run {D : Type} {lib : Lib} {self self' : BackendSet}
    (h : self.timeless lib = self'.timeless lib) (frame : WireRequest)
    (driver : (call : Call) → D → call.Ans × D) {w w' : (Nat → Instant) × D} (hw : w.2 = w'.2) :
    let full := (answer lib self frame).run (lone driver) w
    let cut := (answer lib self' frame).run (lone driver) w'
    asked full.events = asked cut.events ∧ full.world.2 = cut.world.2 ∧
      full.value.1.timeless = cut.value.1.timeless ∧
      full.value.2.timeless lib = cut.value.2.timeless lib := by
  classical
  intro full cut
  have hdisj : ∀ op op', (untimed Working).pair op op' →
      ¬ (untimed Working).skip op ∧ ¬ (untimed Working).skip op' := by
    rintro ⟨call, budget⟩ ⟨call', budget'⟩ ⟨hcall, hworking⟩
    cases hcall
    have hnot : call ≠ .now := by
      rintro rfl
      rcases hworking with h | ⟨request, h⟩ <;> cases h
    exact ⟨hnot, hnot⟩
  obtain ⟨hevents, hvalue, hworld⟩ :=
    (answer_lockstep h frame).run (lone_agree driver) hdisj hw
  have hasked := asked_same hevents
  rw [asked_filter, asked_filter] at hasked
  exact ⟨hasked, hworld, hvalue.1, hvalue.2⟩

private theorem answer_silent {D : Type} (lib : Lib) (self : BackendSet) (frame : WireRequest)
    (driver : (call : Call) → D → call.Ans × D) (w : (Nat → Instant) × D) :
    responses ((answer lib self frame).run (lone driver) w).events = [] := by
  have hsat := Lane.sat_of_lockstep (answer_lockstep rfl frame : Lockstep _ _ (answer lib self frame) _)
  refine List.filterMap_eq_nil_iff.mpr fun e he => ?_
  have hworking := (hsat.steps (Prog.run_steps _ _ _)).1 e he
  obtain ⟨⟨call, budget⟩, reply⟩ := e
  cases call with
  | writeFrame response => rcases hworking with (h | ⟨request, h⟩) | h <;> cases h
  | _ => rfl

section

variable (lib : Lib) {D : Type} (driver : (call : Call) → D → call.Ans × D)

private theorem serveCalls_run (self : BackendSet) (frame : WireRequest) (input : Input)
    (w : (Nat → Instant) × D) :
    let first := (answer lib self frame).run (lone driver) w
    let rest := (serveCalls lib first.value.2 input).run.run (lone driver) first.world
    (serveCalls lib self (.ok frame :: input)).run.run (lone driver) w =
      ⟨⟨⟨.readFrame (some (.ok frame)), none⟩, ()⟩ ::
          (first.events ++ written first.value.1 (.ok ()) :: rest.events),
        rest.value, rest.world⟩ := by
  intro first rest
  obtain ⟨clock, d⟩ := w
  rw [serveCalls_ok]
  refine (congrArg (fun outcome : Outcome Fx _ _ => (⟨⟨⟨.readFrame (some (.ok frame)), none⟩, ()⟩ ::
    outcome.events, outcome.value, outcome.world⟩ : Outcome Fx _ _))
      (Prog.run_bind (lone driver) (clock, d) (answer lib self frame) _)).trans ?_
  rfl

private theorem asked_turn {es es' : List (Event Fx)} {frame : WireRequest}
    {response : WireResponse} :
    asked (⟨⟨.readFrame (some (.ok frame)), none⟩, ()⟩ ::
      (es ++ written response (.ok ()) :: es')) = asked es ++ asked es' :=
  List.filterMap_append

private theorem responses_turn {es es' : List (Event Fx)} {frame : WireRequest}
    {response : WireResponse} :
    responses (⟨⟨.readFrame (some (.ok frame)), none⟩, ()⟩ ::
      (es ++ written response (.ok ()) :: es')) = responses es ++ response :: responses es' :=
  List.filterMap_append

/-- The run lemma of the loop: frames that are not calls may be left out. -/
theorem serveCalls_abridges (frames : List (Bool × WireRequest))
    (hframes : ∀ f ∈ frames, f.1 = false → ∀ call, f.2 ≠ .call call) {self self' : BackendSet}
    (h : self.timeless lib = self'.timeless lib) (w w' : (Nat → Instant) × D) (hw : w.2 = w'.2) :
    Abridges (frames.map Prod.fst)
      ((serveCalls lib self (frames.map fun f => .ok f.2)).run.run (lone driver) w)
      ((serveCalls lib self' ((frames.filter Prod.fst).map fun f => .ok f.2)).run.run
        (lone driver) w') := by
  induction frames generalizing self self' w w' with
  | nil => exact ⟨rfl, hw.symm, rfl⟩
  | cons f frames ih =>
    have hrest : ∀ f ∈ frames, f.1 = false → ∀ call, f.2 ≠ .call call :=
      fun f hf => hframes f (List.mem_cons_of_mem _ hf)
    obtain ⟨mark, frame⟩ := f
    cases mark with
    | false =>
      obtain ⟨response, hidle⟩ := answer_idle lib self (hframes _ List.mem_cons_self rfl)
      have hturn := serveCalls_run lib driver self frame (frames.map fun f => .ok f.2) w
      rw [hidle] at hturn
      obtain ⟨hasked, hdriver, hresponses⟩ := ih hrest h w w' hw
      simp only [List.map_cons, List.filter_cons, Bool.false_eq_true, if_false]
      refine ⟨?_, ?_, ?_⟩
      · rw [hturn, asked_turn]
        exact hasked
      · rw [hturn]
        exact hdriver
      · rw [hturn, responses_turn]
        exact hresponses
    | true =>
      obtain ⟨hasked, hworld, hresponse, hself⟩ := answer_run h frame driver hw
      have hfull := serveCalls_run lib driver self frame (frames.map fun f => .ok f.2) w
      have hcut := serveCalls_run lib driver self' frame
        ((frames.filter Prod.fst).map fun f => .ok f.2) w'
      obtain ⟨haskedRest, hdriver, hresponses⟩ := ih hrest hself _ _ hworld
      simp only [List.map_cons, List.filter_cons, if_true]
      refine ⟨?_, ?_, ?_⟩
      · rw [hfull, hcut, asked_turn, asked_turn, hasked, haskedRest]
      · rw [hfull, hcut]
        exact hdriver
      · rw [hfull, hcut, responses_turn, responses_turn, answer_silent, answer_silent]
        show _ :: _ = _ :: _
        rw [hresponse]
        exact congrArg _ hresponses

private theorem serve_abridges (shared : Shared) (authenticator : Authenticator)
    (first : WireRequest)
    (frames : List (Bool × WireRequest))
    (hframes : ∀ f ∈ frames, f.1 = false → ∀ call, f.2 ≠ .call call)
    {w w' : (Nat → Instant) × D} (hw : w.2 = w'.2) :
    Abridges (true :: frames.map Prod.fst)
      ((serve lib shared authenticator (.ok first :: frames.map fun f => .ok f.2)).run.run
        (lone driver) w)
      ((serve lib shared authenticator
        (.ok first :: (frames.filter Prod.fst).map fun f => .ok f.2)).run.run (lone driver) w') := by
  obtain ⟨clock, d⟩ := w
  obtain ⟨clock', d'⟩ := w'
  cases hw
  by_cases hinit : ∀ init, first ≠ .init init
  · rw [serve_refused lib shared authenticator hinit, serve_refused lib shared authenticator hinit]
    exact ⟨rfl, rfl, rfl⟩
  · obtain ⟨init, rfl⟩ := not_forall_not.mp hinit
    cases hauth : authenticator.authenticate init.token with
    | error reject =>
      rw [serve_rejected lib shared authenticator hauth,
        serve_rejected lib shared authenticator hauth]
      exact ⟨rfl, rfl, rfl⟩
    | ok _ =>
      rw [serve_authenticated lib shared authenticator hauth,
        serve_authenticated lib shared authenticator hauth]
      cases hresolve : resolve shared.table init with
      | error err =>
        rw [serveAuthenticated_refused lib shared hresolve,
          serveAuthenticated_refused lib shared hresolve]
        exact ⟨rfl, rfl, rfl⟩
      | ok resolved =>
        rw [serveAuthenticated_acked lib shared hresolve,
          serveAuthenticated_acked lib shared hresolve]
        have hsame := @rfl _ ((BackendSet.fromConfigs
          (resolved.clampDbStatementTimeout shared.maxStatementTimeoutMs)
          { breaker := shared.breaker, timeout := fromMillis init.timeoutMs }).timeless lib)
        obtain ⟨hasked, hdriver, hresponses⟩ :=
          serveCalls_abridges lib driver frames hframes hsame (clock, d) (clock', d) rfl
        refine ⟨hasked, hdriver, ?_⟩
        exact congrArg (WireResponse.ack :: ·) hresponses

end

/-- A result or metrics. -/
def WireResponse.Served : WireResponse → Prop
  | reply _ | metrics _ => True
  | _ => False

private theorem Dialogue.acked_before {frames : List WireRequest} {ts before after : List Turn}
    {response : WireResponse} (h : Dialogue frames ts)
    (hts : ts = before ++ .wrote response :: after) (hserved : response.Served) :
    .wrote .ack ∈ before := by
  rcases before with _ | ⟨t, _ | ⟨t', before⟩⟩
  · cases h <;> cases hts
  · cases h with
    | eof => cases hts
    | refused message hinit =>
      cases hts
      exact hserved.elim
    | initError code message =>
      cases hts
      exact hserved.elim
    | acked rest =>
      cases hts
      exact hserved.elim
  · cases h with
    | eof => cases hts
    | refused message hinit => simp at hts
    | initError code message => simp at hts
    | acked rest =>
      obtain ⟨-, h⟩ := List.cons.inj hts
      obtain ⟨rfl, -⟩ := List.cons.inj h
      simp

/-- The session protocol. A session answers frame by frame, each in its kind, until it
ends; and an input without some of its later `Init` and `Drain` frames asks the same of the
backends and gets the same responses but those to the frames it lacks, up to the clock. -/
theorem session_protocol (lib : Lib) (shared : Shared) (authenticator : Authenticator) :
    (∀ (frames : List WireRequest) (log : List (Event Fx)) (r : Except String Unit),
      Prog.Steps (serve lib shared authenticator (frames.map .ok)).run log (.ret r) →
      (∀ e ∈ log, Succeeds e) →
      Dialogue frames (turns log) ∧
        ∀ before response after, turns log = before ++ .wrote response :: after →
          response.Served → .wrote .ack ∈ before) ∧
    ∀ (D : Type) (driver : (call : Call) → D → call.Ans × D) (first : WireRequest)
      (frames : List (Bool × WireRequest)) (clock clock' : Nat → Instant) (d : D),
      (∀ f ∈ frames, f.1 = false → ∀ call, f.2 ≠ .call call) →
      Abridges (true :: frames.map Prod.fst)
        ((serve lib shared authenticator (.ok first :: frames.map fun f => .ok f.2)).run.run
          (lone driver) (clock, d))
        ((serve lib shared authenticator
          (.ok first :: (frames.filter Prod.fst).map fun f => .ok f.2)).run.run
          (lone driver) (clock', d)) := by
  refine ⟨fun frames log r hs hok => ?_, fun D driver first frames clock clock' d hframes => ?_⟩
  · have hdialogue := serve_dialogue lib shared authenticator frames hs hok
    exact ⟨hdialogue, fun before response after => hdialogue.acked_before⟩
  · exact serve_abridges lib driver shared authenticator first frames hframes rfl

end Fabricd
