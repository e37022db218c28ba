import Fabricd.Visits

/-!
# Whole sessions

Every lane of a session keeps its order over any partial run of the session, from the
backends that were wired after `Ack`.
-/

namespace Fabricd

open Framework Db Mongo Mail Kv Amq Auth ClientAuth

/-! ## Calls by name -/

theorem BackendSet.call_only (lib : Lib) (self : BackendSet) (request : WireCall) :
    Prog.Only (On fun call =>
      (∃ capability, call.capability = some capability ∧ capability.name = request.name) ∨
        call = .now) (self.call lib request) := by
  have hlane {Config Deps Backend : Type} (lane : Lane Config Deps Backend)
      (hname : lane.capability.name = request.name) (slot : Option (Slot Config Deps Backend))
      (set : Option (Slot Config Deps Backend) → BackendSet) :
      Prog.Only (On fun call =>
        (∃ capability, call.capability = some capability ∧ capability.name = request.name) ∨
          call = .now)
        (lane.call slot request.action request.payload >>= fun r => .ret (r.1, set r.2)) := by
    refine Prog.Only.bind ?_ fun r => Prog.Only.pure _
    refine (lane.call_only slot request.action request.payload).mono fun op hop => ?_
    exact hop.imp_left fun h => ⟨_, h, hname⟩
  unfold BackendSet.call
  split
  case h_1 hname => exact hlane (dbLane lib) hname.symm self.db fun slot => { self with db := slot }
  case h_2 hname => exact hlane (mongoLane lib) hname.symm self.mongo fun slot => { self with mongo := slot }
  case h_3 hname => exact hlane (mailLane lib) hname.symm self.mail fun slot => { self with mail := slot }
  case h_4 hname => exact hlane (redisLane lib) hname.symm self.redis fun slot => { self with redis := slot }
  case h_5 hname =>
    unfold BackendSet.callAmq
    split
    · exact Prog.Only.pure _
    · refine Prog.Only.bind ?_ fun r => Prog.Only.pure _
      refine (Lane.sat_of_lockstep (Amq.call_lockstep lib request.payload rfl request.action)).mono
        (fun op hop => ?_) fun _ _ => trivial
      refine hop.imp_left fun h => ?_
      obtain ⟨call, budget⟩ := op
      cases call with
      | amq op => exact ⟨.amq, rfl, hname.symm⟩
      | _ => exact h.elim
  case h_6 hname => exact hlane (authLane lib) hname.symm self.auth fun slot => { self with auth := slot }
  case h_7 => exact Prog.Only.pure _

theorem BackendSet.call_inner (lib : Lib) (self : BackendSet) (request : WireCall) :
    (self.call lib request).Only (On Inner) := by
  refine (self.call_only lib request).mono fun op hop => ?_
  rcases hop with ⟨capability, hcapability, -⟩ | hnow
  · exact .inl (by rw [hcapability]; rfl)
  · exact .inr hnow

/-- Where a capability's part is in the set, and which calls reach it. -/
structure Port {σ : Type} (lib : Lib) (capability : Capability)
    (call : σ → String → String → Fab (Except EgressError String × σ)) where
  get : BackendSet → σ
  set : BackendSet → σ → BackendSet
  get_set : ∀ self part, get (set self part) = part
  call_own : ∀ (self : BackendSet) (request : WireCall), request.name = capability.name →
    self.call lib request = call (get self) request.action request.payload >>= fun r =>
      .ret (r.1, set self r.2)
  call_other : ∀ (self : BackendSet) (request : WireCall), request.name ≠ capability.name →
    (self.call lib request).Sat (fun _ => True) (fun r => get r.2 = get self)

private theorem BackendSet.call_frame (lib : Lib) (self : BackendSet) (request : WireCall)
    {T : BackendSet → Prop} (hself : T self)
    (hdb : request.name = "db" → ∀ slot, T { self with db := slot })
    (hmongo : request.name = "mongo" → ∀ slot, T { self with mongo := slot })
    (hmail : request.name = "mail" → ∀ slot, T { self with mail := slot })
    (hredis : request.name = "redis" → ∀ slot, T { self with redis := slot })
    (hamq : request.name = "amq" → ∀ producer, T { self with amq := producer })
    (hauth : request.name = "auth" → ∀ slot, T { self with auth := slot }) :
    (self.call lib request).Sat (fun _ => True) (fun r => T r.2) := by
  unfold BackendSet.call
  split
  case h_1 hname => exact Prog.Sat.after fun r => hdb hname r.2
  case h_2 hname => exact Prog.Sat.after fun r => hmongo hname r.2
  case h_3 hname => exact Prog.Sat.after fun r => hmail hname r.2
  case h_4 hname => exact Prog.Sat.after fun r => hredis hname r.2
  case h_5 hname =>
    unfold BackendSet.callAmq
    split
    · exact hself
    · exact Prog.Sat.after fun r => hamq hname (some r.2)
  case h_6 hname => exact Prog.Sat.after fun r => hauth hname r.2
  case h_7 => exact hself

def dbPort (lib : Lib) : Port lib .db (dbLane lib).call where
  get := BackendSet.db
  set self slot := { self with db := slot }
  get_set _ _ := rfl
  call_own self request h := by
    obtain ⟨name, action, payload⟩ := request
    cases h
    rfl
  call_other self request h :=
    self.call_frame lib request (T := fun self' => self'.db = self.db) rfl
      (fun hname => absurd hname h) (fun _ _ => rfl) (fun _ _ => rfl)
      (fun _ _ => rfl) (fun _ _ => rfl) (fun _ _ => rfl)

def mongoPort (lib : Lib) : Port lib .mongo (mongoLane lib).call where
  get := BackendSet.mongo
  set self slot := { self with mongo := slot }
  get_set _ _ := rfl
  call_own self request h := by
    obtain ⟨name, action, payload⟩ := request
    cases h
    rfl
  call_other self request h :=
    self.call_frame lib request (T := fun self' => self'.mongo = self.mongo) rfl
      (fun _ _ => rfl) (fun hname => absurd hname h) (fun _ _ => rfl)
      (fun _ _ => rfl) (fun _ _ => rfl) (fun _ _ => rfl)

def mailPort (lib : Lib) : Port lib .mail (mailLane lib).call where
  get := BackendSet.mail
  set self slot := { self with mail := slot }
  get_set _ _ := rfl
  call_own self request h := by
    obtain ⟨name, action, payload⟩ := request
    cases h
    rfl
  call_other self request h :=
    self.call_frame lib request (T := fun self' => self'.mail = self.mail) rfl
      (fun _ _ => rfl) (fun _ _ => rfl) (fun hname => absurd hname h)
      (fun _ _ => rfl) (fun _ _ => rfl) (fun _ _ => rfl)

def redisPort (lib : Lib) : Port lib .redis (redisLane lib).call where
  get := BackendSet.redis
  set self slot := { self with redis := slot }
  get_set _ _ := rfl
  call_own self request h := by
    obtain ⟨name, action, payload⟩ := request
    cases h
    rfl
  call_other self request h :=
    self.call_frame lib request (T := fun self' => self'.redis = self.redis) rfl
      (fun _ _ => rfl) (fun _ _ => rfl) (fun _ _ => rfl)
      (fun hname => absurd hname h) (fun _ _ => rfl) (fun _ _ => rfl)

def authPort (lib : Lib) : Port lib .auth (authLane lib).call where
  get := BackendSet.auth
  set self slot := { self with auth := slot }
  get_set _ _ := rfl
  call_own self request h := by
    obtain ⟨name, action, payload⟩ := request
    cases h
    rfl
  call_other self request h :=
    self.call_frame lib request (T := fun self' => self'.auth = self.auth) rfl
      (fun _ _ => rfl) (fun _ _ => rfl) (fun _ _ => rfl)
      (fun _ _ => rfl) (fun _ _ => rfl) (fun hname => absurd hname h)

def amqPort (lib : Lib) : Port lib .amq (amqCall lib) where
  get := BackendSet.amq
  set self producer := { self with amq := producer }
  get_set _ _ := rfl
  call_own self request h := by
    obtain ⟨name, action, payload⟩ := request
    obtain ⟨db, mongo, mail, redis, auth, amq⟩ := self
    cases h
    cases amq with
    | none => rfl
    | some producer =>
      exact (Prog.bind_bind (producer.call lib action payload)
        (fun r => .ret (r.1.mapError AmqError.intoResourceError, some r.2))
        fun r => .ret (r.1, BackendSet.mk db mongo mail redis auth r.2)).symm
  call_other self request h :=
    self.call_frame lib request (T := fun self' => self'.amq = self.amq) rfl
      (fun _ _ => rfl) (fun _ _ => rfl) (fun _ _ => rfl)
      (fun _ _ => rfl) (fun hname => absurd hname h) (fun _ _ => rfl)

theorem BackendSet.call_unknown (lib : Lib) (self : BackendSet) {request : WireCall}
    (h : ∀ c : Capability, request.name ≠ c.name) :
    self.call lib request = .ret (.error ((EgressError.new "engine" "IO_UNKNOWN"
      s!"unknown egress '{request.name}'").withOwner .developer), self) := by
  unfold BackendSet.call
  split
  case h_1 hname => exact absurd hname (h .db)
  case h_2 hname => exact absurd hname (h .mongo)
  case h_3 hname => exact absurd hname (h .mail)
  case h_4 hname => exact absurd hname (h .redis)
  case h_5 hname => exact absurd hname (h .amq)
  case h_6 hname => exact absurd hname (h .auth)
  case h_7 => rfl

/-! ## One track over a session -/

theorem AllClosed.nil : AllClosed [] := fun _ h => nomatch h

/-- Between two frames: every call has its response, and the track rests. -/
def Settles {σ : Type} (track : Track σ) (part : σ) (log : List (Event Fx)) : Prop :=
  AllClosed (visits log) ∧ track.Rests part log (visitsOf track.capability log)

/-- At any time: only the newest call may lack its response, and the track is orderly. -/
def Serves {σ : Type} (track : Track σ) (log : List (Event Fx)) : Prop :=
  AllClosed (visits log).tail ∧ track.Orderly log (visitsOf track.capability log)

section

variable {σ : Type} {track : Track σ} {part : σ} {log : List (Event Fx)}

private theorem Settles.serves (h : Settles track part log) : Serves track log :=
  ⟨fun visit hvisit => h.1 visit (List.mem_of_mem_tail hvisit), track.orderly h.2⟩

theorem Settles.outer (h : Settles track part log) {e : Event Fx} (he : Outer e) :
    Settles track part (log ++ [e]) := by
  have hvisits := visits_outer h.1 he
  refine ⟨by rw [hvisits]; exact h.1, ?_⟩
  have hsame : visitsOf track.capability (log ++ [e]) = visitsOf track.capability log := by
    simp only [visitsOf, hvisits]
  rw [hsame]
  refine track.append h.2 fun e' he' => ?_
  rw [List.mem_singleton.mp he', outer_capability he]
  exact fun h => nomatch h

theorem visits_call {call : WireCall} {es : List (Event Fx)} (hes : ∀ e ∈ es, Inner e.op.call) :
    visits (log ++ [spawned call] ++ es) = ⟨call, es, none⟩ :: visits log := by
  have hstart : visits (log ++ [spawned call]) = ⟨call, [], none⟩ :: visits log := by
    rw [visits_snoc]
    rfl
  rw [visits_inner hstart hes, List.nil_append]

theorem visits_answered {call : WireCall} {es : List (Event Fx)}
    (hes : ∀ e ∈ es, Inner e.op.call) (response : WireResponse) (result : Except String Unit) :
    visits (log ++ [spawned call] ++ es ++ [written response result]) =
      ⟨call, es, some response⟩ :: visits log := by
  rw [visits_snoc, visits_call hes]
  rfl

variable {lib : Lib} (port : Port lib track.capability track.call)

/-- The step lemma over the whole set: a call of another name leaves the track resting. -/
theorem Port.settles_call {self : BackendSet} (h : Settles track (port.get self) log)
    (call : WireCall) {es : List (Event Fx)} {q : Fab (Except EgressError String × BackendSet)}
    (hs : Prog.Steps (self.call lib call) es q) :
    Serves track (log ++ [spawned call] ++ es) ∧ ∀ r, q = .ret r → ∀ result,
      Settles track (port.get r.2)
        (log ++ [spawned call] ++ es ++ [written (.reply r.1) result]) := by
  obtain ⟨hclosed, hrests⟩ := h
  have hasked := ((self.call_only lib call).steps hs).1
  have hinner := ((self.call_inner lib call).steps hs).1
  have hclosed' (response : WireResponse) :
      AllClosed (⟨call, es, some response⟩ :: visits log) :=
    List.forall_mem_cons.mpr ⟨Option.some_ne_none _, hclosed⟩
  have hspawned (e : Event Fx) (he : e ∈ [spawned call]) :
      e.op.call.capability ≠ some track.capability := by
    rw [List.mem_singleton.mp he]
    exact fun h => nomatch h
  have hwritten (response : WireResponse) (result : Except String Unit) (e : Event Fx)
      (he : e ∈ [written response result]) : e.op.call.capability ≠ some track.capability := by
    rw [List.mem_singleton.mp he]
    exact fun h => nomatch h
  have hstart := track.append hrests hspawned
  by_cases hname : call.name = track.capability.name
  · -- an own call is the track's, with its part put back
    have hown : visitsOf track.capability (log ++ [spawned call] ++ es) =
        ⟨call, es, none⟩ :: visitsOf track.capability log := by
      rw [visitsOf, visits_call hinner]
      simp [visitsOf, hname]
    rw [port.call_own self call hname] at hs
    have hend (r : Except EgressError String × σ)
        (hs : Prog.Steps (track.call (port.get self) call.action call.payload) es (.ret r))
        (result : Except String Unit) :
        Settles track r.2 (log ++ [spawned call] ++ es ++ [written (.reply r.1) result]) := by
      refine ⟨by rw [visits_answered hinner]; exact hclosed' _, ?_⟩
      have hanswered : visitsOf track.capability
          (log ++ [spawned call] ++ es ++ [written (.reply r.1) result]) =
            ⟨call, es, some (.reply r.1)⟩ :: visitsOf track.capability log := by
        rw [visitsOf, visits_answered hinner]
        simp [visitsOf, hname]
      rw [hanswered]
      exact track.append ((track.step call hstart hs).2 r rfl) (hwritten _ result)
    have hmiddle {q' : Fab (Except EgressError String × σ)}
        (hs : Prog.Steps (track.call (port.get self) call.action call.payload) es q') :
        Serves track (log ++ [spawned call] ++ es) := by
      refine ⟨by rw [visits_call hinner]; exact hclosed, ?_⟩
      rw [hown]
      exact (track.step call hstart hs).1
    rcases Prog.steps_bind hs with ⟨rest, hrun, hq⟩ | ⟨es₁, es₂, r, hes, hrun, hrest⟩
    · refine ⟨hmiddle hrun, ?_⟩
      rintro r rfl result
      cases rest with
      | act op k => cases hq
      | ret r' =>
        cases hq
        rw [port.get_set]
        exact hend r' hrun result
    · obtain ⟨rfl, rfl⟩ := Prog.steps_ret hrest
      rw [List.append_nil] at hes
      subst hes
      refine ⟨hmiddle hrun, ?_⟩
      rintro _ ⟨rfl⟩ result
      rw [port.get_set]
      exact hend r hrun result
  · have hother : visitsOf track.capability (log ++ [spawned call] ++ es) =
        visitsOf track.capability log := by
      rw [visitsOf, visits_call hinner]
      simp [visitsOf, hname]
    have hes : ∀ e ∈ es, e.op.call.capability ≠ some track.capability := by
      intro e he hmine
      rcases hasked e he with ⟨capability, hcapability, hcall⟩ | hnow
      · rw [hmine] at hcapability
        cases hcapability
        exact hname hcall.symm
      · rw [hnow] at hmine
        cases hmine
    have hrest := track.append hstart hes
    refine ⟨⟨by rw [visits_call hinner]; exact hclosed, by rw [hother]; exact track.orderly hrest⟩, ?_⟩
    rintro r rfl result
    refine ⟨by rw [visits_answered hinner]; exact hclosed' _, ?_⟩
    have hother' : visitsOf track.capability
        (log ++ [spawned call] ++ es ++ [written (.reply r.1) result]) =
          visitsOf track.capability log := by
      rw [visitsOf, visits_answered hinner]
      simp [visitsOf, hname]
    have hget : port.get r.2 = port.get self := ((port.call_other self call hname).steps hs).2
    rw [hother', hget]
    exact track.append hrest (hwritten _ result)

end

/-! ## Whole sessions -/

/-- The backends a session is wired with once it is acknowledged; empty if it never is. -/
def wired (shared : Shared) (authenticator : Authenticator) : Input → BackendSet
  | .ok (.init init) :: _ =>
    match authenticator.authenticate init.token with
    | .error _ => .new
    | .ok _ =>
      match resolve shared.table init with
      | .error _ => .new
      | .ok resolved =>
        .fromConfigs (resolved.clampDbStatementTimeout shared.maxStatementTimeoutMs)
          { breaker := shared.breaker, timeout := fromMillis init.timeoutMs }
  | _ => .new

section

variable (lib : Lib) (shared : Shared) (authenticator : Authenticator)

theorem wired_acked {init : WireInit} {resolved : ResolvedConfigs}
    (hauth : authenticator.authenticate init.token = .ok ())
    (hresolve : resolve shared.table init = .ok resolved) (input : Input) :
    wired shared authenticator (.ok (.init init) :: input) =
      .fromConfigs (resolved.clampDbStatementTimeout shared.maxStatementTimeoutMs)
        { breaker := shared.breaker, timeout := fromMillis init.timeoutMs } := by
  simp only [wired, hauth, hresolve]

/-- The loop lemma, from the first frame on. -/
theorem serve_reports {I : List (Event Fx) → Prop} {R : BackendSet → List (Event Fx) → Prop}
    (hI : ∀ {self log}, R self log → I log)
    (houter : ∀ {self log e}, R self log → Outer e → Reports self e → R self (log ++ [e]))
    (hcall : ∀ {self log} call, R self log → ∀ es q, Prog.Steps (self.call lib call) es q →
      I (log ++ [spawned call] ++ es) ∧ ∀ r, q = .ret r → ∀ result,
        R r.2 (log ++ [spawned call] ++ es ++ [written (.reply r.1) result]))
    (input : Input) (h : R (wired shared authenticator input) []) :
    (serve lib shared authenticator input).run.Meets (Prog.history I)
      (fun log' _ => ∃ self', R self' log') [] := by
  have hread (got : Option (Except String WireRequest)) (answer : Unit) :
      R (wired shared authenticator input) [⟨⟨.readFrame got, none⟩, answer⟩] :=
    houter h trivial (reports_silent fun _ => Call.noConfusion)
  have hwrite {log : List (Event Fx)} (hlog : R (wired shared authenticator input) log)
      (response : WireResponse) (hresponse : ∀ metrics, response ≠ .metrics metrics)
      (result : Except String Unit) :
      R (wired shared authenticator input) (log ++ [written response result]) :=
    houter hlog trivial (reports_written hresponse result)
  cases input with
  | nil => exact fun got => ⟨hI (hread _ got), _, hread _ got⟩
  | cons frame input =>
    cases frame with
    | error err => exact fun got => ⟨hI (hread _ got), _, hread _ got⟩
    | ok request =>
      by_cases hinit : ∀ init, request ≠ .init init
      · rw [serve_refused lib shared authenticator hinit]
        intro got
        refine ⟨hI (hread _ got), fun result => ?_⟩
        have hrefused := hwrite (hread (some (.ok request)) got)
          (.protocolError "expected Init as the first frame") (fun _ => WireResponse.noConfusion) result
        exact ⟨hI hrefused, _, hrefused⟩
      · obtain ⟨init, rfl⟩ := not_forall_not.mp hinit
        cases hauth : authenticator.authenticate init.token with
        | error reject =>
          rw [serve_rejected lib shared authenticator hauth]
          intro got
          refine ⟨hI (hread _ got), fun counted => ?_⟩
          have hcounted : R _ ([_] ++ [⟨⟨.authFailuresFetchAdd, none⟩, counted⟩]) :=
            houter (hread (some (.ok (.init init))) got) trivial
              (reports_silent fun _ => Call.noConfusion)
          refine ⟨hI hcounted, fun result => ?_⟩
          have hrejected := hwrite hcounted (.initError reject.code reject.message)
            (fun _ => WireResponse.noConfusion) result
          exact ⟨hI hrejected, _, hrejected⟩
        | ok _ =>
          rw [serve_authenticated lib shared authenticator hauth]
          intro got
          refine ⟨hI (hread _ got), ?_⟩
          cases hresolve : resolve shared.table init with
          | error err =>
            rw [serveAuthenticated_refused lib shared hresolve]
            intro result
            have hrefused := hwrite (hread (some (.ok (.init init))) got)
              (.initError err.code err.message) (fun _ => WireResponse.noConfusion) result
            exact ⟨hI hrefused, _, hrefused⟩
          | ok resolved =>
            rw [serveAuthenticated_acked lib shared hresolve]
            intro result
            have hacked := hwrite (hread (some (.ok (.init init))) got) .ack
              (fun _ => WireResponse.noConfusion) result
            refine ⟨hI hacked, ?_⟩
            cases result with
            | error err => exact ⟨_, hacked⟩
            | ok _ =>
              rw [wired_acked shared authenticator hauth hresolve] at hacked
              exact serveCalls_reports lib (R := R) hI houter hcall input hacked

/-- The loop lemma where the answers to drains do not matter. -/
theorem serve_history {I : List (Event Fx) → Prop} {R : BackendSet → List (Event Fx) → Prop}
    (hI : ∀ {self log}, R self log → I log)
    (houter : ∀ {self log e}, R self log → Outer e → R self (log ++ [e]))
    (hcall : ∀ {self log} call, R self log → ∀ es q, Prog.Steps (self.call lib call) es q →
      I (log ++ [spawned call] ++ es) ∧ ∀ r, q = .ret r → ∀ result,
        R r.2 (log ++ [spawned call] ++ es ++ [written (.reply r.1) result]))
    (input : Input) (h : R (wired shared authenticator input) []) :
    (serve lib shared authenticator input).run.Meets (Prog.history I)
      (fun log' _ => ∃ self', R self' log') [] :=
  serve_reports lib shared authenticator (R := R) hI (fun h he _ => houter h he) hcall input h

theorem serve_track {σ : Type} (track : Track σ) (port : Port lib track.capability track.call)
    {input : Input} (h : track.Rests (port.get (wired shared authenticator input)) [] [])
    {log : List (Event Fx)} {q : Fab (Except String Unit)}
    (hs : Prog.Steps (serve lib shared authenticator input).run log q) : Serves track log := by
  have hstart : Settles track (port.get (wired shared authenticator input)) [] :=
    ⟨AllClosed.nil, h⟩
  have hmeets := serve_history lib shared authenticator
    (R := fun self log => Settles track (port.get self) log) Settles.serves (fun h he => h.outer he)
    (fun call h es q hs => port.settles_call h call hs) input hstart
  exact (hmeets.run_history hstart.serves hs).1

/-- The work of the calls is the session's own, and every request for a capability is the
work of a call of that name. -/
structure Placed (log : List (Event Fx)) : Prop where
  own : ∀ visit ∈ visits log, ∀ e ∈ visit.work, e ∈ log
  called : ∀ e ∈ log, ∀ c, e.op.call.capability = some c →
    ∃ visit ∈ visitsOf c log, e ∈ visit.work

theorem Placed.outer {log : List (Event Fx)} {e : Event Fx} (h : Placed log)
    (hvisits : visits (log ++ [e]) = visits log) (he : e.op.call.capability = none) :
    Placed (log ++ [e]) := by
  refine ⟨fun visit hvisit e' he' => ?_, fun e' he' c hc => ?_⟩
  · rw [hvisits] at hvisit
    exact List.mem_append_left _ (h.own visit hvisit e' he')
  · rcases List.mem_append.mp he' with hlog | hlast
    · rw [visitsOf, hvisits]
      exact h.called e' hlog c hc
    · rw [List.mem_singleton.mp hlast, he] at hc
      cases hc

theorem Placed.push {log log' es : List (Event Fx)} {call : WireCall}
    {response : Option WireResponse} (h : Placed log)
    (hvisits : visits log' = ⟨call, es, response⟩ :: visits log)
    (hold : ∀ e ∈ log, e ∈ log') (hnew : ∀ e ∈ es, e ∈ log')
    (hlog : ∀ e ∈ log', e ∈ log ∨ e ∈ es ∨ e.op.call.capability = none)
    (hes : ∀ e ∈ es, ∀ c, e.op.call.capability = some c → c.name = call.name) : Placed log' := by
  refine ⟨fun visit hvisit e he => ?_, fun e he c hc => ?_⟩
  · rw [hvisits] at hvisit
    rcases List.mem_cons.mp hvisit with rfl | hvisit
    · exact hnew e he
    · exact hold e (h.own visit hvisit e he)
  · rw [visitsOf, hvisits]
    rcases hlog e he with he | he | hnone
    · obtain ⟨visit, hvisit, hwork⟩ := h.called e he c hc
      obtain ⟨hmem, hname⟩ := List.mem_filter.mp hvisit
      exact ⟨visit, List.mem_filter.mpr ⟨List.mem_cons_of_mem _ hmem, hname⟩, hwork⟩
    · refine ⟨_, List.mem_filter.mpr ⟨List.mem_cons_self, ?_⟩, he⟩
      exact decide_eq_true (hes e he c hc).symm
    · rw [hnone] at hc
      cases hc

theorem serve_placed {input : Input} {log : List (Event Fx)} {q : Fab (Except String Unit)}
    (hs : Prog.Steps (serve lib shared authenticator input).run log q) :
    Placed log ∧ ∀ r, q = .ret r → AllClosed (visits log) := by
  have hnil : Placed [] := ⟨fun _ h => (List.not_mem_nil h).elim, fun _ h => (List.not_mem_nil h).elim⟩
  have hmeets := serve_history lib shared authenticator (I := Placed)
    (R := fun _ log => AllClosed (visits log) ∧ Placed log) (fun h => h.2)
    (fun {self log e} h he => ?_) (fun {self log} call h es q hs => ?_) input ⟨AllClosed.nil, hnil⟩
  · obtain ⟨hplaced, hend⟩ := hmeets.run_history hnil hs
    refine ⟨hplaced, ?_⟩
    rintro r rfl
    obtain ⟨_, hclosed, -⟩ := hend
    exact hclosed
  · have hvisits := visits_outer h.1 he
    exact ⟨by rw [hvisits]; exact h.1, h.2.outer hvisits (outer_capability he)⟩
  · have hasked := ((self.call_only lib call).steps hs).1
    have hinner := ((self.call_inner lib call).steps hs).1
    have hes : ∀ e ∈ es, ∀ c, e.op.call.capability = some c → c.name = call.name := by
      intro e he c hc
      rcases hasked e he with ⟨capability, hcapability, hname⟩ | hnow
      · rw [hc] at hcapability
        cases hcapability
        exact hname
      · rw [hnow] at hc
        cases hc
    have hspawned : (spawned call).op.call.capability = none := rfl
    have hwritten (response : WireResponse) (result : Except String Unit) :
        (written response result).op.call.capability = none := rfl
    refine ⟨h.2.push (visits_call hinner) ?_ ?_ ?_ hes, ?_⟩
    · exact fun e he => by simp [he]
    · exact fun e he => by simp [he]
    · intro e he
      simp only [List.mem_append, List.mem_singleton] at he
      rcases he with (he | rfl) | he
      · exact .inl he
      · exact .inr (.inr hspawned)
      · exact .inr (.inl he)
    · intro r hr result
      refine ⟨?_, h.2.push (visits_answered hinner _ result) ?_ ?_ ?_ hes⟩
      · rw [visits_answered hinner]
        exact List.forall_mem_cons.mpr ⟨Option.some_ne_none _, h.1⟩
      · exact fun e he => by simp [he]
      · exact fun e he => by simp [he]
      · intro e he
        simp only [List.mem_append, List.mem_singleton] at he
        rcases he with ((he | rfl) | he) | rfl
        · exact .inl he
        · exact .inr (.inr hspawned)
        · exact .inr (.inl he)
        · exact .inr (.inr (hwritten _ _))

private theorem Lane.rests_fresh {Config Deps Backend : Type} (lane : Lane Config Deps Backend)
    {slot : Option (Slot Config Deps Backend)}
    (h : ∀ s, slot = some s → s.backend = none) : lane.Rests slot slot [] [] := by
  cases slot with
  | none => exact ⟨rfl, List.forall_mem_nil _, List.forall_mem_nil _⟩
  | some slot =>
    obtain ⟨config, deps, cell⟩ := slot
    cases h _ rfl
    exact ⟨none, rfl, [], ⟨rfl, rfl⟩, rfl⟩

end

/-- The lanes of a session with the backends it was wired with. -/
structure SessionLanes (lib : Lib) (set : BackendSet) (log : List (Event Fx)) : Prop where
  closed : AllClosed (visits log).tail
  db : (dbLane lib).Orderly set.db log (visitsOf .db log)
  mongo : (mongoLane lib).Orderly set.mongo log (visitsOf .mongo log)
  mail : (mailLane lib).Orderly set.mail log (visitsOf .mail log)
  redis : (redisLane lib).Orderly set.redis log (visitsOf .redis log)
  auth : (authLane lib).Orderly set.auth log (visitsOf .auth log)
  amq : AmqOrderly set.amq log (visitsOf .amq log)

@[simp] theorem fromConfigs_eq (configs : ResolvedConfigs) (deps : AsyncDeps) :
    BackendSet.fromConfigs configs deps =
      { db := configs.db.map (Slot.new · deps)
        mongo := configs.mongo.map (Slot.new · deps)
        mail := configs.mail.map (Slot.new · ())
        redis := configs.redis.map (Slot.new · ())
        auth := configs.auth.map (Slot.new · ())
        amq := configs.amq.map AmqProducer.new } := by
  obtain ⟨db, mongo, mail, redis, amq, auth⟩ := configs
  cases db <;> cases mongo <;> cases mail <;> cases redis <;> cases amq <;> cases auth <;> rfl

section

variable (lib : Lib) (shared : Shared) (authenticator : Authenticator)

theorem slot_wired {Config Deps Backend : Type} {config : Option Config} {deps : Deps}
    {slot : Slot Config Deps Backend} (h : config.map (Slot.new · deps) = some slot) :
    slot.backend = none ∧ slot.deps = deps := by
  obtain ⟨config, -, rfl⟩ := Option.map_eq_some_iff.mp h
  exact ⟨rfl, rfl⟩

theorem slot_fresh {Config Deps Backend : Type} {config : Option Config} {deps : Deps}
    (s : Slot Config Deps Backend) (h : config.map (Slot.new · deps) = some s) :
    s.backend = none :=
  (slot_wired h).1

theorem wired_eq (input : Input) : ∃ configs deps,
    wired shared authenticator input = .fromConfigs configs deps := by
  have hnew : BackendSet.new = .fromConfigs ⟨none, none, none, none, none, none⟩ ⟨false, 0⟩ := rfl
  unfold wired
  split
  · split
    · exact ⟨_, _, hnew⟩
    · split
      · exact ⟨_, _, hnew⟩
      · exact ⟨_, _, rfl⟩
  · exact ⟨_, _, hnew⟩

theorem serve_lanes {input : Input} {log : List (Event Fx)} {q : Fab (Except String Unit)}
    (hs : Prog.Steps (serve lib shared authenticator input).run log q) :
    SessionLanes lib (wired shared authenticator input) log := by
  obtain ⟨configs, deps, hwired⟩ := wired_eq shared authenticator input
  rw [fromConfigs_eq] at hwired
  have hlane {Config Deps Backend : Type} (lane : Lane Config Deps Backend)
      (port : Port lib lane.capability lane.call)
      (h : ∀ s, port.get (wired shared authenticator input) = some s → s.backend = none) :
      Serves (lane.track (port.get (wired shared authenticator input))) log :=
    serve_track lib shared authenticator (lane.track _) port (lane.rests_fresh h) hs
  have hamq : (amqTrack lib (wired shared authenticator input).amq).Rests
      (wired shared authenticator input).amq [] [] := by
    refine ⟨rfl, ?_⟩
    cases (wired shared authenticator input).amq with
    | none => exact ⟨List.forall_mem_nil _, List.forall_mem_nil _⟩
    | some producer => exact List.forall_mem_nil _
  have hdb := hlane (dbLane lib) (dbPort lib) (hwired ▸ slot_fresh)
  have hmongo := hlane (mongoLane lib) (mongoPort lib) (hwired ▸ slot_fresh)
  have hmail := hlane (mailLane lib) (mailPort lib) (hwired ▸ slot_fresh)
  have hredis := hlane (redisLane lib) (redisPort lib) (hwired ▸ slot_fresh)
  have hauth := hlane (authLane lib) (authPort lib) (hwired ▸ slot_fresh)
  have hproducer := serve_track lib shared authenticator (amqTrack lib _) (amqPort lib) hamq hs
  exact
    { closed := hdb.1
      db := hdb.2
      mongo := hmongo.2
      mail := hmail.2
      redis := hredis.2
      auth := hauth.2
      amq := hproducer.2 }

end

end Fabricd
