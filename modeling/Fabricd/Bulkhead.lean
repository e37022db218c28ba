import Fabricd.LateCalls

/-!
# One capability alone

What a session does on one capability is what it does there with every other frame left out:
the same calls, the same requests, the same responses.
-/

namespace Fabricd

open Framework ClientAuth

private theorem steps_bind_part {α β : Type} {p p' : Fab α} (f : α → Fab β) {es : List (Event Fx)}
    (hs : Prog.Steps p es p') : Prog.Steps (p >>= f) es (p' >>= f) := by
  induction hs with
  | refl p => exact .refl _
  | act _ ih => exact .act ih

private theorem act_ne_ret {α : Type} {op : FxOp} {k : Fx.Ans op → Fab α} {a : α} :
    (.act op k : Fab α) ≠ .ret a := nofun

/-! ## What is left out -/

/-- The frame calls the capability, or ends the session. -/
def concerns (c : Capability) : Except String WireRequest → Bool
  | .ok (.call call) => call.name = c.name
  | .ok _ => false
  | .error _ => true

/-- The first frame, and of the others those that concern the capability. -/
def alone (c : Capability) : Input → Input
  | [] => []
  | first :: input => first :: input.filter (concerns c)

/-! ## One turn of the loop -/

section

variable {lib : Lib} {self : BackendSet} {request : WireRequest} {input : Input}

private theorem turn_steps {es : List (Event Fx)} {q : Fab (Except String Unit)}
    (hs : Prog.Steps (serveCalls lib self (.ok request :: input)).run es q) :
    es = [] ∨ ∃ got rest, es = ⟨⟨.readFrame (some (.ok request)), none⟩, got⟩ :: rest ∧
      ((∃ p, Prog.Steps (answer lib self request) rest p) ∨
        ∃ work r result after, rest = work ++ written r.1 result :: after ∧
          Prog.Steps (answer lib self request) work (.ret r) ∧
          ((∃ err, result = .error err ∧ after = []) ∨
            result = .ok () ∧ Prog.Steps (serveCalls lib r.2 input).run after q)) := by
  rw [serveCalls_ok] at hs
  cases hs with
  | refl => exact .inl rfl
  | @act _ _ got rest _ hs =>
    refine .inr ⟨got, rest, rfl, ?_⟩
    rcases Prog.steps_bind hs with ⟨p, hrun, -⟩ | ⟨work, fs, r, rfl, hrun, hwrite⟩
    · exact .inl ⟨p, hrun⟩
    · cases hwrite with
      | refl => exact .inl ⟨.ret r, by simpa using hrun⟩
      | @act _ _ result after _ hafter =>
        refine .inr ⟨work, r, result, after, rfl, hrun, ?_⟩
        cases result with
        | error err =>
          obtain ⟨rfl, -⟩ := Prog.steps_ret hafter
          exact .inl ⟨err, rfl, rfl⟩
        | ok _ => exact .inr ⟨rfl, hafter⟩

private theorem turn_part (input : Input) (got : Unit) {work : List (Event Fx)}
    {p : Fab (WireResponse × BackendSet)}
    (hrun : Prog.Steps (answer lib self request) work p) :
    ∃ q, Prog.Steps (serveCalls lib self (.ok request :: input)).run
      (⟨⟨.readFrame (some (.ok request)), none⟩, got⟩ :: work) q := by
  rw [serveCalls_ok]
  exact ⟨_, .act (steps_bind_part _ hrun)⟩

private theorem turn_whole (got : Unit) {work after : List (Event Fx)}
    {r : WireResponse × BackendSet}
    {q : Fab (Except String Unit)} (hrun : Prog.Steps (answer lib self request) work (.ret r))
    (hafter : Prog.Steps (serveCalls lib r.2 input).run after q) :
    Prog.Steps (serveCalls lib self (.ok request :: input)).run
      (⟨⟨.readFrame (some (.ok request)), none⟩, got⟩ :: (work ++ written r.1 (.ok ()) :: after))
      q := by
  rw [serveCalls_ok]
  exact .act (hrun.bind (.act hafter))

private theorem turn_failed (input : Input) (got : Unit) {work : List (Event Fx)}
    {r : WireResponse × BackendSet}
    (err : String) (hrun : Prog.Steps (answer lib self request) work (.ret r)) :
    ∃ q, Prog.Steps (serveCalls lib self (.ok request :: input)).run
      (⟨⟨.readFrame (some (.ok request)), none⟩, got⟩ :: (work ++ [written r.1 (.error err)])) q := by
  rw [serveCalls_ok]
  exact ⟨_, .act (hrun.bind (.act (.refl _)))⟩

private theorem answer_call {call : WireCall} {work : List (Event Fx)}
    {p : Fab (WireResponse × BackendSet)}
    (hs : Prog.Steps (answer lib self (.call call)) work p) :
    (work = [] ∧ ∀ r, p ≠ .ret r) ∨
      (∃ err, work = [⟨⟨.spawnBlocking call, none⟩, .error err⟩] ∧
        ∀ r, p = .ret r → r = (.protocolError s!"backend task failed: {err}", self)) ∨
      ∃ use p', work = spawned call :: use ∧ Prog.Steps (self.call lib call) use p' ∧
        ∀ r, p = .ret r → ∃ s, p' = .ret s ∧ r = (.reply s.1, s.2) := by
  have hs : Prog.Steps (dispatch lib self call) work p := hs
  rw [dispatch_joined] at hs
  cases hs with
  | refl => exact .inl ⟨rfl, fun r => act_ne_ret⟩
  | @act _ _ joined use _ hs =>
    cases joined with
    | error err =>
      obtain ⟨rfl, rfl⟩ := Prog.steps_ret hs
      refine .inr (.inl ⟨err, rfl, ?_⟩)
      rintro r ⟨rfl⟩
      rfl
    | ok _ =>
      obtain ⟨p', hrun, hend⟩ := Lane.steps_bind_pure hs
      exact .inr (.inr ⟨use, p', rfl, hrun, hend⟩)

end

/-! ## One capability's part -/

section

variable {σ : Type} {lib : Lib} {c : Capability}
  {call : σ → String → String → Fab (Except EgressError String × σ)} (port : Port lib c call)
  {self self' : BackendSet} {log log' : List (Event Fx)}

private theorem Port.same_call (hpart : port.get self' = port.get self) {request : WireCall}
    (hname : request.name = c.name) {es : List (Event Fx)}
    {q : Fab (Except EgressError String × BackendSet)}
    (hs : Prog.Steps (self.call lib request) es q) :
    ∃ q', Prog.Steps (self'.call lib request) es q' ∧ ∀ r, q = .ret r →
      ∃ r', q' = .ret r' ∧ r'.1 = r.1 ∧ port.get r'.2 = port.get r.2 := by
  rw [port.call_own self request hname] at hs
  rw [port.call_own self' request hname, hpart]
  obtain ⟨rest, hrun, hend⟩ := Lane.steps_bind_pure hs
  refine ⟨_, steps_bind_part _ hrun, fun r hr => ?_⟩
  obtain ⟨s, rfl, rfl⟩ := hend r hr
  exact ⟨_, rfl, rfl, by rw [port.get_set, port.get_set]⟩

/-- The whole session and the session alone, between two frames. -/
structure Abreast (set set' : BackendSet) (log log' : List (Event Fx)) : Prop where
  part : port.get set' = port.get set
  closed : AllClosed (visits log)
  closed' : AllClosed (visits log')
  visits : visitsOf c log' = visitsOf c log

variable {port}

theorem Abreast.outer (h : Abreast port self self' log log') {e : Event Fx} (he : Outer e) :
    Abreast port self self' (log ++ [e]) log' := by
  have hvisits := visits_outer h.closed he
  refine ⟨h.part, by rw [hvisits]; exact h.closed, h.closed', ?_⟩
  unfold visitsOf at *
  rw [hvisits]
  exact h.visits

theorem Abreast.both (h : Abreast port self self' log log') {e : Event Fx} (he : Outer e) :
    Abreast port self self' (log ++ [e]) (log' ++ [e]) := by
  have hvisits := visits_outer h.closed' he
  have hwhole := h.outer he
  refine ⟨h.part, hwhole.closed, by rw [hvisits]; exact h.closed', ?_⟩
  rw [← hwhole.visits]
  unfold visitsOf
  rw [hvisits]

private theorem visitsOf_call {request : WireCall} {es : List (Event Fx)}
    (hes : ∀ e ∈ es, Inner e.op.call) :
    visitsOf c (log ++ spawned request :: es) =
      if request.name = c.name then ⟨request, es, none⟩ :: visitsOf c log else visitsOf c log := by
  have hlog : log ++ spawned request :: es = log ++ [spawned request] ++ es := by simp
  rw [hlog, visitsOf, visits_call hes]
  by_cases hname : request.name = c.name <;> simp [visitsOf, hname]

private theorem visitsOf_answered {request : WireCall} {es : List (Event Fx)}
    (hes : ∀ e ∈ es, Inner e.op.call) (response : WireResponse) (result : Except String Unit) :
    visitsOf c (log ++ (spawned request :: es ++ [written response result])) =
      if request.name = c.name then ⟨request, es, some response⟩ :: visitsOf c log
      else visitsOf c log := by
  have hlog : log ++ (spawned request :: es ++ [written response result]) =
      log ++ [spawned request] ++ es ++ [written response result] := by simp
  rw [hlog, visitsOf, visits_answered hes]
  by_cases hname : request.name = c.name <;> simp [visitsOf, hname]

private theorem closed_answered {request : WireCall} {es : List (Event Fx)}
    (hes : ∀ e ∈ es, Inner e.op.call) (response : WireResponse) (result : Except String Unit)
    (h : AllClosed (visits log)) :
    AllClosed (visits (log ++ (spawned request :: es ++ [written response result]))) := by
  have hlog : log ++ (spawned request :: es ++ [written response result]) =
      log ++ [spawned request] ++ es ++ [written response result] := by simp
  rw [hlog, visits_answered hes]
  exact List.forall_mem_cons.mpr ⟨Option.some_ne_none _, h⟩

theorem Abreast.passed (h : Abreast port self self' log log') {request : WireRequest}
    (hother : concerns c (.ok request) = false) {work : List (Event Fx)}
    {p : Fab (WireResponse × BackendSet)}
    (hs : Prog.Steps (answer lib self request) work p) :
    visitsOf c (log ++ work) = visitsOf c log ∧ ∀ r, p = .ret r → ∀ result,
      Abreast port r.2 self' (log ++ (work ++ [written r.1 result])) log' := by
  have hpure {response : WireResponse} (hs : Prog.Steps (.ret (response, self)) work p) :
      visitsOf c (log ++ work) = visitsOf c log ∧ ∀ r, p = .ret r → ∀ result,
        Abreast port r.2 self' (log ++ (work ++ [written r.1 result])) log' := by
    obtain ⟨rfl, rfl⟩ := Prog.steps_ret hs
    refine ⟨by rw [List.append_nil], ?_⟩
    rintro r ⟨rfl⟩ result
    exact h.outer trivial
  cases request with
  | init init => exact hpure hs
  | drain => exact hpure hs
  | call request =>
    have hname : request.name ≠ c.name := by simpa [concerns] using hother
    rcases answer_call hs with ⟨rfl, hnot⟩ | ⟨err, rfl, hend⟩ | ⟨use, p', rfl, hrun, hend⟩
    · exact ⟨by rw [List.append_nil], fun r hr => absurd hr (hnot r)⟩
    · have hjoin : Abreast port self self' (log ++ [⟨⟨.spawnBlocking request, none⟩, .error err⟩])
          log' := h.outer rfl
      refine ⟨hjoin.visits.symm.trans h.visits, fun r hr result => ?_⟩
      cases hend r hr
      rw [← List.append_assoc]
      exact hjoin.outer trivial
    · have hinner := ((self.call_inner lib request).steps hrun).1
      refine ⟨by rw [visitsOf_call hinner, if_neg hname], fun r hr result => ?_⟩
      obtain ⟨s, rfl, rfl⟩ := hend r hr
      have hget : port.get s.2 = port.get self := ((port.call_other self request hname).steps hrun).2
      refine ⟨h.part.trans hget.symm, closed_answered hinner _ _ h.closed, h.closed', ?_⟩
      rw [visitsOf_answered hinner, if_neg hname]
      exact h.visits

theorem Abreast.served (h : Abreast port self self' log log') {request : WireCall}
    (hname : request.name = c.name) {work : List (Event Fx)} {p : Fab (WireResponse × BackendSet)}
    (hs : Prog.Steps (answer lib self (.call request)) work p) :
    ∃ p', Prog.Steps (answer lib self' (.call request)) work p' ∧
      visitsOf c (log' ++ work) = visitsOf c (log ++ work) ∧
      ∀ r, p = .ret r → ∃ r', p' = .ret r' ∧ r'.1 = r.1 ∧ ∀ result,
        Abreast port r.2 r'.2 (log ++ (work ++ [written r.1 result]))
          (log' ++ (work ++ [written r.1 result])) := by
  have hjoined : answer lib self' (.call request) = dispatch lib self' request := rfl
  rw [hjoined, dispatch_joined]
  rcases answer_call hs with ⟨rfl, hnot⟩ | ⟨err, rfl, hend⟩ | ⟨use, q, rfl, hrun, hend⟩
  · refine ⟨_, .refl _, ?_, fun r hr => absurd hr (hnot r)⟩
    rw [List.append_nil, List.append_nil]
    exact h.visits
  · have hjoin : Abreast port self self' (log ++ [⟨⟨.spawnBlocking request, none⟩, .error err⟩])
        (log' ++ [⟨⟨.spawnBlocking request, none⟩, .error err⟩]) := h.both rfl
    refine ⟨_, .act (.refl _), hjoin.visits, fun r hr => ?_⟩
    cases hend r hr
    refine ⟨_, rfl, rfl, fun result => ?_⟩
    rw [← List.append_assoc, ← List.append_assoc]
    exact hjoin.both trivial
  · have hinner := ((self.call_inner lib request).steps hrun).1
    obtain ⟨q', hrun', hsame⟩ := port.same_call h.part hname hrun
    refine ⟨_, .act (steps_bind_part _ hrun'), ?_, fun r hr => ?_⟩
    · rw [visitsOf_call hinner, visitsOf_call hinner, if_pos hname, if_pos hname, h.visits]
    · obtain ⟨s, rfl, rfl⟩ := hend r hr
      obtain ⟨s', rfl, hresult, hget⟩ := hsame s rfl
      refine ⟨_, rfl, by rw [hresult], fun result => ?_⟩
      refine ⟨hget, closed_answered hinner _ _ h.closed, closed_answered hinner _ _ h.closed', ?_⟩
      rw [visitsOf_answered hinner, visitsOf_answered hinner, if_pos hname, if_pos hname, h.visits]

theorem Abreast.last (h : Abreast port self self' log log')
    {frame : Option (Except String WireRequest)} {r : Except String Unit} {es : List (Event Fx)}
    {q : Fab (Except String Unit)}
    (hs : Prog.Steps (.act ⟨.readFrame frame, none⟩ fun _ => .ret r : Fab (Except String Unit)) es q) :
    visitsOf c log' = visitsOf c (log ++ es) := by
  cases hs with
  | refl =>
    rw [List.append_nil]
    exact h.visits
  | @act _ _ got _ _ hs =>
    obtain ⟨rfl, -⟩ := Prog.steps_ret hs
    exact (h.outer (e := ⟨⟨.readFrame frame, none⟩, got⟩) trivial).visits

/-- The run lemma: the frames that concern the capability, on their own. -/
theorem serveCalls_alone {input : Input} {es : List (Event Fx)} {q : Fab (Except String Unit)}
    (h : Abreast port self self' log log')
    (hs : Prog.Steps (serveCalls lib self input).run es q) :
    ∃ es' q', Prog.Steps (serveCalls lib self' (input.filter (concerns c))).run es' q' ∧
      es'.Sublist es ∧ visitsOf c (log' ++ es') = visitsOf c (log ++ es) := by
  induction input generalizing self self' log log' es with
  | nil =>
    refine ⟨[], _, .refl _, List.nil_sublist _, ?_⟩
    rw [List.append_nil]
    exact h.last hs
  | cons frame input ih =>
    cases frame with
    | error err =>
      refine ⟨[], _, .refl _, List.nil_sublist _, ?_⟩
      rw [List.append_nil]
      exact h.last hs
    | ok request =>
      rcases turn_steps hs with rfl | ⟨got, rest, rfl, hturn⟩
      · refine ⟨[], _, .refl _, List.nil_sublist _, ?_⟩
        rw [List.append_nil, List.append_nil]
        exact h.visits
      · by_cases hconcerns : concerns c (.ok request) = true
        · -- a call of the capability: both sessions take the turn
          rw [List.filter_cons_of_pos hconcerns]
          obtain ⟨request, rfl, hname⟩ : ∃ call, request = .call call ∧ call.name = c.name := by
            cases request with
            | init init => cases hconcerns
            | drain => cases hconcerns
            | call call => exact ⟨call, rfl, by simpa [concerns] using hconcerns⟩
          have hread := h.both (e := ⟨⟨.readFrame (some (.ok (.call request))), none⟩, got⟩) trivial
          rcases hturn with ⟨p, hrun⟩ | ⟨work, r, result, after, rfl, hrun, hend⟩
          · obtain ⟨p', hrun', hvisits, -⟩ := hread.served hname hrun
            obtain ⟨q', hs'⟩ := turn_part (input.filter (concerns c)) got hrun'
            exact ⟨_, q', hs', List.Sublist.refl _, by simpa using hvisits⟩
          · obtain ⟨p', hrun', -, hserved⟩ := hread.served hname hrun
            obtain ⟨r', rfl, hresponse, hafter⟩ := hserved r rfl
            rcases hend with ⟨err, rfl, rfl⟩ | ⟨rfl, hrest⟩
            · obtain ⟨q', hs'⟩ := turn_failed (input.filter (concerns c)) got err hrun'
              rw [hresponse] at hs'
              exact ⟨_, q', hs', List.Sublist.refl _, by simpa using (hafter (.error err)).visits⟩
            · obtain ⟨es', q', hs', hsub, hvisits⟩ := ih (hafter (.ok ())) hrest
              have hwhole := turn_whole got hrun' hs'
              rw [hresponse] at hwhole
              refine ⟨_, q', hwhole, ?_, by simpa using hvisits⟩
              exact ((hsub.cons_cons _).append_left work).cons_cons _
        · -- any other frame: the whole session takes the turn
          rw [List.filter_cons_of_neg hconcerns]
          have hother : concerns c (.ok request) = false := Bool.eq_false_of_not_eq_true hconcerns
          have hread := h.outer (e := ⟨⟨.readFrame (some (.ok request)), none⟩, got⟩) trivial
          rcases hturn with ⟨p, hrun⟩ | ⟨work, r, result, after, rfl, hrun, hend⟩
          · have hvisits := hread.visits.trans (hread.passed hother hrun).1.symm
            refine ⟨[], _, .refl _, List.nil_sublist _, ?_⟩
            simpa using hvisits
          · have hafter := (hread.passed hother hrun).2 r rfl result
            rcases hend with ⟨err, rfl, rfl⟩ | ⟨rfl, hrest⟩
            · refine ⟨[], _, .refl _, List.nil_sublist _, ?_⟩
              rw [List.append_nil, hafter.visits]
              simp
            · obtain ⟨es', q', hs', hsub, hvisits⟩ := ih hafter hrest
              refine ⟨es', q', hs', ?_, by simpa using hvisits⟩
              exact ((hsub.trans (List.sublist_cons_self _ _)).trans
                (List.sublist_append_right work _)).trans (List.sublist_cons_self _ _)

private theorem serve_alone (port : Port lib c call) {shared : Shared}
    {authenticator : Authenticator}
    {input : Input} {log : List (Event Fx)} {q : Fab (Except String Unit)}
    (hs : Prog.Steps (serve lib shared authenticator input).run log q) :
    ∃ log' q', Prog.Steps (serve lib shared authenticator (alone c input)).run log' q' ∧
      log'.Sublist log ∧ visitsOf c log' = visitsOf c log := by
  cases input with
  | nil => exact ⟨log, q, hs, List.Sublist.refl _, rfl⟩
  | cons frame input =>
    cases frame with
    | error err => exact ⟨log, q, hs, List.Sublist.refl _, rfl⟩
    | ok request =>
      unfold alone
      by_cases hinit : ∀ init, request ≠ .init init
      · rw [serve_refused lib shared authenticator hinit] at hs ⊢
        exact ⟨log, q, hs, List.Sublist.refl _, rfl⟩
      · obtain ⟨init, rfl⟩ := not_forall_not.mp hinit
        cases hauth : authenticator.authenticate init.token with
        | error reject =>
          rw [serve_rejected lib shared authenticator hauth] at hs ⊢
          exact ⟨log, q, hs, List.Sublist.refl _, rfl⟩
        | ok _ =>
          rw [serve_authenticated lib shared authenticator hauth] at hs ⊢
          cases hresolve : resolve shared.table init with
          | error err =>
            rw [serveAuthenticated_refused lib shared hresolve] at hs ⊢
            exact ⟨log, q, hs, List.Sublist.refl _, rfl⟩
          | ok resolved =>
            rw [serveAuthenticated_acked lib shared hresolve] at hs ⊢
            cases hs with
            | refl => exact ⟨[], _, .refl _, List.Sublist.refl _, rfl⟩
            | @act _ _ got es _ hs =>
              cases hs with
              | refl => exact ⟨_, _, .act (.refl _), List.Sublist.refl _, rfl⟩
              | @act _ _ result es _ hs =>
                cases result with
                | error err =>
                  obtain ⟨rfl, -⟩ := Prog.steps_ret hs
                  exact ⟨_, _, .act (.act (.refl _)), List.Sublist.refl _, rfl⟩
                | ok _ =>
                  have hack (self : BackendSet) : Abreast port self self
                      [⟨⟨.readFrame (some (.ok (.init init))), none⟩, got⟩, written .ack (.ok ())]
                      [⟨⟨.readFrame (some (.ok (.init init))), none⟩, got⟩, written .ack (.ok ())] :=
                    ⟨rfl, AllClosed.nil, AllClosed.nil, rfl⟩
                  obtain ⟨es', q', hs', hsub, hvisits⟩ := serveCalls_alone (hack _) hs
                  refine ⟨⟨_, got⟩ :: written .ack (.ok ()) :: es', q', .act (.act hs'), ?_, hvisits⟩
                  exact (hsub.cons_cons _).cons_cons _

end

/-- Each capability of a session on its own: leave out the frames that do not concern it, and
its calls are answered as before, after the same requests. -/
theorem capability_alone (lib : Lib) (shared : Shared) (authenticator : Authenticator)
    (c : Capability) {input : Input} {log : List (Event Fx)} {q : Fab (Except String Unit)}
    (hs : Prog.Steps (serve lib shared authenticator input).run log q) :
    ∃ log' q', Prog.Steps (serve lib shared authenticator (alone c input)).run log' q' ∧
      log'.Sublist log ∧ visitsOf c log' = visitsOf c log := by
  cases c with
  | db => exact serve_alone (dbPort lib) hs
  | mongo => exact serve_alone (mongoPort lib) hs
  | mail => exact serve_alone (mailPort lib) hs
  | redis => exact serve_alone (redisPort lib) hs
  | amq => exact serve_alone (amqPort lib) hs
  | auth => exact serve_alone (authPort lib) hs

/-- The transaction above among frames that have nothing to do with it. -/
def mixedInput : Input :=
  [.ok (.init { WireInit.empty with db := some "orders", timeoutMs := 1000 }),
    .ok (.call ⟨"db", "begin", ""⟩), .ok .drain, .ok (.call ⟨"redis", "get", ""⟩),
    .ok (.call ⟨"db", "execute", ""⟩), .ok (.init WireInit.empty), .ok (.call ⟨"db", "commit", ""⟩)]

def mixedSession : Outcome Fx Nat (Except String Unit) :=
  Prog.run stoppedClock 0 (serve ordersLib ordersShared .none mixedInput).run

theorem capability_alone_orders : ∃ log' q',
    Prog.Steps (serve ordersLib ordersShared .none ordersInput).run log' q' ∧
      log'.Sublist mixedSession.events ∧
      visitsOf .db log' = visitsOf .db mixedSession.events := by
  have hs : Prog.Steps (serve ordersLib ordersShared .none mixedInput).run mixedSession.events
      (.ret mixedSession.value) := Prog.run_steps _ _ _
  exact capability_alone ordersLib ordersShared .none .db hs

end Fabricd
