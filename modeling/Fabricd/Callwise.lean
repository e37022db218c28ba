import Fabricd.Chronicle

/-!
# Calls one by one

A capability is asked for nothing but what its calls ask for, in their order; and each call
of a lazy one is an attempt, a run of a backend, or nothing at all.
-/

namespace Fabricd

open Framework ClientAuth

/-! ## The requests of the calls -/

def requests (capability : Capability) (log : List (Event Fx)) : List (Event Fx) :=
  log.filter fun e => e.op.call.capability = some capability

@[simp] theorem requests_append (capability : Capability) (log es : List (Event Fx)) :
    requests capability (log ++ es) = requests capability log ++ requests capability es :=
  List.filter_append ..

private theorem requests_eq_nil {capability : Capability} {es : List (Event Fx)}
    (h : ∀ e ∈ es, e.op.call.capability ≠ some capability) : requests capability es = [] :=
  List.filter_eq_nil_iff.mpr fun e he => by simp [h e he]

/-- The requests for a capability are those of its calls, in the order of the calls. -/
def Gathered (capability : Capability) (log : List (Event Fx)) (visits : List Visit) : Prop :=
  requests capability log = visits.reverse.flatMap fun visit => requests capability visit.work

theorem Gathered.call {capability : Capability} {log es : List (Event Fx)} {visits : List Visit}
    (h : Gathered capability log visits) (request : WireCall) (response : Option WireResponse) :
    Gathered capability (log ++ es) (⟨request, es, response⟩ :: visits) := by
  have hlog : requests capability log = visits.reverse.flatMap _ := h
  simp [Gathered, hlog]

def gathering {σ : Type} (capability : Capability)
    (call : σ → String → String → Fab (Except EgressError String × σ)) : Track σ where
  capability := capability
  call := call
  Orderly := Gathered capability
  Rests _ := Gathered capability
  orderly h := h
  append {s log es visits} h hes := by
    have hsame : requests capability (log ++ es) = requests capability log := by
      simp [requests_eq_nil hes]
    exact hsame.trans h
  step request h _ := ⟨h.call request none, fun _ _ => h.call request _⟩

theorem serve_gathered {σ : Type} {lib : Lib} {capability : Capability}
    {call : σ → String → String → Fab (Except EgressError String × σ)}
    (port : Port lib capability call) {shared : Shared} {authenticator : Authenticator}
    {input : Input} {log : List (Event Fx)} {q : Fab (Except String Unit)}
    (hs : Prog.Steps (serve lib shared authenticator input).run log q) :
    Gathered capability log (visitsOf capability log) :=
  (serve_track lib shared authenticator (gathering capability call) port
    (rfl : Gathered capability [] []) hs).2

/-! ## Where the calls come from -/

section

variable {lib : Lib} {shared : Shared} {authenticator : Authenticator} {input : Input}
  {P : Call → Prop}

private theorem serveCalls_only (hread : ∀ got, P (.readFrame got))
    (hwrite : ∀ r, P (.writeFrame r))
    (hinner : ∀ call, Inner call → P call) (self : BackendSet)
    (hspawn : ∀ call, .ok (.call call) ∈ input → P (.spawnBlocking call)) :
    (serveCalls lib self input).run.Only (On P) := by
  induction input generalizing self with
  | nil => exact ⟨hread _, fun _ => trivial⟩
  | cons frame input ih =>
    cases frame with
    | error err => exact ⟨hread _, fun _ => trivial⟩
    | ok request =>
      have hanswer : (answer lib self request).Only (On P) := by
        cases request with
        | init init => trivial
        | drain => trivial
        | call call =>
          show (dispatch lib self call).Only _
          rw [dispatch_joined]
          refine ⟨hspawn call List.mem_cons_self, fun joined => ?_⟩
          cases joined with
          | error err => trivial
          | ok _ =>
            have hcall := (self.call_inner lib call).mono fun op hop => hinner op.call hop
            exact hcall.bind fun _ => trivial
      rw [serveCalls_ok]
      refine ⟨hread _, fun _ => hanswer.bind fun r => ⟨hwrite _, fun result => ?_⟩⟩
      cases result with
      | ok _ => exact ih r.2 fun call hcall => hspawn call (List.mem_cons_of_mem _ hcall)
      | error err => trivial

private theorem serve_only (hread : ∀ got, P (.readFrame got)) (hwrite : ∀ r, P (.writeFrame r))
    (hcount : P .authFailuresFetchAdd) (hinner : ∀ call, Inner call → P call)
    (hspawn : ∀ call, .ok (.call call) ∈ input → P (.spawnBlocking call)) :
    (serve lib shared authenticator input).run.Only (On P) := by
  cases input with
  | nil => exact ⟨hread _, fun _ => trivial⟩
  | cons frame input =>
    cases frame with
    | error err => exact ⟨hread _, fun _ => trivial⟩
    | ok request =>
      by_cases hinit : ∀ init, request ≠ .init init
      · rw [serve_refused lib shared authenticator hinit]
        exact ⟨hread _, fun _ => ⟨hwrite _, fun _ => trivial⟩⟩
      · obtain ⟨init, rfl⟩ := not_forall_not.mp hinit
        cases hauth : authenticator.authenticate init.token with
        | error reject =>
          rw [serve_rejected lib shared authenticator hauth]
          exact ⟨hread _, fun _ => ⟨hcount, fun _ => ⟨hwrite _, fun _ => trivial⟩⟩⟩
        | ok _ =>
          rw [serve_authenticated lib shared authenticator hauth]
          refine ⟨hread _, fun _ => ?_⟩
          cases hresolve : resolve shared.table init with
          | error err =>
            rw [serveAuthenticated_refused lib shared hresolve]
            exact ⟨hwrite _, fun _ => trivial⟩
          | ok resolved =>
            rw [serveAuthenticated_acked lib shared hresolve]
            refine ⟨hwrite _, fun result => ?_⟩
            cases result with
            | error err => trivial
            | ok _ =>
              exact serveCalls_only hread hwrite hinner _
                fun call hcall => hspawn call (List.mem_cons_of_mem _ hcall)

private theorem visit_spawned {log : List (Event Fx)} {visit : Visit} (h : visit ∈ visits log) :
    ∃ e ∈ log, e.op.call = .spawnBlocking visit.call := by
  induction log using List.reverseRecOn generalizing visit with
  | nil => cases h
  | append_singleton log e ih =>
    rw [visits_snoc] at h
    have holder {visit : Visit} (h : visit ∈ visits log) :
        ∃ e' ∈ log ++ [e], e'.op.call = .spawnBlocking visit.call := by
      obtain ⟨e', he', hcall⟩ := ih h
      exact ⟨e', List.mem_append_left _ he', hcall⟩
    have hhead {f : Visit → Visit} (hf : ∀ v, (f v).call = v.call)
        (h : visit ∈ (visits log).modifyHead f) :
        ∃ e' ∈ log ++ [e], e'.op.call = .spawnBlocking visit.call := by
      cases hvisits : visits log with
      | nil =>
        rw [hvisits] at h
        cases h
      | cons first older =>
        rw [hvisits] at h
        rcases List.mem_cons.mp h with rfl | h
        · rw [hf first]
          exact holder (hvisits ▸ List.mem_cons_self)
        · exact holder (hvisits ▸ List.mem_cons_of_mem _ h)
    obtain ⟨⟨call, budget⟩, answer⟩ := e
    cases call with
    | spawnBlocking call =>
      cases answer with
      | error err => exact holder h
      | ok done =>
        rcases List.mem_cons.mp h with rfl | h
        · exact ⟨_, List.mem_append_right _ List.mem_cons_self, rfl⟩
        · exact holder h
    | writeFrame response => exact hhead (f := (·.close response)) (fun v => rfl) h
    | readFrame got => exact holder h
    | authFailuresFetchAdd => exact holder h
    | _ => exact hhead (f := fun visit => { visit with work := visit.work ++ [_] }) (fun v => rfl) h

theorem visit_requested {log : List (Event Fx)} {q : Fab (Except String Unit)}
    (hs : Prog.Steps (serve lib shared authenticator input).run log q) {visit : Visit}
    (h : visit ∈ visits log) : .ok (.call visit.call) ∈ input := by
  have honly : (serve lib shared authenticator input).run.Only
      (On fun call => ∀ request, call = .spawnBlocking request → .ok (.call request) ∈ input) := by
    refine serve_only ?_ ?_ ?_ ?_ ?_
    · rintro _ _ ⟨⟩
    · rintro _ _ ⟨⟩
    · rintro _ ⟨⟩
    · rintro _ hinner _ rfl
      rcases hinner with hnone | hnow
      · cases hnone
      · cases hnow
    · rintro _ hcall _ ⟨⟩
      exact hcall
  obtain ⟨e, he, hcall⟩ := visit_spawned h
  exact (honly.steps hs).1 e he _ hcall

end

/-! ## Measured calls -/

theorem measured_steps {ε α Metric β : Type} {dispatch : FabE ε α}
    {build : Except ε α → Instant → Fab Metric} {finish : Except ε α → Metric → β}
    (hbuild : ∀ result start, (build result start).Only (On (· = .now))) {es : List (Event Fx)}
    {q : Fab β}
    (hs : Prog.Steps (now >>= fun start => dispatch.run >>= fun result =>
      build result start >>= fun metric => .ret (finish result metric)) es q) :
    ∃ fs q', Prog.Steps dispatch.run fs q' ∧
      (∀ P : FxOp → Bool, (∀ budget, P ⟨.now, budget⟩ = false) →
        es.filter (fun e => P e.op) = fs.filter fun e => P e.op) ∧
      ∀ b, q = .ret b → ∃ result metric, q' = .ret result ∧ b = finish result metric := by
  cases hs with
  | refl => exact ⟨[], _, .refl _, fun _ _ => rfl, fun _ h => nomatch h⟩
  | @act _ _ start es _ hs =>
    have hfirst (P : FxOp → Bool) (hP : ∀ budget, P ⟨.now, budget⟩ = false)
        (es : List (Event Fx)) : ((⟨⟨.now, none⟩, start⟩ : Event Fx) :: es).filter
          (fun e => P e.op) = es.filter fun e => P e.op :=
      List.filter_cons_of_neg (by simpa using hP none)
    have hafter {result : Except ε α} {gs : List (Event Fx)}
        (h : Prog.Steps (build result start >>= fun metric => .ret (finish result metric)) gs q) :
        (∀ P : FxOp → Bool, (∀ budget, P ⟨.now, budget⟩ = false) →
          gs.filter (fun e => P e.op) = []) ∧
          ∀ b, q = .ret b → ∃ metric, b = finish result metric := by
      obtain ⟨rest, hbuilt, hend⟩ := Lane.steps_bind_pure h
      have hnow := ((hbuild result start).steps hbuilt).1
      refine ⟨fun P hP => List.filter_eq_nil_iff.mpr fun e he => ?_, fun b hb => ?_⟩
      · obtain ⟨⟨call, budget⟩, answer⟩ := e
        have hcall : call = .now := hnow _ he
        subst hcall
        simp [hP]
      · obtain ⟨metric, -, hb⟩ := hend b hb
        exact ⟨metric, hb⟩
    have hs : Prog.Steps (dispatch.run >>= fun result =>
        build result start >>= fun metric => .ret (finish result metric)) es q := hs
    rcases Prog.steps_bind hs with ⟨rest, hrun, hq⟩ | ⟨fs, gs, result, rfl, hrun, hrest⟩
    · refine ⟨es, rest, hrun, fun P hP => hfirst P hP es, fun b hb => ?_⟩
      cases rest with
      | act op k =>
        rw [hb] at hq
        cases hq
      | ret result =>
        subst hq
        obtain ⟨metric, hb⟩ := (hafter (.refl _)).2 b hb
        exact ⟨result, metric, rfl, hb⟩
    · refine ⟨fs, .ret result, hrun, fun P hP => ?_, fun b hb => ?_⟩
      · rw [hfirst P hP, List.filter_append, (hafter hrest).1 P hP, List.append_nil]
      · obtain ⟨metric, hb⟩ := (hafter hrest).2 b hb
        exact ⟨result, metric, rfl, hb⟩

/-! ## The course of a call -/

namespace Lane

variable {Config Deps Backend : Type} (lane : Lane Config Deps Backend)

/-- What one call of a lane came to: nothing, an attempt that has not succeeded, or a run of a
backend, after the attempt if it is the first. -/
inductive Course (slot : Option (Slot Config Deps Backend)) (visit : Visit) : Prop where
  | idle (work : visit.work = [])
      (answer : ∀ response, visit.response = some response → ∃ err, response = .reply (.error err))
  | attempted {s : Slot Config Deps Backend} {q : Fab (Except EgressError Backend)}
      (wired : slot = some s) (attempt : Prog.Steps (lane.connect s) visit.work q)
      (answer : ∀ response, visit.response = some response →
        ∃ err, q = .ret (.error err) ∧ response = .reply (.error err))
  | ran {s : Slot Config Deps Backend} {before use : List (Event Fx)} {backend : Backend}
      {q : Fab (Except EgressError String × Backend)} (wired : slot = some s)
      (attempt : before = [] ∨ Prog.Steps (lane.connect s) before (.ret (.ok backend)))
      (run : Prog.Steps (lane.run visit.call.action visit.call.payload backend) use q)
      (work : visit.work = before ++ use)
      (answer : ∀ response, visit.response = some response →
        ∃ r, q = .ret r ∧ response = .reply r.1)

variable {lane}

private theorem chronicle_course {slot : Slot Config Deps Backend} {cell : OnceLock Backend}
    {visit : Visit} {older : List Visit} (h : lane.Chronicle slot cell (visit :: older)) :
    lane.Course (some slot) visit := by
  have hdone {result : Except EgressError String}
      (h : visit.response = some (.reply result)) {response : WireResponse}
      (hr : visit.response = some response) : response = .reply result :=
    Option.some.inj (hr.symm.trans h)
  cases h with
  | failed attempt answer => exact .attempted rfl attempt fun _ hr => ⟨_, rfl, hdone answer hr⟩
  | refused before idle answer => exact .idle idle fun _ hr => ⟨_, hdone answer hr⟩
  | connected opened ran work answer =>
    exact .ran rfl (.inr opened) ran work fun _ hr => ⟨_, rfl, hdone answer hr⟩
  | served before ran answer =>
    exact .ran rfl (.inl rfl) ran (List.nil_append _).symm fun _ hr => ⟨_, rfl, hdone answer hr⟩

private theorem unfolding_course {slot : Slot Config Deps Backend} {visit : Visit}
    {older : List Visit}
    (h : lane.Unfolding slot (visit :: older)) : lane.Course (some slot) visit := by
  have hwaiting (h : visit.response = none) {response : WireResponse} {P : Prop}
      (hr : visit.response = some response) : P := by
    rw [h] at hr
    cases hr
  cases h with
  | rest before => exact chronicle_course before
  | connecting attempt waiting => exact .attempted rfl attempt fun _ hr => hwaiting waiting hr
  | refusing before idle waiting => exact .idle idle fun _ hr => hwaiting waiting hr
  | starting opened ran work waiting =>
    exact .ran rfl (.inr opened) ran work fun _ hr => hwaiting waiting hr
  | serving before ran waiting =>
    exact .ran rfl (.inl rfl) ran (List.nil_append _).symm fun _ hr => hwaiting waiting hr

private theorem Told.course {slot : Option (Slot Config Deps Backend)} {visits : List Visit}
    (h : lane.Told slot visits) : ∀ visit ∈ visits, lane.Course slot visit := by
  intro visit hvisit
  cases slot with
  | none =>
    obtain ⟨hwork, hanswers⟩ := h visit hvisit
    refine .idle hwork fun response hr => ?_
    rcases hanswers with hnone | hsome
    · rw [hnone] at hr
      cases hr
    · exact ⟨_, Option.some.inj (hr.symm.trans hsome)⟩
  | some slot =>
    obtain ⟨newer, older, rfl⟩ := List.append_of_mem hvisit
    exact unfolding_course (lane.unfolding_older h)

end Lane

theorem serve_course {Config Deps Backend : Type} (lane : Lane Config Deps Backend) {lib : Lib}
    {shared : Shared} {authenticator : Authenticator} (port : Port lib lane.capability lane.call)
    {input : Input}
    (hfresh : ∀ s, port.get (wired shared authenticator input) = some s → s.backend = none)
    {log : List (Event Fx)} {q : Fab (Except String Unit)}
    (hs : Prog.Steps (serve lib shared authenticator input).run log q) :
    ∀ visit ∈ visitsOf lane.capability log,
      lane.Course (port.get (wired shared authenticator input)) visit :=
  (serve_chronicle lane lib shared authenticator port hfresh hs).course

end Fabricd
