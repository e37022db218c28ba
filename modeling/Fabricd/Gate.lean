import Fabricd.Daemon
import Fabricd.Provenance
import Mathlib.Algebra.BigOperators.Group.Finset.Piecewise

/-!
# The authentication gate

Nothing of the table or of a backend is reached before the authenticator has accepted the
token of a first `Init`, and every rejection is counted once.
-/

namespace Fabricd

open Framework ClientAuth

/-! ## Verdicts -/

/-- The first frame is an `Init` whose token is accepted. -/
def admitted (authenticator : Authenticator) : Input → Bool
  | .ok (.init init) :: _ => (authenticator.authenticate init.token).isOk
  | _ => false

def rejected (authenticator : Authenticator) : Input → Bool
  | .ok (.init init) :: _ => !(authenticator.authenticate init.token).isOk
  | _ => false

theorem rejected_eq_true {authenticator : Authenticator} {input : Input}
    (h : rejected authenticator input = true) : ∃ init rest reject,
      input = .ok (.init init) :: rest ∧
        authenticator.authenticate init.token = .error reject := by
  unfold rejected at h
  split at h
  · rename_i init rest
    cases hauth : authenticator.authenticate init.token with
    | ok _ => simp [hauth, Except.isOk, Except.toBool] at h
    | error reject => exact ⟨init, rest, reject, rfl, hauth⟩
  · cases h

private theorem reject_code {authenticator : Authenticator} {token : Option String}
    {reject : AuthReject}
    (h : authenticator.authenticate token = .error reject) : reject.code = unauthenticated := by
  cases authenticator with
  | none => cases h
  | static current previous =>
    cases token with
    | none =>
      cases h
      rfl
    | some presented =>
      unfold Authenticator.authenticate at h
      simp only at h
      split at h
      · cases h
      · split at h
        · split at h
          · cases h
          · cases h
            rfl
        · cases h
          rfl
  | saToken verify =>
    cases token with
    | none =>
      cases h
      rfl
    | some presented =>
      unfold Authenticator.authenticate at h
      simp only at h
      cases hverify : verify presented with
      | ok _ =>
        rw [hverify] at h
        cases h
      | error err =>
        rw [hverify] at h
        cases h
        rfl

private theorem utf8Bytes_injective {left right : String} (h : utf8Bytes left = utf8Bytes right) :
    left = right := by
  have hread := congrArg ofUtf8 h
  rw [ofUtf8_utf8Bytes, ofUtf8_utf8Bytes] at hread
  exact Option.some.inj hread

private theorem ctEq_utf8Bytes (left right : String) :
    ctEq (utf8Bytes left) (utf8Bytes right) = true ↔ left = right := by
  unfold ctEq
  rw [beq_iff_eq]
  exact ⟨utf8Bytes_injective, fun h => h ▸ rfl⟩

theorem nonEmpty_eq_some {text : Option String} {value : String} :
    nonEmpty text = some value ↔ text = some value ∧ value ≠ "" := by
  unfold nonEmpty
  rw [Option.filter_eq_some_iff]
  simp

/-- The static provider that was built accepts the configured tokens, and no others. -/
theorem static_accepts {spawn : SaToken.SaTokenVerifyConfig →
      Except String (String → Except SaToken.VerifyError Unit)} {config : ClientAuthConfig}
    {authenticator : Authenticator} (hbuild : build spawn config = .ok authenticator)
    (hmode : config.mode = .static) (token : Option String) :
    authenticator.authenticate token = .ok () ↔
      ∃ t, token = some t ∧ t ≠ "" ∧
        (config.staticToken = some t ∨ config.previousToken = some t) := by
  unfold build at hbuild
  rw [hmode] at hbuild
  simp only at hbuild
  cases hcurrent : nonEmpty config.staticToken with
  | none =>
    rw [hcurrent] at hbuild
    cases hbuild
  | some current =>
    rw [hcurrent] at hbuild
    cases hbuild
    obtain ⟨hstatic, hfull⟩ := nonEmpty_eq_some.mp hcurrent
    cases token with
    | none => simp [Authenticator.authenticate]
    | some presented =>
      have hfirst := ctEq_utf8Bytes presented current
      unfold Authenticator.authenticate
      simp only [hfirst, Option.some.injEq, hstatic]
      by_cases hsame : presented = current
      · subst hsame
        simp [hfull]
      · simp only [hsame, if_false, exists_eq_left', Ne.symm hsame, false_or]
        cases hprevious : nonEmpty config.previousToken with
        | none =>
          have habsent : ∀ t, t ≠ "" → config.previousToken ≠ some t := by
            intro t ht h
            rw [nonEmpty_eq_some.mpr ⟨h, ht⟩] at hprevious
            cases hprevious
          simp only [reduceCtorEq, false_iff, not_and]
          exact habsent presented
        | some previous =>
          obtain ⟨hprev, hprevFull⟩ := nonEmpty_eq_some.mp hprevious
          have hsecond := ctEq_utf8Bytes presented previous
          simp only [hsecond, hprev, Option.some.injEq]
          by_cases hsame' : presented = previous
          · subst hsame'
            simp [hprevFull]
          · simp [hsame', Ne.symm hsame']

/-! ## One session at the gate -/

/-- What a session does before its client is accepted: reading, counting a rejection, and
saying no. -/
def AtGate : Call → Prop
  | .readFrame _ | .authFailuresFetchAdd | .writeFrame (.protocolError _) => True
  | .writeFrame (.initError code _) => code = unauthenticated
  | _ => False

section

variable (lib : Lib) (shared : Shared) {authenticator : Authenticator} {input : Input}

/-- A session that is not admitted is one of three, none of which looks at the table. -/
theorem serve_unadmitted (h : admitted authenticator input = false) (shared' : Shared) :
    serve lib shared authenticator input = serve lib shared' authenticator input ∧
      (serve lib shared authenticator input).run.Only (On AtGate) := by
  cases input with
  | nil => exact ⟨rfl, trivial, fun _ => trivial⟩
  | cons frame input =>
    cases frame with
    | error err => exact ⟨rfl, trivial, fun _ => trivial⟩
    | ok request =>
      by_cases hinit : ∀ init, request ≠ .init init
      · have hprogram := fun shared => serve_refused lib shared authenticator hinit input
        refine ⟨(hprogram shared).trans (hprogram shared').symm, ?_⟩
        rw [hprogram]
        exact ⟨trivial, fun _ => ⟨trivial, fun _ => trivial⟩⟩
      · obtain ⟨init, rfl⟩ := not_forall_not.mp hinit
        cases hauth : authenticator.authenticate init.token with
        | ok _ => simp [admitted, hauth, Except.isOk, Except.toBool] at h
        | error reject =>
          have hprogram := fun shared => serve_rejected lib shared authenticator hauth input
          refine ⟨(hprogram shared).trans (hprogram shared').symm, ?_⟩
          rw [hprogram]
          exact ⟨trivial, fun _ => ⟨trivial, fun _ => ⟨reject_code hauth, fun _ => trivial⟩⟩⟩

def rejection (init : WireInit) (message : String) : List FxOp :=
  [⟨.readFrame (some (.ok (.init init))), none⟩, ⟨.authFailuresFetchAdd, none⟩,
    ⟨.writeFrame (.initError unauthenticated message), none⟩]

private theorem serve_rejection {init : WireInit} {reject : AuthReject}
    (h : authenticator.authenticate init.token = .error reject) (rest : Input)
    {log : List (Event Fx)} {q : Fab (Except String Unit)}
    (hs : Prog.Steps (serve lib shared authenticator (.ok (.init init) :: rest)).run log q) :
    log.map Event.op <+: rejection init reject.message ∧ ∀ r, q = .ret r →
      log.map Event.op = rejection init reject.message ∧
        responses log = [.initError unauthenticated reject.message] := by
  rw [serve_rejected lib shared authenticator h] at hs
  unfold rejection
  rw [← reject_code h]
  cases hs with
  | refl => exact ⟨List.nil_prefix, fun _ h => nomatch h⟩
  | act hs =>
    cases hs with
    | refl => exact ⟨⟨_, rfl⟩, fun _ h => nomatch h⟩
    | act hs =>
      cases hs with
      | refl => exact ⟨⟨_, rfl⟩, fun _ h => nomatch h⟩
      | act hs =>
        obtain ⟨rfl, rfl⟩ := Prog.steps_ret hs
        exact ⟨⟨[], rfl⟩, fun _ _ => ⟨rfl, rfl⟩⟩

end

/-! ## Counting rejections -/

/-- An event that counts a rejection. -/
def counts : Event Fx → Bool
  | ⟨⟨.authFailuresFetchAdd, _⟩, _⟩ => true
  | _ => false

section

variable (lib : Lib) (shared : Shared) {authenticator : Authenticator} {input : Input}

private theorem serveCalls_uncounted (self : BackendSet) (input : Input) :
    (serveCalls lib self input).run.Only (On fun call => call ≠ .authFailuresFetchAdd) := by
  have hanswer (self : BackendSet) (request : WireRequest) :
      (answer lib self request).Only (On fun call => call ≠ .authFailuresFetchAdd) := by
    cases request with
    | init init => trivial
    | drain => trivial
    | call call =>
      show (dispatch lib self call).Only _
      rw [dispatch_joined]
      refine ⟨nofun, fun joined => ?_⟩
      cases joined with
      | error err => trivial
      | ok _ =>
        refine Prog.Only.bind ((self.call_only lib call).mono fun op hop => ?_) fun _ => trivial
        obtain ⟨asked, budget⟩ := op
        rcases hop with ⟨capability, hcapability, -⟩ | hnow
        · rintro ⟨⟩
          cases hcapability
        · rintro ⟨⟩
          cases hnow
  induction input generalizing self with
  | nil => exact ⟨nofun, fun _ => trivial⟩
  | cons frame input ih =>
    cases frame with
    | error err => exact ⟨nofun, fun _ => trivial⟩
    | ok request =>
      rw [serveCalls_ok]
      refine ⟨nofun, fun _ => ?_⟩
      refine Prog.Only.bind (hanswer self request) fun r => ?_
      refine ⟨nofun, fun result => ?_⟩
      cases result with
      | ok _ => exact ih r.2
      | error err => trivial

private theorem serve_uncounted (h : rejected authenticator input = false) :
    (serve lib shared authenticator input).run.Only
      (On fun call => call ≠ .authFailuresFetchAdd) := by
  cases input with
  | nil => exact ⟨nofun, fun _ => trivial⟩
  | cons frame input =>
    cases frame with
    | error err => exact ⟨nofun, fun _ => trivial⟩
    | ok request =>
      by_cases hinit : ∀ init, request ≠ .init init
      · rw [serve_refused lib shared authenticator hinit]
        exact ⟨nofun, fun _ => ⟨nofun, fun _ => trivial⟩⟩
      · obtain ⟨init, rfl⟩ := not_forall_not.mp hinit
        cases hauth : authenticator.authenticate init.token with
        | error reject => simp [rejected, hauth, Except.isOk, Except.toBool] at h
        | ok _ =>
          rw [serve_authenticated lib shared authenticator hauth]
          refine ⟨nofun, fun _ => ?_⟩
          cases hresolve : resolve shared.table init with
          | error err =>
            rw [serveAuthenticated_refused lib shared hresolve]
            exact ⟨nofun, fun _ => trivial⟩
          | ok resolved =>
            rw [serveAuthenticated_acked lib shared hresolve]
            refine ⟨nofun, fun result => ?_⟩
            cases result with
            | ok _ => exact serveCalls_uncounted lib _ input
            | error err => trivial

/-- A session counts itself at most once, and when it is over, if and only if its client was
rejected. -/
theorem serve_counts {log : List (Event Fx)} {q : Fab (Except String Unit)}
    (hs : Prog.Steps (serve lib shared authenticator input).run log q) :
    log.countP counts ≤ 1 ∧ (log.countP counts = 1 → rejected authenticator input = true) ∧
      ∀ r, q = .ret r → rejected authenticator input = true → log.countP counts = 1 := by
  cases hrejected : rejected authenticator input with
  | false =>
    have hnone : log.countP counts = 0 := by
      refine List.countP_eq_zero.mpr fun e he hcounts => ?_
      obtain ⟨⟨call, budget⟩, answer⟩ := e
      have hcall := ((serve_uncounted lib shared hrejected).steps hs).1 _ he
      cases call <;> first | exact hcall rfl | cases hcounts
    exact ⟨by omega, by omega, fun _ _ h => nomatch h⟩
  | true =>
    obtain ⟨init, rest, reject, rfl, hauth⟩ := rejected_eq_true hrejected
    rw [serve_rejected lib shared authenticator hauth] at hs
    cases hs with
    | refl => exact ⟨Nat.zero_le 1, fun _ => rfl, fun _ h => nomatch h⟩
    | act hs =>
      cases hs with
      | refl => exact ⟨Nat.zero_le 1, fun _ => rfl, fun _ h => nomatch h⟩
      | act hs =>
        cases hs with
        | refl => exact ⟨Nat.le_refl 1, fun _ => rfl, fun _ h => nomatch h⟩
        | act hs =>
          obtain ⟨rfl, rfl⟩ := Prog.steps_ret hs
          exact ⟨Nat.le_refl 1, fun _ => rfl, fun _ _ _ => rfl⟩

end

section

variable {ι B W : Type} [DecidableEq ι] [Fintype ι]

theorem daemon_counts (breaker : CircuitBreaker B) (script : Script W) (t : Instant)
    (store : Store B) (w : W) (op : FxOp) (answer : Fx.Ans op) :
    (daemon breaker script t store w op).2.1.authFailures.toNat =
      (store.authFailures.toNat + if counts ⟨op, answer⟩ then 1 else 0) % 2 ^ 64 := by
  have hsmall : store.authFailures.toNat < 2 ^ 64 := store.authFailures.toNat_lt
  have hkept : store.authFailures.toNat = (store.authFailures.toNat + 0) % 2 ^ 64 := by
    rw [Nat.add_zero, Nat.mod_eq_of_lt hsmall]
  obtain ⟨call, budget⟩ := op
  cases call with
  | authFailuresFetchAdd => exact UInt64.toNat_add _ _
  | _ => exact hkept

private theorem exec_counts (breaker : CircuitBreaker B) (script : Script W)
    {st : Pool Fx ι (Store B) W (Except String Unit)} {start : Nat}
    (h : st.store.authFailures.toNat = (start + st.tally counts) % 2 ^ 64)
    (schedule : List (ι × Instant)) :
    (st.exec (daemon breaker script) schedule).store.authFailures.toNat =
      (start + (st.exec (daemon breaker script) schedule).tally counts) % 2 ^ 64 := by
  refine Pool.exec_induction (I := fun st : Pool Fx ι (Store B) W (Except String Unit) =>
    st.store.authFailures.toNat = (start + st.tally counts) % 2 ^ 64) h (fun st i t h => ?_) schedule
  cases hrest : (st.party i).rest with
  | ret r => rwa [Pool.step_ret hrest]
  | act op k =>
    have hmove := daemon_counts breaker script t st.store (st.party i).world op
      (daemon breaker script t st.store (st.party i).world op).1
    rw [Pool.step_store hrest, Pool.tally_step counts hrest, hmove, h]
    omega

def counted (st : Pool Fx ι (Store B) W (Except String Unit)) : Finset ι :=
  Finset.univ.filter fun i => (st.party i).log.countP counts = 1

omit [DecidableEq ι] in
theorem tally_counted {st : Pool Fx ι (Store B) W (Except String Unit)}
    (h : ∀ i, (st.party i).log.countP counts ≤ 1) : st.tally counts = (counted st).card := by
  unfold Pool.tally counted
  rw [Finset.card_filter]
  refine Finset.sum_congr rfl fun i _ => ?_
  have hi := h i
  by_cases hone : (st.party i).log.countP counts = 1
  · simp [hone]
  · rw [if_neg hone]
    omega

/-- Over every interleaving the counter has grown by the sessions that counted themselves:
only rejected ones, and every rejected one that is over. -/
theorem sessions_counted (lib : Lib) (shared : Shared) (breaker : CircuitBreaker B)
    (script : Script W) (sessions : ι → Session) (worlds : ι → W) (store : Store B)
    (schedule : List (ι × Instant)) :
    let st := (launch lib shared sessions worlds store).exec (daemon breaker script) schedule
    let rejections := Finset.univ.filter fun i =>
      rejected (sessions i).authenticator (sessions i).input = true
    counted st ⊆ rejections ∧
      (∀ i ∈ rejections, (∃ r, (st.party i).rest = .ret r) → i ∈ counted st) ∧
      (store.authFailures.toNat + (counted st).card < 2 ^ 64 →
        st.store.authFailures.toNat = store.authFailures.toNat + (counted st).card) := by
  intro st rejections
  have hcounts (i : ι) := serve_counts lib shared (launch_steps lib shared sessions
    (H := daemon breaker script) worlds store schedule i)
  refine ⟨fun i hi => ?_, fun i hi hover => ?_, fun hsmall => ?_⟩
  · refine Finset.mem_filter.mpr ⟨Finset.mem_univ i, ?_⟩
    exact (hcounts i).2.1 (Finset.mem_filter.mp hi).2
  · obtain ⟨r, hr⟩ := hover
    refine Finset.mem_filter.mpr ⟨Finset.mem_univ i, ?_⟩
    exact (hcounts i).2.2 r hr (Finset.mem_filter.mp hi).2
  · have hstart : (launch lib shared sessions worlds store).store.authFailures.toNat =
        (store.authFailures.toNat + (launch lib shared sessions worlds store).tally counts) %
          2 ^ 64 := by
      have hzero : (launch lib shared sessions worlds store).tally counts = 0 :=
        Finset.sum_eq_zero fun _ _ => rfl
      rw [hzero, Nat.add_zero, Nat.mod_eq_of_lt store.authFailures.toNat_lt]
      rfl
    have hend := exec_counts breaker script hstart schedule
    rw [tally_counted fun i => (hcounts i).1, Nat.mod_eq_of_lt hsmall] at hend
    exact hend

end

/-- The authentication gate. A session goes beyond it only with an accepted token, and before
that the table means nothing to it; a rejection is one `InitError`, fixed by the token alone,
and ends the session; a built static provider accepts exactly its non-empty tokens; and over
every interleaving the counter grows by the sessions that end rejected. -/
theorem authentication_gate (lib : Lib) (shared : Shared) (authenticator : Authenticator)
    (input : Input) :
    (∀ log q, Prog.Steps (serve lib shared authenticator input).run log q →
      (∃ e ∈ log, ¬ AtGate e.op.call) → admitted authenticator input = true) ∧
    (admitted authenticator input = false → ∀ table,
      serve lib { shared with table } authenticator input = serve lib shared authenticator input) ∧
    (∀ token reject, authenticator.authenticate token = .error reject →
      ∀ table init rest log q, init.token = token →
        Prog.Steps (serve lib { shared with table } authenticator (.ok (.init init) :: rest)).run
          log q →
        log.map Event.op <+: rejection init reject.message ∧ ∀ r, q = .ret r →
          log.map Event.op = rejection init reject.message ∧
            responses log = [.initError unauthenticated reject.message]) ∧
    (∀ spawn config, build spawn config = .ok authenticator → config.mode = .static → ∀ token,
      (authenticator.authenticate token = .ok () ↔ ∃ t, token = some t ∧ t ≠ "" ∧
        (config.staticToken = some t ∨ config.previousToken = some t))) ∧
    (∀ (ι B W : Type) [DecidableEq ι] [Fintype ι] (breaker : CircuitBreaker B) (script : Script W)
      (sessions : ι → Session) (worlds : ι → W) (store : Store B) (schedule : List (ι × Instant)),
      let st := (launch lib shared sessions worlds store).exec (daemon breaker script) schedule
      let rejections := Finset.univ.filter fun i =>
        rejected (sessions i).authenticator (sessions i).input = true
      counted st ⊆ rejections ∧
        (∀ i ∈ rejections, (∃ r, (st.party i).rest = .ret r) → i ∈ counted st) ∧
        (store.authFailures.toNat + (counted st).card < 2 ^ 64 →
          st.store.authFailures.toNat = store.authFailures.toNat + (counted st).card) ∧
        ((∀ i, ∃ r, (st.party i).rest = .ret r) →
          store.authFailures.toNat + rejections.card < 2 ^ 64 →
          st.store.authFailures.toNat = store.authFailures.toNat + rejections.card)) := by
  refine ⟨?_, ?_, ?_, ?_, ?_⟩
  · rintro log q hs ⟨e, he, hbeyond⟩
    by_contra hclosed
    have hgate := (serve_unadmitted lib shared (Bool.eq_false_of_not_eq_true hclosed) shared).2
    exact hbeyond ((hgate.steps hs).1 e he)
  · intro h table
    exact (serve_unadmitted lib { shared with table } h shared).1
  · rintro token reject hreject table init rest log q rfl hs
    exact serve_rejection lib { shared with table } hreject rest hs
  · intro spawn config hbuild hmode token
    exact static_accepts hbuild hmode token
  · intro ι B W _ _ breaker script sessions worlds store schedule st rejections
    obtain ⟨hsub, hover, hcount⟩ :=
      sessions_counted lib shared breaker script sessions worlds store schedule
    refine ⟨hsub, hover, hcount, fun hall hsmall => ?_⟩
    have hsame : counted st = rejections :=
      Finset.Subset.antisymm hsub fun i hi => hover i hi (hall i)
    rw [← hsame] at hsmall ⊢
    exact hcount hsmall

end Fabricd
