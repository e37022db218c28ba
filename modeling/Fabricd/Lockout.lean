import Fabricd.Accounting

/-!
# Who the breaker locks out

The breaker counts the failures of a target in a row, whoever's they are. As long as no
target fails `threshold` times in a row nobody is refused, and no longer.
-/

namespace Fabricd

open Framework ClientAuth Db

/-! ## The breaker -/

/-- What a breaker promises: it counts the failures in a row on record at each target, lets
everyone through while they are fewer than the threshold, and nobody once they reach it. -/
structure BreakerContract {B : Type} (breaker : CircuitBreaker B) (threshold : Nat) where
  count : B → String → Nat
  count_allow : ∀ t key b target, count (breaker.allow t key b).2 target = count b target
  count_success : ∀ t key b target, count (breaker.record t key true b) target =
    if target = key then 0 else count b target
  count_failure : ∀ t key b target, count (breaker.record t key false b) target =
    if target = key then count b target + 1 else count b target
  admits : ∀ t key b, count b key < threshold → (breaker.allow t key b).1 = true
  refuses : ∀ t key b, threshold ≤ count b key + 1 →
    (breaker.allow t key (breaker.record t key false b)).1 = false

theorem daemon_breaker {B W : Type} (breaker : CircuitBreaker B) (script : Script W) (t : Instant)
    (store : Store B) (w : W) (call : Call) (budget : Option Duration) :
    (daemon breaker script t store w ⟨call, budget⟩).2.1.breaker =
      match call with
      | .breakerAllow key => (breaker.allow t key store.breaker).2
      | .breakerRecord key ok => breaker.record t key ok store.breaker
      | _ => store.breaker := by
  cases call <;> rfl

section

variable {ι B W : Type} [DecidableEq ι] {breaker : CircuitBreaker B} {threshold : Nat}
  (contract : BreakerContract breaker threshold) (script : Script W) (target : String)

/-- A turn that does not record the last failure the target can afford. -/
def Spares (st : Pool Fx ι (Store B) W (Except String Unit)) (i : ι) (_ : Instant) : Prop :=
  ∀ budget k, (st.party i).rest = .act ⟨.breakerRecord target false, budget⟩ k →
    contract.count st.store.breaker target + 1 < threshold

/-- A turn after which the breaker would let a session through. -/
def Passes (breaker : CircuitBreaker B) (script : Script W) (target : String)
    (st : Pool Fx ι (Store B) W (Except String Unit)) (i : ι) (t : Instant) : Prop :=
  (breaker.allow t target (st.step (daemon breaker script) i t).store.breaker).1 = true

/-- The target has failed fewer times in a row than it takes, and nobody was refused. -/
structure Lenient (st : Pool Fx ι (Store B) W (Except String Unit)) : Prop where
  count : contract.count st.store.breaker target < threshold
  admitted : ∀ j, Sighting.allow target false ∉ sightings (st.party j).log

variable {contract script target} {st : Pool Fx ι (Store B) W (Except String Unit)} {i : ι}
  {t : Instant}

private theorem count_step (h : contract.count st.store.breaker target < threshold)
    (hspares : Spares contract target st i t) :
    contract.count (st.step (daemon breaker script) i t).store.breaker target < threshold := by
  cases hrest : (st.party i).rest with
  | ret r => rwa [Pool.step_ret hrest]
  | act op k =>
    obtain ⟨call, budget⟩ := op
    rw [Pool.step_store hrest, daemon_breaker]
    cases call with
    | breakerAllow key => rwa [contract.count_allow]
    | breakerRecord key ok =>
      by_cases hkey : target = key
      · subst hkey
        cases ok with
        | true =>
          rw [contract.count_success, if_pos rfl]
          omega
        | false =>
          rw [contract.count_failure, if_pos rfl]
          exact hspares budget k hrest
      · cases ok with
        | true => rwa [contract.count_success, if_neg hkey]
        | false => rwa [contract.count_failure, if_neg hkey]
    | _ => exact h

/-- The step lemma. -/
theorem Lenient.step (h : Lenient contract target st) (hspares : Spares contract target st i t) :
    Lenient contract target (st.step (daemon breaker script) i t) := by
  refine ⟨count_step h.count hspares, fun j => ?_⟩
  by_cases hij : j = i
  · subst hij
    cases hrest : (st.party j).rest with
    | ret r =>
      rw [Pool.step_ret hrest]
      exact h.admitted j
    | act op k =>
      obtain ⟨call, budget⟩ := op
      rw [Pool.step_self hrest, sightings_append, List.mem_append, not_or]
      refine ⟨h.admitted j, ?_⟩
      cases call with
      | breakerAllow key =>
        intro hmem
        have hanswer : Sighting.allow target false =
            .allow key (breaker.allow t key st.store.breaker).1 := List.mem_singleton.mp hmem
        injection hanswer with hkey hrefused
        subst hkey
        rw [contract.admits t target _ h.count] at hrefused
        cases hrefused
      | breakerRecord key ok =>
        intro hmem
        cases List.mem_singleton.mp hmem
      | _ => exact List.not_mem_nil
  · rw [Pool.step_other hij]
    exact h.admitted j

private theorem spares_iff_passes (h : contract.count st.store.breaker target < threshold) :
    Spares contract target st i t ↔ Passes breaker script target st i t := by
  constructor
  · intro hspares
    exact contract.admits t target _ (count_step h hspares)
  · intro hpasses budget k hrest
    by_contra hlast
    have hrefused := contract.refuses t target st.store.breaker (Nat.le_of_not_lt hlast)
    unfold Passes at hpasses
    rw [Pool.step_store hrest, daemon_breaker, hrefused] at hpasses
    cases hpasses

end

/-! ## Where `DB_CIRCUIT_OPEN` comes from -/

def Refused (log : List (Event Fx)) : Prop := ∃ target, .allow target false ∈ sightings log

/-- An answer with the breaker's refusal. -/
def CircuitOpen (result : Except EgressError String) : Prop :=
  ∃ err, result = .error err ∧ err.code = dbCircuitOpenFault.code

theorem Refused.append {log : List (Event Fx)} (h : Refused log) (es : List (Event Fx)) :
    Refused (log ++ es) := by
  obtain ⟨target, hmem⟩ := h
  exact ⟨target, by rw [sightings_append]; exact List.mem_append_left _ hmem⟩

private theorem Refused.prepend {es : List (Event Fx)} (h : Refused es) (log : List (Event Fx)) :
    Refused (log ++ es) := by
  obtain ⟨target, hmem⟩ := h
  exact ⟨target, by rw [sightings_append]; exact List.mem_append_right _ hmem⟩

namespace Db

open Postgres

private theorem connectThroughBreaker_refused {config : DbConfig} {breaker : Bool}
    {es : List (Event Fx)}
    (hs : Prog.Steps (connectThroughBreaker config breaker) es (.ret (.error .circuitOpen))) :
    Refused es := by
  have hdriver {es : List (Event Fx)} {r : Except PgError ClientId}
      (hs : Prog.Steps (.ret (r.mapError .driver) : Fab (Except ConnectError ClientId)) es
        (.ret (.error .circuitOpen))) : False := by
    obtain ⟨-, hr⟩ := Prog.steps_ret hs
    cases r <;> cases hr
  cases breaker with
  | false =>
    obtain ⟨es₁, es₂, r, rfl, -, hend⟩ := Prog.steps_bind_ret hs
    exact (hdriver hend).elim
  | true =>
    have hguarded : connectThroughBreaker config true =
        .act ⟨.breakerAllow (breakerTarget config), none⟩ fun (allowed : Bool) =>
          if allowed then (connect config).run >>= fun result =>
            .act ⟨.breakerRecord (breakerTarget config) result.isOk, none⟩ fun _ =>
              .ret (result.mapError .driver)
          else .ret (.error .circuitOpen) := rfl
    rw [hguarded] at hs
    cases hs with
    | @act _ _ allowed es _ hs =>
      cases allowed with
      | false => exact ⟨_, List.mem_cons_self⟩
      | true =>
        obtain ⟨es₁, es₂, r, rfl, -, hend⟩ := Prog.steps_bind_ret hs
        cases hend with
        | act hend => exact (hdriver hend).elim

private theorem connectResource_refused {config : DbConfig} {deps : DbDeps} {es : List (Event Fx)}
    {err : EgressError}
    (hs : Prog.Steps (DbBackend.connectResource config deps) es (.ret (.error err)))
    (hcode : err.code = dbCircuitOpenFault.code) : Refused es := by
  obtain ⟨es₁, es₂, r, rfl, hconnect, hend⟩ := Prog.steps_bind_ret hs
  obtain ⟨rfl, hr⟩ := Prog.steps_ret hend
  rw [List.append_nil]
  cases r with
  | ok backend => cases hr
  | error cause =>
    cases hr
    cases cause with
    | driver err =>
      have hsame : "DB_CONNECTION" = "DB_CIRCUIT_OPEN" := hcode
      exact absurd hsame (by decide)
    | circuitOpen =>
      obtain ⟨cs, ds, r, rfl, hguarded, hrest⟩ := Prog.steps_bind_ret hconnect
      cases r with
      | error cause =>
        obtain ⟨rfl, hcause⟩ := Prog.steps_ret hrest
        cases hcause
        rw [List.append_nil]
        exact connectThroughBreaker_refused hguarded
      | ok client =>
        have hlift := congrArg (Prog.Steps · ds (.ret (.error ConnectError.circuitOpen)))
          (ExceptT.run_bind_lift (anchorDeadline deps.timeout) fun deadline =>
            (pure { client, deadline, maxRows := config.maxRows, metrics := [] } :
              FabE ConnectError DbBackend))
        obtain ⟨_, _, _, -, -, hend⟩ := Prog.steps_bind_ret (hlift.mp hrest)
        obtain ⟨-, hcause⟩ := Prog.steps_ret hend
        cases hcause

/-- A computation that fails for reasons of its own. -/
def Ordinary {α : Type} (x : FabE DbError α) : Prop :=
  x.run.Sat (fun _ => True) fun r => ∀ err, r = .error err → err.fault.code ≠ dbCircuitOpenFault.code

theorem Ordinary.bind {α β : Type} {x : FabE DbError α} {f : α → FabE DbError β} (h : Ordinary x)
    (hf : ∀ a, Ordinary (f a)) : Ordinary (x >>= f) := by
  refine Prog.Sat.bind h fun r hr => ?_
  cases r with
  | ok a => exact hf a
  | error err =>
    rintro _ ⟨rfl⟩
    exact hr err rfl

private theorem ordinary_fallback {ε α : Type} (r : Except ε α) (message : ε → String) :
    Ordinary (ofExcept (r.mapError fun err => .fallback (message err))) := by
  cases r with
  | ok a => exact fun _ h => nomatch h
  | error err =>
    rintro _ ⟨rfl⟩
    show "DB_ERROR" ≠ "DB_CIRCUIT_OPEN"
    decide

private theorem classify_ordinary (err : PgError) :
    (classify err).code ≠ dbCircuitOpenFault.code := by
  intro h
  have hcode := classify_code err
  rw [h] at hcode
  revert hcode
  decide

private theorem blockOnDb_ordinary (call : DbCall) (statement : Statement) :
    Ordinary (blockOnDb call statement) := by
  refine ⟨trivial, fun t => ⟨trivial, fun answer => ?_⟩⟩
  cases answer with
  | none =>
    rintro _ ⟨rfl⟩
    decide
  | some reply =>
    cases reply with
    | ok value => exact fun _ h => nomatch h
    | error err =>
      rintro _ ⟨rfl⟩
      exact classify_ordinary err

private theorem dispatch_ordinary (lib : Lib) (call : DbCall) (action query paramsJson : String)
    (maxRows : Nat) : Ordinary (dispatch lib call action query paramsJson maxRows) := by
  have hsimple (cmd : String) : Ordinary (doSimple call cmd) :=
    (blockOnDb_ordinary call _).bind fun _ => fun _ h => nomatch h
  unfold dispatch
  split
  · refine (ordinary_fallback _ _).bind fun params => ?_
    refine (blockOnDb_ordinary call _).bind fun rows => ?_
    exact ordinary_fallback _ _
  · refine (ordinary_fallback _ _).bind fun params => ?_
    exact (blockOnDb_ordinary call _).bind fun affected => fun _ h => nomatch h
  · exact hsimple "BEGIN"
  · exact hsimple "COMMIT"
  · exact hsimple "ROLLBACK"
  · rintro _ ⟨rfl⟩
    show "DB_ERROR" ≠ "DB_CIRCUIT_OPEN"
    decide

private theorem runDb_ordinary (lib : Lib) (action payload : String) (backend : DbBackend) :
    (BackendSet.runDb lib action payload backend).Sat (fun _ => True) fun r => ¬ CircuitOpen r.1 := by
  unfold BackendSet.runDb
  cases hpayload : parseDbPayload lib payload with
  | error err =>
    rintro ⟨_, ⟨rfl⟩, hcode⟩
    unfold parseDbPayload at hpayload
    cases hparsed : lib.dbPayload payload with
    | ok fields =>
      rw [hparsed] at hpayload
      cases hpayload
    | error message =>
      rw [hparsed] at hpayload
      cases hpayload
      revert hcode
      simp [EgressError.withOwner, EgressError.new, dbCircuitOpenFault]
  | ok args =>
    refine Prog.Sat.bind (U := fun r : Except DbError String × DbBackend => ∀ err, r.1 = .error err →
      err.fault.code ≠ dbCircuitOpenFault.code) ?_ fun r hr => ?_
    · refine Prog.Sat.bind (U := fun _ => True) ⟨trivial, fun _ => trivial⟩ fun start _ => ?_
      refine Prog.Sat.bind (dispatch_ordinary lib _ action _ _ _) fun result hresult => ?_
      refine Prog.Sat.bind (U := fun _ => True) ?_ fun metric _ => hresult
      exact ⟨trivial, fun _ => trivial⟩
    · rintro ⟨err, herr, hcode⟩
      obtain ⟨result, backend⟩ := r
      cases result with
      | ok _ => cases herr
      | error cause =>
        cases herr
        exact hr cause rfl hcode

end Db

/-! ## Refusals over a session -/

/-- The cell of a slot does not keep a refusal, unless there was one. -/
def Candid (slot : Option DbSlot) (log : List (Event Fx)) : Prop :=
  ∀ s err, slot = some s → s.backend = some (.error err) → err.code = dbCircuitOpenFault.code →
    Refused log

private theorem dbLane_call_candid {lib : Lib} {slot : Option DbSlot} {action payload : String}
    {log es : List (Event Fx)} {r : Except EgressError String × Option DbSlot}
    (h : Candid slot log) (hs : Prog.Steps ((dbLane lib).call slot action payload) es (.ret r)) :
    (CircuitOpen r.1 → Refused (log ++ es)) ∧ Candid r.2 (log ++ es) := by
  have hset {s : DbSlot} {outcome : Except EgressError DbBackend} {us : List (Event Fx)}
      (houtcome : ∀ err, outcome = .error err → err.code = dbCircuitOpenFault.code →
        Refused (log ++ es))
      (hs : Prog.Steps ((dbLane lib).call (some { s with backend := some outcome }) action payload)
        us (.ret r)) :
      (CircuitOpen r.1 → Refused (log ++ es)) ∧ Candid r.2 (log ++ es) := by
    cases outcome with
    | error err =>
      rw [(dbLane lib).call_failed rfl] at hs
      obtain ⟨-, hr⟩ := Prog.steps_ret hs
      cases hr
      refine ⟨?_, ?_⟩
      · rintro ⟨_, ⟨rfl⟩, hcode⟩
        exact houtcome err rfl hcode
      · rintro _ _ ⟨rfl⟩ ⟨rfl⟩ hcode
        exact houtcome err rfl hcode
    | ok backend =>
      have hrun : Prog.Steps (BackendSet.runDb lib action payload backend >>= fun r =>
          .ret (r.1, some { s with backend := some (.ok r.2) })) us (.ret r) := hs
      obtain ⟨us₁, us₂, answer, rfl, hanswer, hend⟩ := Prog.steps_bind_ret hrun
      obtain ⟨-, hr⟩ := Prog.steps_ret hend
      cases hr
      have hordinary := ((runDb_ordinary lib action payload backend).steps hanswer).2
      refine ⟨fun hopen => absurd hopen hordinary, ?_⟩
      rintro _ _ ⟨rfl⟩ hcell
      cases hcell
  cases slot with
  | none =>
    obtain ⟨-, hr⟩ := Prog.steps_ret hs
    cases hr
    refine ⟨?_, fun _ _ h => nomatch h⟩
    rintro ⟨_, ⟨rfl⟩, hcode⟩
    have hsame : (notConfigured "db").code = dbCircuitOpenFault.code := hcode
    exact absurd hsame (by decide)
  | some s =>
    obtain ⟨config, deps, cell⟩ := s
    cases cell with
    | some outcome =>
      refine @hset ⟨config, deps, none⟩ outcome es ?_ hs
      rintro err rfl hcode
      exact (h _ err rfl rfl hcode).append es
    | none =>
      rw [(dbLane lib).call_first rfl] at hs
      obtain ⟨cs, us, outcome, rfl, hconnect, hrest⟩ := Prog.steps_bind_ret hs
      refine hset ?_ hrest
      rintro err rfl hcode
      have hrefused : Refused cs := Db.connectResource_refused hconnect hcode
      exact (hrefused.append us).prepend log

/-- The track of refusals. -/
def refusalTrack (lib : Lib) : Track (Option DbSlot) where
  capability := .db
  call := (dbLane lib).call
  Orderly log visits := ∀ visit ∈ visits, ∀ result, visit.response = some (.reply result) →
    CircuitOpen result → Refused log
  Rests slot log visits := Candid slot log ∧ ∀ visit ∈ visits, ∀ result,
    visit.response = some (.reply result) → CircuitOpen result → Refused log
  orderly h := h.2
  append {slot log es visits} h _ :=
    ⟨fun s err hslot hcell hcode => (h.1 s err hslot hcell hcode).append es,
      fun visit hvisit result hresult hopen => (h.2 visit hvisit result hresult hopen).append es⟩
  step {slot log es older q} request h hs := by
    obtain ⟨hcandid, holder⟩ := h
    have hkept : ∀ visit ∈ older, ∀ result, visit.response = some (.reply result) →
        CircuitOpen result → Refused (log ++ es) :=
      fun visit hvisit result hresult hopen =>
        (holder visit hvisit result hresult hopen).append es
    refine ⟨List.forall_mem_cons.mpr ⟨fun _ h => (nomatch h), hkept⟩, ?_⟩
    rintro r rfl
    obtain ⟨hanswer, hcell⟩ := dbLane_call_candid hcandid hs
    refine ⟨hcell, List.forall_mem_cons.mpr ⟨?_, hkept⟩⟩
    rintro _ ⟨rfl⟩ hopen
    exact hanswer hopen

/-- A session answers a `db` call with `DB_CIRCUIT_OPEN` only if the breaker refused it. -/
theorem serve_refusals (lib : Lib) (shared : Shared) (authenticator : Authenticator)
    {input : Input} {log : List (Event Fx)} {q : Fab (Except String Unit)}
    (hs : Prog.Steps (serve lib shared authenticator input).run log q) :
    ∀ visit ∈ visitsOf .db log, ∀ result, visit.response = some (.reply result) →
      CircuitOpen result → Refused log := by
  refine (serve_track lib shared authenticator (refusalTrack lib) (dbPort lib) ?_ hs).2
  refine ⟨?_, fun _ h => nomatch h⟩
  intro s err hslot hcell
  obtain ⟨configs, deps, hwired⟩ := wired_eq shared authenticator input
  rw [fromConfigs_eq] at hwired
  have hfresh : configs.db.map (Slot.new · deps) = some s :=
    (congrArg BackendSet.db hwired).symm.trans hslot
  rw [slot_fresh s hfresh] at hcell
  cases hcell

/-! ## The daemon -/

/-- A target locks nobody out as long as it does not fail `threshold` times in a row. In a
run, no turn records a failure that makes as many if and only if the breaker would pass
sessions to the target after every turn; and then no session whose binding is on the target
has been refused or gets `DB_CIRCUIT_OPEN`, whatever its credentials are. -/
theorem lockout_iff {ι B W : Type} [DecidableEq ι] {breaker : CircuitBreaker B} {threshold : Nat}
    (contract : BreakerContract breaker threshold) (script : Script W) (lib : Lib)
    (shared : Shared) (sessions : ι → Session) (worlds : ι → W) (store : Store B)
    (target : String) (schedule : List (ι × Instant)) (hthreshold : 0 < threshold)
    (hstart : contract.count store.breaker target = 0) :
    let start := launch lib shared sessions worlds store
    let pool := start.exec (daemon breaker script) schedule
    (Pool.Along (daemon breaker script) (Spares contract target) start schedule ↔
      Pool.Along (daemon breaker script) (Passes breaker script target) start schedule) ∧
    (Pool.Along (daemon breaker script) (Spares contract target) start schedule →
      ∀ i, Sighting.allow target false ∉ sightings (pool.party i).log ∧
        ∀ slot, ((sessions i).wired shared).db = some slot → breakerTarget slot.config = target →
          ∀ visit ∈ visitsOf .db (pool.party i).log, ∀ result,
            visit.response = some (.reply result) → ¬ CircuitOpen result) := by
  intro start pool
  have hcount : contract.count start.store.breaker target < threshold := by
    show contract.count store.breaker target < threshold
    omega
  refine ⟨?_, fun hspares i => ?_⟩
  · refine Pool.along_congr (I := fun st => contract.count st.store.breaker target < threshold)
      hcount (fun st i t h => spares_iff_passes h) (fun st i t h hC => count_step h hC) schedule
  · have hlenient : Lenient contract target pool :=
      hspares.exec ⟨hcount, fun j => List.not_mem_nil⟩ fun st i t h hC => h.step hC
    refine ⟨hlenient.admitted i, fun slot hslot htarget visit hvisit result hresult hopen => ?_⟩
    have hs := launch_steps lib shared sessions (H := daemon breaker script) worlds store schedule i
    obtain ⟨key, hrefused⟩ := serve_refusals lib shared _ hs visit hvisit result hresult hopen
    have hguarded := (launch_account lib shared sessions breaker script worlds store schedule i).1.guarded
    rw [hslot] at hguarded
    obtain ⟨attempt, -, -, hunder, -⟩ := hguarded
    have hkey : key = target := by
      rcases hunder with hseen | ⟨-, hseen | hseen | ⟨ok, hseen⟩⟩ <;> rw [hseen] at hrefused
      · cases hrefused
      · cases List.mem_singleton.mp hrefused
        exact htarget
      · cases List.mem_singleton.mp hrefused
      · simp at hrefused
    rw [hkey] at hrefused
    exact hlenient.admitted i hrefused

/-! ## One server, two bindings -/

/-- A breaker that stays open for a cool-down after `threshold` failures in a row. -/
def tripping (threshold cooldown : Nat) : CircuitBreaker (String → Nat × Instant) where
  allow t key b := (decide ((b key).1 < threshold ∨ (b key).2 + cooldown ≤ t), b)
  record t key ok b := Function.update b key (if ok then (0, t) else ((b key).1 + 1, t))

def trippingContract (threshold cooldown : Nat) (h : 0 < cooldown) :
    BreakerContract (tripping threshold cooldown) threshold where
  count b target := (b target).1
  count_allow _ _ _ _ := rfl
  count_success t key b target := by
    by_cases hkey : target = key <;> simp [tripping, hkey]
  count_failure t key b target := by
    by_cases hkey : target = key <;> simp [tripping, hkey]
  admits t key b hcount := by simp [tripping, hcount]
  refuses t key b hcount := by
    simp only [tripping, Function.update_self, decide_eq_false_iff_not, not_or, not_lt, not_le]
    exact ⟨hcount, Nat.lt_add_of_pos_right h⟩

/-- A server that answers every connect: it accepts some and rejects the credentials of
the others. -/
def answering (accepts : Postgres.ConnectParams → Bool) : Script Unit
  | _, w, ⟨.db (.connect params), _⟩ =>
    (if accepts params then Except.ok 0
      else Except.error ⟨some "28P01", "password authentication failed"⟩, w)
  | _, w, ⟨.db (.batchExecute _ _), _⟩ => (Except.ok (), w)
  | _, w, _ => (default, w)

/-- Under no schedule is a session refused whose own binding the server accepts. -/
def Isolates {ι B : Type} [DecidableEq ι] (breaker : CircuitBreaker B) (store : Store B)
    (accepts : Postgres.ConnectParams → Bool) (lib : Lib) (shared : Shared)
    (sessions : ι → Session) : Prop :=
  ∀ (schedule : List (ι × Instant)) (i : ι) (slot : DbSlot),
    ((sessions i).wired shared).db = some slot → accepts (connectParams slot.config) = true →
    ∀ visit ∈ visitsOf .db (((launch lib shared sessions (fun _ => ()) store).exec
      (daemon breaker (answering accepts)) schedule).party i).log,
    ∀ result, visit.response = some (.reply result) → ¬ CircuitOpen result

/-- A binding of tenant `a` and one of tenant `b`, each on a host of its own choice. -/
def rotatedTable (hostA hostB : String) : Table := fun name =>
  let binding (host user : String) : ResourceBinding :=
    .db { host, port := 5432, user, password := "", database := "app", ssl := false,
          statementTimeoutMs := 5000, maxRows := 1000 }
  if name = "stale" then some ⟨some "a", binding hostA "stale"⟩
  else if name = "orders" then some ⟨some "b", binding hostB "orders"⟩
  else none

/-- Tenant `a` with credentials the server no longer accepts, tenant `b` with good ones. -/
def rotatedFleet (good : Bool) : Session where
  authenticator := .none
  input :=
    [.ok (.init { WireInit.empty with
        db := some (if good then "orders" else "stale")
        tenant := some (if good then "b" else "a") }),
      .ok (.call ⟨"db", "query", "{}"⟩)]

/-- Session `a` runs to its failure, then session `b` to its answer. -/
def rotatedSchedule : List (Bool × Instant) :=
  List.replicate 8 (false, 0) ++ List.replicate 6 (true, 1)

def acceptsOrders (params : Postgres.ConnectParams) : Bool := params.user = "orders"

/-- With a threshold of two the same schedule refuses nobody. -/
theorem lockout_iff_one_failure :
    Sighting.allow "pg:5432" false ∉ sightings
      (((launch Lib.rejecting ⟨rotatedTable "pg" "pg", 0, true⟩ rotatedFleet (fun _ => ())
        ⟨fun _ => (0, 0), 0⟩).exec (daemon (tripping 2 5000) (answering acceptsOrders))
          rotatedSchedule).party true).log := by
  have h := lockout_iff (trippingContract 2 5000 (by decide)) (answering acceptsOrders)
    Lib.rejecting ⟨rotatedTable "pg" "pg", 0, true⟩ rotatedFleet (fun _ => ()) ⟨fun _ => (0, 0), 0⟩ "pg:5432"
    rotatedSchedule (by decide) rfl
  refine (h.2 (h.1.mpr ?_) true).1
  exact ⟨rfl, rfl, rfl, rfl, rfl, rfl, rfl, rfl, rfl, rfl, rfl, rfl, rfl, rfl, trivial⟩

/-- With a threshold of one, tenant `a`'s stale password has tenant `b` refused. -/
theorem rejected_binding_locks_out :
    Nonempty (BreakerContract (tripping 1 5000) 1) ∧
      ¬ Isolates (tripping 1 5000) ⟨fun _ => (0, 0), 0⟩ acceptsOrders Lib.rejecting
        ⟨rotatedTable "pg" "pg", 0, true⟩ rotatedFleet := by
  refine ⟨⟨trippingContract 1 5000 (by decide)⟩, fun h => ?_⟩
  refine h rotatedSchedule true _ rfl rfl _ List.mem_cons_self _ rfl ?_
  exact ⟨_, rfl, rfl⟩

end Fabricd
