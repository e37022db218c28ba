import Fabricd.Chronicle
import Fabricd.Records
import Fabricd.LateCalls

/-!
# The ledger of a session

What a drain answers: for each capability the records of the calls that reached its
backend, in their order, and nothing of the calls that were refused before it.
-/

namespace Fabricd

open Framework ClientAuth

/-! ## Drains -/

section

variable (lib : Lib) (shared : Shared) (authenticator : Authenticator)

/-- Metrics written last are those of a set that `R` held of. -/
def Traced (R : BackendSet → List (Event Fx) → Prop) (log : List (Event Fx)) : Prop :=
  ∀ before metrics result, log = before ++ [written (.metrics metrics) result] →
    ∃ self, R self before ∧ metrics = self.metrics

private theorem traced_snoc {R : BackendSet → List (Event Fx) → Prop} {self : BackendSet}
    {log : List (Event Fx)} {e : Event Fx} (h : R self log) (he : Reports self e) :
    Traced R (log ++ [e]) := by
  intro before metrics result hlog
  obtain ⟨rfl, hlast⟩ := List.append_inj' hlog rfl
  exact ⟨self, h, he metrics result (List.singleton_inj.mp hlast)⟩

private theorem written_not_inner (response : WireResponse) (result : Except String Unit) :
    ¬ Inner (written response result).op.call := by
  rintro (hsome | hnow)
  · cases hsome
  · cases hnow

private theorem traced_inner {R : BackendSet → List (Event Fx) → Prop} {log es : List (Event Fx)}
    {call : WireCall} (hes : ∀ e ∈ es, Inner e.op.call) :
    Traced R (log ++ [spawned call] ++ es) := by
  intro before metrics result hlog
  have hwrite : written (.metrics metrics) result ∈ spawned call :: es := by
    rw [List.append_assoc, List.singleton_append] at hlog
    have hlast := congrArg List.getLast? hlog
    rw [List.getLast?_append, List.getLast?_append, List.getLast?_singleton] at hlast
    exact List.mem_of_getLast? (by simpa using hlast)
  rcases List.mem_cons.mp hwrite with hspawned | hmem
  · cases congrArg (fun e => e.op) hspawned
  · exact absurd (hes _ hmem) (written_not_inner _ result)

private theorem serve_drains {R : BackendSet → List (Event Fx) → Prop}
    (houter : ∀ {self log e}, R self log → Outer e → Reports self e → R self (log ++ [e]))
    (hcall : ∀ {self log} call, R self log → ∀ es r, Prog.Steps (self.call lib call) es (.ret r) →
      ∀ result, R r.2 (log ++ [spawned call] ++ es ++ [written (.reply r.1) result]))
    {input : Input} (h : R (wired shared authenticator input) []) {before after : List (Event Fx)}
    {metrics : BackendMetrics} {result : Except String Unit} {q : Fab (Except String Unit)}
    (hs : Prog.Steps (serve lib shared authenticator input).run
      (before ++ written (.metrics metrics) result :: after) q) :
    ∃ self, R self before ∧ metrics = self.metrics := by
  have hnil : Traced R [] := by
    intro before metrics result hlog
    simp at hlog
  have hmeets := serve_reports lib shared authenticator
    (R := fun self log => R self log ∧ Traced R log) (fun h => h.2)
    (fun h he hreports => ⟨houter h.1 he hreports, traced_snoc h.1 hreports⟩)
    (fun {self log} call h es q hs => ?_) input ⟨h, hnil⟩
  · rw [List.append_cons] at hs
    obtain ⟨rest, hcut, -⟩ := hs.cut
    exact (hmeets.run_history hnil hcut).1 before metrics result rfl
  · have hinner := ((self.call_inner lib call).steps hs).1
    refine ⟨traced_inner hinner, ?_⟩
    rintro r rfl result
    have hdone := hcall call h.1 es r hs result
    refine ⟨hdone, ?_⟩
    intro before metrics result' hlog
    obtain ⟨-, hlast⟩ := List.append_inj' hlog rfl
    cases congrArg (fun e => e.op) (List.singleton_inj.mp hlast)

/-- What a drain reports of one part of the set rests on the calls before it, and starts
what any later drain reports. -/
theorem serve_reported {σ Record : Type} (track : Track σ)
    (port : Port lib track.capability track.call) (records : σ → List Record)
    (report : BackendMetrics → List Record)
    (hreport : ∀ self : BackendSet, report self.metrics = records (port.get self))
    (hgrows : ∀ {part log visits} (call : WireCall), track.Rests part log visits → ∀ es r,
      Prog.Steps (track.call part call.action call.payload) es (.ret r) → records part <+: records r.2)
    {input : Input} (h : track.Rests (port.get (wired shared authenticator input)) [] [])
    {before after : List (Event Fx)} {metrics : BackendMetrics} {result : Except String Unit}
    {q : Fab (Except String Unit)} (hs : Prog.Steps (serve lib shared authenticator input).run
      (before ++ written (.metrics metrics) result :: after) q) :
    (∃ part, track.Rests part before (visitsOf track.capability before) ∧
        report metrics = records part) ∧
      ∀ middle metrics' result' rest, after = middle ++ written (.metrics metrics') result' :: rest →
        report metrics <+: report metrics' := by
  have hstart : Settles track (port.get (wired shared authenticator input)) [] := ⟨AllClosed.nil, h⟩
  have hown {self : BackendSet} {log : List (Event Fx)} (hself : Settles track (port.get self) log)
      (call : WireCall) {es : List (Event Fx)} {r : Except EgressError String × BackendSet}
      (hrun : Prog.Steps (self.call lib call) es (.ret r)) :
      records (port.get self) <+: records (port.get r.2) := by
    by_cases hname : call.name = track.capability.name
    · rw [port.call_own self call hname] at hrun
      obtain ⟨_, _, r', _, hpart, hrest⟩ := Prog.steps_bind_ret hrun
      obtain ⟨-, hr⟩ := Prog.steps_ret hrest
      cases hr
      rw [port.get_set]
      exact hgrows call hself.2 _ r' hpart
    · have hsame : port.get r.2 = port.get self := ((port.call_other self call hname).steps hrun).2
      rw [hsame]
  have hsettles {self : BackendSet} {log : List (Event Fx)} (call : WireCall)
      (hself : Settles track (port.get self) log) (es : List (Event Fx))
      (r : Except EgressError String × BackendSet)
      (hrun : Prog.Steps (self.call lib call) es (.ret r)) (result : Except String Unit) :
      Settles track (port.get r.2)
        (log ++ [spawned call] ++ es ++ [written (.reply r.1) result]) :=
    (port.settles_call hself call hrun).2 r rfl result
  constructor
  · obtain ⟨self, hself, rfl⟩ := serve_drains lib shared authenticator
      (R := fun self log => Settles track (port.get self) log) (fun hself he _ => hself.outer he)
      hsettles hstart hs
    exact ⟨port.get self, hself.2, hreport self⟩
  · rintro middle metrics' result' rest rfl
    -- every drain so far is a prefix of what the set holds now
    let Extends (self : BackendSet) (log : List (Event Fx)) : Prop :=
      ∀ metrics result, written (.metrics metrics) result ∈ log →
        report metrics <+: records (port.get self)
    have houter {self : BackendSet} {log : List (Event Fx)} {e : Event Fx} (hself : Extends self log)
        (he : Reports self e) : Extends self (log ++ [e]) := by
      intro metrics result hmem
      rcases List.mem_append.mp hmem with hlog | hlast
      · exact hself metrics result hlog
      · rw [he metrics result (List.mem_singleton.mp hlast).symm, hreport]
    have hcall {self : BackendSet} {log es : List (Event Fx)} {call : WireCall}
        {r : Except EgressError String × BackendSet} (hself : Extends self log)
        (hgrown : records (port.get self) <+: records (port.get r.2))
        (hinner : ∀ e ∈ es, Inner e.op.call) (result : Except String Unit) :
        Extends r.2 (log ++ [spawned call] ++ es ++ [written (.reply r.1) result]) := by
      intro metrics result' hmem
      simp only [List.mem_append, List.mem_singleton] at hmem
      rcases hmem with ((hlog | hspawned) | hes) | hreply
      · exact (hself metrics result' hlog).trans hgrown
      · cases congrArg (fun e => e.op) hspawned
      · exact absurd (hinner _ hes) (written_not_inner _ result')
      · cases congrArg (fun e => e.op) hreply
    have hs' : Prog.Steps (serve lib shared authenticator input).run
        ((before ++ written (.metrics metrics) result :: middle) ++
          written (.metrics metrics') result' :: rest) q := by
      simpa using hs
    obtain ⟨self, ⟨-, hprefix⟩, rfl⟩ := serve_drains lib shared authenticator
      (R := fun self log => Settles track (port.get self) log ∧ Extends self log)
      (fun hself he hreports => ⟨hself.1.outer he, houter hself.2 hreports⟩)
      (fun {self log} call hself es r hrun result => ⟨hsettles call hself.1 es r hrun result,
        hcall hself.2 (hown hself.1 call hrun) ((self.call_inner lib call).steps hrun).1 result⟩)
      ⟨hstart, fun _ _ hmem => (List.not_mem_nil hmem).elim⟩ hs'
    rw [hreport self]
    exact hprefix metrics result (by simp)

end

/-! ## Accounts -/

/-- The record made of an answered call. -/
def Visit.RecordedAs {Record : Type} (Rec : WireCall → Except EgressError String → Record → Prop)
    (visit : Visit) (record : Record) : Prop :=
  ∃ result, visit.response = some (.reply result) ∧ Rec visit.call result record

namespace Lane

variable {Config Deps Backend Record : Type} (lane : Lane Config Deps Backend)

/-- The attempt of the first call succeeded; the visits have the newest first. -/
def Connected (slot : Slot Config Deps Backend) (visits : List Visit) : Prop :=
  ∃ later first attempt use backend, visits = later ++ [first] ∧ first.work = attempt ++ use ∧
    Prog.Steps (lane.connect slot) attempt (.ret (.ok backend))

/-- The records of the calls that reached the backend, in their order: those that pass its
gate, which may count the ones before; none if there is no backend. -/
def Accounts (admits : Config → Nat → WireCall → Bool)
    (Rec : WireCall → Except EgressError String → Record → Prop) :
    Option (Slot Config Deps Backend) → List Visit → List Record → Prop
  | none, _, records => records = []
  | some slot, visits, records =>
    (lane.Connected slot visits → List.Forall₂ (Visit.RecordedAs Rec)
      (admitted (fun n visit => admits slot.config n visit.call) 0 visits.reverse) records) ∧
    (¬ lane.Connected slot visits → records = [])

/-- How a slot's backend keeps its records; `Of` is what stays of the config it was
connected with. -/
structure Books (slot : Slot Config Deps Backend) (records : Backend → List Record)
    (Of : Backend → Prop) (admits : Nat → WireCall → Bool)
    (Rec : WireCall → Except EgressError String → Record → Prop) : Prop where
  opens : (lane.connect slot).Sat (fun _ => True) fun r =>
    ∀ backend, r = .ok backend → records backend = [] ∧ Of backend
  runs : ∀ backend (call : WireCall), Of backend →
    (lane.run call.action call.payload backend).Sat (fun _ => True) fun r => Of r.2 ∧
      Entered (admits (records backend).length call) (Rec call r.1) (records backend) (records r.2)

variable {lane} {slot : Slot Config Deps Backend} {records : Backend → List Record}
  {Of : Backend → Prop} {admits : Nat → WireCall → Bool}
  {Rec : WireCall → Except EgressError String → Record → Prop}

private theorem not_connected_of_failed {cell : OnceLock Backend} {visits : List Visit}
    (h : lane.Chronicle slot cell visits) {err : EgressError} (hcell : cell = some (.error err)) :
    ¬ lane.Connected slot visits := by
  rintro ⟨later, first, attempt, use, backend, hvisits, hwork, hopened⟩
  induction h generalizing later with
  | unused => cases hcell
  | @failed visit err' attempt' answer =>
    cases later with
    | nil =>
      cases hvisits
      have hwhole : first.work ++ [] = attempt ++ use := by rw [List.append_nil, hwork]
      cases (attempt'.complete_unique hopened hwhole).2.2
    | cons second later => simp at hvisits
  | @refused visit older err' before idle answer ih =>
    cases later with
    | nil =>
      cases hvisits
      cases lane.chronicle_some before
    | cons second later => exact ih hcell later (List.cons.inj hvisits).2
  | connected _ _ _ _ => cases hcell
  | served _ _ _ _ => cases hcell

/-- The run lemma: the records are those of the calls so far. -/
theorem Books.kept (books : lane.Books slot records Of admits Rec) {cell : OnceLock Backend}
    {visits : List Visit} (h : lane.Chronicle slot cell visits) {backend : Backend}
    (hcell : cell = some (.ok backend)) :
    lane.Connected slot visits ∧ Of backend ∧ List.Forall₂ (Visit.RecordedAs Rec)
      (admitted (fun n visit => admits n visit.call) 0 visits.reverse) (records backend) := by
  have hstep {older : List Visit} {visit : Visit} {es : List (Event Fx)} {before : Backend}
      {r : Except EgressError String × Backend} (hof : Of before)
      (hkept : List.Forall₂ (Visit.RecordedAs Rec)
        (admitted (fun n visit => admits n visit.call) 0 older.reverse) (records before))
      (ran : Prog.Steps (lane.run visit.call.action visit.call.payload before) es (.ret r))
      (answer : visit.response = some (.reply r.1)) :
      Of r.2 ∧ List.Forall₂ (Visit.RecordedAs Rec)
        (admitted (fun n visit => admits n visit.call) 0 (visit :: older).reverse) (records r.2) := by
    obtain ⟨hof', hentered⟩ := ((books.runs before visit.call hof).steps ran).2
    rw [List.reverse_cons]
    refine ⟨hof', Entered.journal hkept (hentered.mono ?_)⟩
    intro record hrecord
    exact ⟨r.1, answer, hrecord⟩
  induction h generalizing backend with
  | unused => cases hcell
  | failed _ _ => cases hcell
  | refused _ _ _ _ => cases hcell
  | @connected visit attempt use fresh r opened ran work answer =>
    cases hcell
    obtain ⟨hnil, hof⟩ := (books.opens.steps opened).2 fresh rfl
    have hempty : List.Forall₂ (Visit.RecordedAs Rec)
        (admitted (fun n visit => admits n visit.call) 0 ([] : List Visit).reverse) (records fresh) := by
      rw [hnil]
      exact .nil
    exact ⟨⟨[], visit, attempt, use, fresh, rfl, work, opened⟩, hstep hof hempty ran answer⟩
  | @served visit older before r _ ran answer ih =>
    cases hcell
    obtain ⟨⟨later, first, attempt, use, fresh, rfl, hwork, hopened⟩, hof, hkept⟩ := ih rfl
    exact ⟨⟨visit :: later, first, attempt, use, fresh, rfl, hwork, hopened⟩,
      hstep hof hkept ran answer⟩

private theorem Books.grows (books : lane.Books slot records Of admits Rec)
    {cell : OnceLock Backend}
    {visits : List Visit} (h : lane.Chronicle slot cell visits) (call : WireCall)
    {es : List (Event Fx)} {r : Except EgressError String × Option (Slot Config Deps Backend)}
    (hs : Prog.Steps (lane.call (some { slot with backend := cell }) call.action call.payload) es
      (.ret r)) :
    BackendSet.slotMetrics (some { slot with backend := cell }) records <+:
      BackendSet.slotMetrics r.2 records := by
  cases cell with
  | none => exact List.nil_prefix
  | some outcome =>
    cases outcome with
    | error err => exact List.nil_prefix
    | ok backend =>
      rw [call_backend] at hs
      obtain ⟨_, _, used, _, hrun, hrest⟩ := Prog.steps_bind_ret hs
      obtain ⟨-, hr⟩ := Prog.steps_ret hrest
      cases hr
      have hof := (books.kept h rfl).2.1
      exact ((books.runs backend call hof).steps hrun).2.2.extends

private theorem Books.accounts {admits : Config → Nat → WireCall → Bool}
    {slot now : Option (Slot Config Deps Backend)} {Of : Slot Config Deps Backend → Backend → Prop}
    (books : ∀ s, slot = some s → lane.Books s records (Of s) (admits s.config) Rec)
    {visits : List Visit} (h : lane.Tells slot now visits) :
    lane.Accounts admits Rec slot visits (BackendSet.slotMetrics now records) := by
  cases slot with
  | none =>
    obtain ⟨rfl, -⟩ := h
    rfl
  | some slot =>
    obtain ⟨cell, rfl, hchronicle⟩ := h
    cases cell with
    | none =>
      cases lane.chronicle_none hchronicle
      refine ⟨?_, fun _ => rfl⟩
      rintro ⟨later, first, _, _, _, hvisits, -⟩
      simp at hvisits
    | some outcome =>
      cases outcome with
      | error err =>
        exact ⟨fun hconnected => absurd hconnected (not_connected_of_failed hchronicle rfl),
          fun _ => rfl⟩
      | ok backend =>
        obtain ⟨hconnected, -, hkept⟩ := (books slot rfl).kept hchronicle rfl
        exact ⟨fun _ => hkept, fun hnot => absurd hconnected hnot⟩

end Lane

/-- The account of a lane over a whole session. -/
theorem serve_accounts {Config Deps Backend Record : Type} {lane : Lane Config Deps Backend}
    (lib : Lib) (shared : Shared) (authenticator : Authenticator)
    (port : Port lib lane.capability lane.call) {records : Backend → List Record}
    (report : BackendMetrics → List Record) (admits : Config → Nat → WireCall → Bool)
    (hreport : ∀ self : BackendSet,
      report self.metrics = BackendSet.slotMetrics (port.get self) records)
    {Rec : WireCall → Except EgressError String → Record → Prop}
    {Of : Slot Config Deps Backend → Backend → Prop} {input : Input}
    (hfresh : ∀ s, port.get (wired shared authenticator input) = some s → s.backend = none)
    (books : ∀ s, port.get (wired shared authenticator input) = some s →
      lane.Books s records (Of s) (admits s.config) Rec)
    {before after : List (Event Fx)} {metrics : BackendMetrics} {result : Except String Unit}
    {q : Fab (Except String Unit)} (hs : Prog.Steps (serve lib shared authenticator input).run
      (before ++ written (.metrics metrics) result :: after) q) :
    lane.Accounts admits Rec (port.get (wired shared authenticator input))
        (visitsOf lane.capability before) (report metrics) ∧
      ∀ middle metrics' result' rest, after = middle ++ written (.metrics metrics') result' :: rest →
        report metrics <+: report metrics' := by
  generalize hslot : port.get (wired shared authenticator input) = slot at books hfresh ⊢
  have hgrows {part : Option (Slot Config Deps Backend)} {visits : List Visit} (call : WireCall)
      (hpart : lane.Tells slot part visits) (es : List (Event Fx))
      (r : Except EgressError String × Option (Slot Config Deps Backend))
      (hrun : Prog.Steps (lane.call part call.action call.payload) es (.ret r)) :
      BackendSet.slotMetrics part records <+: BackendSet.slotMetrics r.2 records := by
    cases slot with
    | none =>
      obtain ⟨rfl, -⟩ := hpart
      exact List.nil_prefix
    | some slot =>
      obtain ⟨cell, rfl, hchronicle⟩ := hpart
      exact (books slot rfl).grows hchronicle call hrun
  have hstart : lane.Tells slot (port.get (wired shared authenticator input)) [] := by
    rw [hslot]
    exact lane.tells_fresh hfresh
  obtain ⟨⟨part, hrests, hnow⟩, hextends⟩ := serve_reported lib shared authenticator
    (lane.chronicle slot) port (BackendSet.slotMetrics · records) report hreport
    (fun call hpart es r => hgrows call hpart es r) hstart hs
  refine ⟨?_, hextends⟩
  rw [hnow]
  exact Lane.Books.accounts books hrests

/-! ## Each capability -/

section

variable {lib : Lib}

private theorem db_books (hlib : ReadsBack lib) (slot : DbSlot)
    (hmax : slot.config.maxRows < 2 ^ 64) :
    (dbLane lib).Books slot Db.DbBackend.drainMetrics (fun backend => backend.maxRows < 2 ^ 64)
      (fun _ call => (parseDbPayload lib call.payload).isOk)
      (fun call => Db.Recorded lib call.action) where
  opens := by
    have hconnect (deps : Db.DbDeps) : Yields (fun backend => backend.metrics = [] ∧
        backend.maxRows = slot.config.maxRows) (Db.DbBackend.connect slot.config deps) := by
      apply Yields.after
      intro client
      apply Yields.after
      intro deadline
      exact Yields.pure ⟨rfl, rfl⟩
    refine Prog.Sat.bind (hconnect _) fun result hresult backend hbackend => ?_
    obtain ⟨hmetrics, hrows⟩ := hresult backend (mapError_ok hbackend)
    exact ⟨hmetrics, by rw [hrows]; exact hmax⟩
  runs backend call hof := by
    refine (BackendSet.runDb_entered call.action call.payload hlib backend).mono (fun _ h => h) ?_
    rintro r ⟨hrows, hentered⟩
    exact ⟨by rw [hrows]; exact hof, hentered.mono fun metric h => h hof⟩

private theorem mongo_books (slot : MongoSlot) :
    (mongoLane lib).Books slot Mongo.MongoBackend.drainMetrics (fun _ => True)
      (fun _ call => (parseMongoPayload lib call.payload).isOk)
      (fun call => Mongo.Recorded lib call.action) where
  opens := by
    apply Prog.Sat.after
    intro built
    cases built with
    | error err =>
      intro backend hbackend
      cases hbackend
    | ok client =>
      apply Prog.Sat.after
      intro deadline backend hbackend
      cases hbackend
      exact ⟨rfl, trivial⟩
  runs backend call _ :=
    (BackendSet.runMongo_entered call.action call.payload backend).mono (fun _ h => h)
      fun _ h => ⟨trivial, h⟩

private theorem mail_books (slot : MailSlot) :
    (mailLane lib).Books slot Mail.MailBackend.drainMetrics
      (fun backend => backend.maxSends = slot.config.maxSends)
      (fun sent _ => Mail.withinBudget slot.config.maxSends sent)
      (fun call => Mail.Recorded call.action) where
  opens := by
    apply Prog.Sat.after
    intro built
    cases built with
    | error err =>
      intro backend hbackend
      cases hbackend
    | ok transport =>
      intro backend hbackend
      cases hbackend
      exact ⟨rfl, rfl⟩
  runs backend call hof := by
    refine (BackendSet.runMail_entered call.action call.payload backend).mono (fun _ h => h) ?_
    rintro r ⟨hsends, hentered⟩
    rw [hof] at hsends hentered
    exact ⟨hsends, hentered⟩

private theorem redis_books (hlib : ReadsBack lib) (slot : RedisSlot) :
    (redisLane lib).Books slot Kv.RedisBackend.drainMetrics (fun _ => True)
      (fun _ _ => true) (fun call => Kv.Recorded lib call.action) where
  opens := by
    apply Prog.Sat.after
    intro result
    cases result with
    | error err =>
      intro backend hbackend
      cases hbackend
    | ok conn =>
      intro backend hbackend
      cases hbackend
      exact ⟨rfl, trivial⟩
  runs backend call _ :=
    (BackendSet.runRedis_entered call.action call.payload hlib backend).mono (fun _ h => h)
      fun _ h => ⟨trivial, h⟩

private theorem auth_books (slot : AuthSlot) :
    (authLane lib).Books slot Auth.AuthBackend.drainMetrics (fun _ => True)
      (fun _ call => (parseAuthToken lib call.payload).isOk)
      (fun call => Auth.Recorded call.action) where
  opens := by
    apply Prog.Sat.after
    intro built
    cases built with
    | error err =>
      intro backend hbackend
      cases hbackend
    | ok client =>
      intro backend hbackend
      cases hbackend
      exact ⟨rfl, trivial⟩
  runs backend call _ :=
    (BackendSet.runAuth_entered call.action call.payload backend).mono (fun _ h => h)
      fun _ h => ⟨trivial, h⟩

/-- The records of a producer, which has nothing to connect. -/
def AmqAccounts : Option Amq.AmqProducer → List Visit → List AmqMetric → Prop
  | none, _, records => records = []
  | some _, visits, records =>
    List.Forall₂ (Visit.RecordedAs fun call => Amq.Recorded call.action) visits.reverse records

def producerMetrics (producer : Option Amq.AmqProducer) : List AmqMetric :=
  match producer with
  | some producer => producer.drainMetrics
  | none => []

private theorem amqCall_entered (producer : Amq.AmqProducer) (call : WireCall)
    {es : List (Event Fx)}
    {r : Except EgressError String × Option Amq.AmqProducer}
    (hs : Prog.Steps (amqCall lib (some producer) call.action call.payload) es (.ret r)) :
    ∃ producer' metric, r.2 = some producer' ∧ Amq.Recorded call.action r.1 metric ∧
      producer'.drainMetrics = producer.drainMetrics ++ [metric] := by
  obtain ⟨_, _, called, _, hrun, hrest⟩ := Prog.steps_bind_ret hs
  obtain ⟨-, hr⟩ := Prog.steps_ret hrest
  cases hr
  obtain ⟨metric, hnow, haction, hagrees⟩ :=
    ((Amq.call_recorded producer call.action call.payload).steps hrun).2
  refine ⟨called.2, metric, rfl, ⟨haction, hagrees.mapError _⟩, ?_⟩
  rw [hnow]
  rfl

private theorem amqCall_grows {part : Option Amq.AmqProducer} (call : WireCall)
    {es : List (Event Fx)}
    {r : Except EgressError String × Option Amq.AmqProducer}
    (hs : Prog.Steps (amqCall lib part call.action call.payload) es (.ret r)) :
    producerMetrics part <+: producerMetrics r.2 := by
  cases part with
  | none => exact List.nil_prefix
  | some producer =>
    obtain ⟨producer', metric, hnow, -, hmetrics⟩ := amqCall_entered producer call hs
    rw [hnow]
    exact ⟨[metric], hmetrics.symm⟩

/-- The track that keeps the producer's account. -/
def amqLedger (lib : Lib) (producer : Option Amq.AmqProducer) :
    Track (Option Amq.AmqProducer) where
  capability := .amq
  call := amqCall lib
  Orderly _ _ := True
  Rests now _ visits :=
    now.isSome = producer.isSome ∧ AmqAccounts producer visits (producerMetrics now)
  orderly _ := trivial
  append h _ := h
  step {now log es older q} request h hs := by
    refine ⟨trivial, ?_⟩
    rintro r rfl
    obtain ⟨hsome, haccounts⟩ := h
    cases now with
    | none =>
      obtain ⟨-, hr⟩ := Prog.steps_ret hs
      cases hr
      cases producer with
      | none => exact ⟨rfl, rfl⟩
      | some producer => cases hsome
    | some now =>
      cases producer with
      | none => cases hsome
      | some producer =>
        obtain ⟨producer', metric, hnow, hrecorded, hmetrics⟩ := amqCall_entered now request hs
        rw [hnow]
        refine ⟨rfl, ?_⟩
        show List.Forall₂ _ (_ :: older).reverse producer'.drainMetrics
        rw [List.reverse_cons, hmetrics]
        exact List.rel_append haccounts (.cons ⟨r.1, rfl, hrecorded⟩ .nil)

end

/-! ## The ledger -/

/-- The account of every capability, over the calls a log has seen. -/
structure Ledger (lib : Lib) (set : BackendSet) (log : List (Event Fx))
    (metrics : BackendMetrics) : Prop where
  db : (dbLane lib).Accounts (fun _ _ call => (parseDbPayload lib call.payload).isOk)
    (fun call => Db.Recorded lib call.action) set.db (visitsOf .db log) metrics.db
  mongo : (mongoLane lib).Accounts (fun _ _ call => (parseMongoPayload lib call.payload).isOk)
    (fun call => Mongo.Recorded lib call.action) set.mongo (visitsOf .mongo log) metrics.mongo
  mail : (mailLane lib).Accounts (fun config sent _ => Mail.withinBudget config.maxSends sent)
    (fun call => Mail.Recorded call.action) set.mail (visitsOf .mail log) metrics.mail
  redis : (redisLane lib).Accounts (fun _ _ _ => true)
    (fun call => Kv.Recorded lib call.action) set.redis (visitsOf .redis log) metrics.redis
  auth : (authLane lib).Accounts (fun _ _ call => (parseAuthToken lib call.payload).isOk)
    (fun call => Auth.Recorded call.action) set.auth (visitsOf .auth log) metrics.auth
  amq : AmqAccounts set.amq (visitsOf .amq log) metrics.amq

/-- Every list starts with the one before. -/
structure BackendMetrics.Extend (metrics metrics' : BackendMetrics) : Prop where
  db : metrics.db <+: metrics'.db
  mongo : metrics.mongo <+: metrics'.mongo
  mail : metrics.mail <+: metrics'.mail
  redis : metrics.redis <+: metrics'.redis
  auth : metrics.auth <+: metrics'.auth
  amq : metrics.amq <+: metrics'.amq

/-- A drain answers with the ledger of the calls before it, and every later drain extends
its answer. -/
theorem drain_ledger (lib : Lib) (hlib : ReadsBack lib) (shared : Shared)
    (authenticator : Authenticator) {input : Input}
    (hrows : ∀ slot, (wired shared authenticator input).db = some slot →
      slot.config.maxRows < 2 ^ 64)
    {before after : List (Event Fx)} {metrics : BackendMetrics} {result : Except String Unit}
    {q : Fab (Except String Unit)} (hs : Prog.Steps (serve lib shared authenticator input).run
      (before ++ written (.metrics metrics) result :: after) q) :
    Ledger lib (wired shared authenticator input) before metrics ∧
      ∀ middle metrics' result' rest, after = middle ++ written (.metrics metrics') result' :: rest →
        metrics.Extend metrics' := by
  obtain ⟨configs, deps, hwired⟩ := wired_eq shared authenticator input
  rw [fromConfigs_eq] at hwired
  obtain ⟨hdb, hdb'⟩ := serve_accounts lib shared authenticator (dbPort lib)
    BackendMetrics.db (fun _ _ call => (parseDbPayload lib call.payload).isOk) (fun _ => rfl)
    (hwired ▸ slot_fresh) (fun slot hslot => db_books hlib slot (hrows slot hslot)) hs
  obtain ⟨hmongo, hmongo'⟩ := serve_accounts lib shared authenticator (mongoPort lib)
    BackendMetrics.mongo (fun _ _ call => (parseMongoPayload lib call.payload).isOk) (fun _ => rfl)
    (hwired ▸ slot_fresh) (fun slot _ => mongo_books slot) hs
  obtain ⟨hmail, hmail'⟩ := serve_accounts lib shared authenticator (mailPort lib)
    BackendMetrics.mail (fun config sent _ => Mail.withinBudget config.maxSends sent) (fun _ => rfl)
    (hwired ▸ slot_fresh) (fun slot _ => mail_books slot) hs
  obtain ⟨hredis, hredis'⟩ := serve_accounts lib shared authenticator (redisPort lib)
    BackendMetrics.redis (fun _ _ _ => true) (fun _ => rfl)
    (hwired ▸ slot_fresh) (fun slot _ => redis_books hlib slot) hs
  obtain ⟨hauth, hauth'⟩ := serve_accounts lib shared authenticator (authPort lib)
    BackendMetrics.auth (fun _ _ call => (parseAuthToken lib call.payload).isOk) (fun _ => rfl)
    (hwired ▸ slot_fresh) (fun slot _ => auth_books slot) hs
  have hproducer : (amqLedger lib (wired shared authenticator input).amq).Rests
      (wired shared authenticator input).amq [] [] := by
    rw [hwired]
    cases configs.amq with
    | none => exact ⟨rfl, rfl⟩
    | some config => exact ⟨rfl, .nil⟩
  obtain ⟨⟨now, ⟨-, hamq⟩, hreported⟩, hamq'⟩ := serve_reported lib shared authenticator
    (amqLedger lib (wired shared authenticator input).amq) (amqPort lib)
    producerMetrics BackendMetrics.amq (fun _ => rfl)
    (fun call hrests es r hrun => amqCall_grows call hrun) hproducer hs
  rw [← hreported] at hamq
  refine ⟨⟨hdb, hmongo, hmail, hredis, hauth, hamq⟩, ?_⟩
  intro middle metrics' result' rest hafter
  exact ⟨hdb' _ _ _ _ hafter, hmongo' _ _ _ _ hafter, hmail' _ _ _ _ hafter,
    hredis' _ _ _ _ hafter, hauth' _ _ _ _ hafter, hamq' _ _ _ _ hafter⟩

/-! ### A session that drains twice -/

/-- `serde_json` on the object `do_execute` formats. -/
def readAffected (text : String) : Except String Json :=
  if text.toList.take 17 = "\x7b\"rows_affected\":".toList then
    match Decimal.readDigits (text.toList.drop 17).dropLast with
    | some n => .ok (.object [("rows_affected", .number (.posInt (UInt64.ofNat n)))])
    | none => .error "expected value"
  else .error "expected value"

/-- A row of one order. -/
def orderRow : Postgres.PgRow := ⟨[(⟨"id", .int4⟩, some (Db.pgWire (.int4 7)))]⟩

def orderText : String :=
  "\x7b\"columns\":[\"id\"],\"rows\":[\x7b\"id\":7\x7d],\"row_count\":1,\"truncated\":false\x7d"

def nameText : String := "\x7b\"value\":\"ann\"\x7d"

def orderReply : Json := .object
  [("columns", .array [.string "id"]), ("rows", .array [.object [("id", .number (.posInt 7))]]),
    ("row_count", .number (.posInt 1)), ("truncated", .bool false)]

def writeReply : Json → Except String String
  | .object [(a, .array [.string b]), (c, .array [.object [(d, .number (.posInt n))]]),
      (e, .number (.posInt m)), (f, .bool false)] =>
    if [a, b, c, d, e, f] = ["columns", "id", "rows", "id", "row_count", "truncated"] ∧ n = 7 ∧ m = 1
    then .ok orderText
    else .error "not written here"
  | .object [(a, .string b)] =>
    if (a, b) = ("value", "ann") then .ok nameText else .error "not written here"
  | _ => .error "not written here"

def readReply (text : String) : Except String Json :=
  if text = orderText then .ok orderReply
  else if text = nameText then .ok (.object [("value", .string "ann")])
  else readAffected text

private theorem readReply_order : readReply orderText = .ok orderReply := if_pos rfl

private theorem readReply_name : readReply nameText = .ok (.object [("value", .string "ann")]) := by
  have hother : nameText ≠ orderText := by decide
  rw [readReply, if_neg hother, if_pos rfl]

def drainedLib : Lib :=
  { Db.pgLib with
    dbPayload := fun _ => .ok ⟨"SELECT id FROM orders", none⟩
    mongoEnvelope := fun _ => .ok ⟨some "orders", none⟩
    mongoPayload := fun _ => .ok ⟨none, none, none, none, none, none⟩
    keyPayload := fun _ => .ok ⟨some "name"⟩
    fromStrArray := fun _ => .ok []
    fromStr := readReply
    toStr := writeReply }

private theorem drainedLib_readsBack : ReadsBack drainedLib where
  written {value text} h := by
    have hwritten : writeReply value = .ok text := h
    unfold writeReply at hwritten
    split at hwritten
    · split at hwritten
      next hsame =>
        obtain ⟨hkeys, rfl, rfl⟩ := hsame
        simp only [List.cons.injEq, and_true] at hkeys
        obtain ⟨rfl, rfl, rfl, rfl, rfl, rfl⟩ := hkeys
        cases hwritten
        exact readReply_order
      next => cases hwritten
    · split at hwritten
      next hsame =>
        obtain ⟨rfl, rfl⟩ := Prod.mk.inj hsame
        cases hwritten
        exact readReply_name
      next => cases hwritten
    · cases hwritten
  affected n := by
    have hdigits : (toString n).toList = Nat.toDigits 10 n.toNat := Nat.toList_repr
    have htext : ("\x7b\"rows_affected\":" ++ toString n ++ "\x7d").toList =
        "\x7b\"rows_affected\":".toList ++ (Nat.toDigits 10 n.toNat ++ ['\x7d']) := by
      rw [String.toList_append, String.toList_append, hdigits, List.append_assoc]
      rfl
    have hlength : "\x7b\"rows_affected\":".toList.length = 17 := rfl
    -- neither of the other two texts starts so
    have hother (text : String) (h : text.toList.take 17 ≠ "\x7b\"rows_affected\":".toList) :
        "\x7b\"rows_affected\":" ++ toString n ++ "\x7d" ≠ text := by
      rintro rfl
      exact h (by rw [htext, List.take_left' hlength])
    have hread : drainedLib.fromStr = readReply := rfl
    rw [hread, readReply, if_neg (hother orderText (by decide)), if_neg (hother nameText (by decide)),
      readAffected,
      htext, List.take_left' hlength, List.drop_left' hlength, if_pos rfl, List.dropLast_concat,
      Decimal.readDigits_toDigits]
    simp only [UInt64.ofNat_toNat]

/-- Servers that answer at once: a row, an updated row, a value and three documents. -/
def drainedServers : Env Fx Unit
  | w, ⟨.now, _⟩ => ((0 : Nat), w)
  | w, ⟨.db (.connect _), _⟩ => (Except.ok 0, w)
  | w, ⟨.db (.batchExecute _ _), _⟩ => (Except.ok (), w)
  | w, ⟨.db (.timeout _ (.query _ _)), _⟩ => (some (.ok [orderRow]), w)
  | w, ⟨.db (.timeout _ (.execute _ _)), _⟩ => (some (.ok (1 : UInt64)), w)
  | w, ⟨.mongo (.build _), _⟩ => (Except.ok 0, w)
  | w, ⟨.mongo (.countDocuments _ _ _), _⟩ => (some (.ok (3 : UInt64)), w)
  | w, ⟨.redis (.getConnection _), _⟩ => (Except.ok 0, w)
  | w, ⟨.redis (.openUrl _), _⟩ | w, ⟨.redis (.setReadTimeout _ _), _⟩
  | w, ⟨.redis (.setWriteTimeout _ _), _⟩ | w, ⟨.redis (.lock _), _⟩ => (Except.ok (), w)
  | w, ⟨.redis (.get _ _), _⟩ => (Except.ok (some "ann"), w)
  | w, ⟨call, _⟩ => ((default : call.Ans), w)

def drainedShared : Shared where
  table name :=
    if name = "orders" then some ⟨none, .db ordersConfig⟩
    else if name = "docs" then
      some ⟨none, .mongo ⟨"mongo.test", 27017, none, none, "shop", "admin", false, none, 5000, 10⟩⟩
    else if name = "cache" then some ⟨none, .redis ⟨"redis://cache", 1000⟩⟩
    else none
  maxStatementTimeoutMs := 0
  breaker := false

def drainedInput : Input :=
  [.ok (.init { WireInit.empty with
      db := some "orders", mongo := some "docs", redis := some "cache", timeoutMs := 1000 }),
    .ok (.call ⟨"db", "query", ""⟩), .ok (.call ⟨"db", "execute", ""⟩),
    .ok (.call ⟨"redis", "get", ""⟩), .ok (.call ⟨"mongo", "count", ""⟩), .ok .drain,
    .ok (.call ⟨"redis", "get", ""⟩), .ok .drain]

def drainedSession : Outcome Fx Unit (Except String Unit) :=
  Prog.run drainedServers () (serve drainedLib drainedShared .none drainedInput).run

def firstDrain : BackendMetrics where
  db := [⟨"query", 0, 1, 0, false⟩, ⟨"execute", 0, 0, 1, false⟩]
  mongo := [⟨"count", 0, 0, 0, false⟩]
  mail := []
  redis := [⟨"get", 0, 3, true⟩]
  amq := []
  auth := []

def secondDrain : BackendMetrics :=
  { firstDrain with redis := [⟨"get", 0, 3, true⟩, ⟨"get", 0, 3, true⟩] }

set_option maxRecDepth 1000 in
theorem drainedSession_events : drainedSession.events =
    drainedSession.events.take 40 ++ written (.metrics firstDrain) (.ok ()) ::
      (drainedSession.events.drop 41).take 8 ++ written (.metrics secondDrain) (.ok ()) ::
        drainedSession.events.drop 50 := rfl

/-- The first drain answers with what the calls before it came to, and the second adds to it. -/
theorem drain_ledger_orders :
    Ledger drainedLib (wired drainedShared .none drainedInput) (drainedSession.events.take 40)
      firstDrain ∧ firstDrain.Extend secondDrain := by
  have hs : Prog.Steps (serve drainedLib drainedShared .none drainedInput).run drainedSession.events
      (.ret drainedSession.value) := Prog.run_steps _ _ _
  rw [drainedSession_events, List.append_assoc] at hs
  have hrows : ∀ slot, (wired drainedShared .none drainedInput).db = some slot →
      slot.config.maxRows < 2 ^ 64 := by
    rintro slot ⟨rfl⟩
    decide
  obtain ⟨hledger, hextend⟩ :=
    drain_ledger drainedLib drainedLib_readsBack drainedShared .none hrows hs
  exact ⟨hledger, hextend _ _ _ _ rfl⟩

end Fabricd
