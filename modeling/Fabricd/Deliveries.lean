import Fabricd.Callwise
import Fabricd.Framework.Delivery

/-!
# What a session hands over

A capability that hands over what its calls ask for: each call has a plan, offers it item by
item up to a refusal, and its answer tells how far it came.
-/

namespace Fabricd

open Framework ClientAuth

/-- What the calls of a capability are to hand over, and what their answers tell of it. -/
structure Contract (α : Type) where
  plan : String → String → List α
  acts : String → Prop
  spares : String → Prop

/-- Without a binding there is nothing to hand over. -/
def Contract.idle {α : Type} : Contract α := ⟨fun _ _ => [], fun _ => True, fun _ => False⟩

section

variable {α : Type} (offer : Event Fx → Option (α × Bool))

/-- What the answer of a call tells, if `taken` says that all of its plan was taken. -/
def Contract.Tells (contract : Contract α) (action payload : String) (taken : Prop)
    (result : Except EgressError String) : Prop :=
  Framework.Tells (contract.plan action payload) (contract.acts action) (contract.spares action)
    taken result

/-- A call that has offered its plan in order, each item once and none after a refusal, and
whose answer, once it is written, tells of it. -/
structure Handover (contract : Contract α) (visit : Visit) : Prop where
  offered : Offered (contract.plan visit.call.action visit.call.payload) (offers offer visit.work)
  told : ∀ response, visit.response = some response → ∃ result, response = .reply result ∧
    contract.Tells visit.call.action visit.call.payload
      (offers offer visit.work = allTaken (contract.plan visit.call.action visit.call.payload)) result

/-- Every call keeps to the contract, from a state in `Ok` to one. -/
def Fulfils {σ : Type} (call : σ → String → String → Fab (Except EgressError String × σ))
    (contract : Contract α) (Ok : σ → Prop) : Prop :=
  ∀ s action payload, Ok s → (call s action payload).Meets (delivery offer)
    (fun left r => contract.Tells action payload (left = some []) r.1 ∧ Ok r.2)
    (some (contract.plan action payload))

variable {offer}

theorem offer_now {capability : Capability}
    (howner : ∀ e, e.op.call.capability ≠ some capability → offer e = none) (op : FxOp)
    (h : op.call = .now) (ans : Fx.Ans op) : offer ⟨op, ans⟩ = none :=
  howner _ (by simp [h, Call.capability])

theorem measured_meets {ε β γ Metric σ : Type} {M : Monitor Fx σ} {dispatch : Fab (Except ε β)}
    {build : Except ε β → Instant → Fab Metric} {finish : Except ε β → Metric → γ}
    {Q : σ → Except ε β → Prop} {R : σ → γ → Prop} {s : σ}
    (hnow : ∀ op : FxOp, op.call = .now → M.Overlooks op)
    (hbuild : ∀ result start, (build result start).Only (On (· = .now)))
    (hdispatch : dispatch.Meets M Q s)
    (hfinish : ∀ s result metric, Q s result → R s (finish result metric)) :
    (now >>= fun start => dispatch >>= fun result => build result start >>= fun metric =>
      .ret (finish result metric)).Meets M R s := by
  have hstart : now.Only (On (· = .now)) := Prog.Only.perform rfl
  apply Prog.Only.overlooked_bind (hstart.mono hnow)
  intro start
  refine hdispatch.bind fun s result h => ?_
  apply Prog.Only.overlooked_bind ((hbuild result start).mono hnow)
  intro metric
  exact hfinish s result metric h

/-! ## Whole sessions -/

section

variable {σ : Type} {capability : Capability} {contract : Contract α} {Ok : σ → Prop}
  {call : σ → String → String → Fab (Except EgressError String × σ)}

/-- The step lemma: a call that is made in a good state. -/
theorem Fulfils.handover (h : Fulfils offer call contract Ok) {s : σ} (hs : Ok s)
    (request : WireCall) {es : List (Event Fx)} {q : Fab (Except EgressError String × σ)}
    (hrun : Prog.Steps (call s request.action request.payload) es q) :
    Handover offer contract ⟨request, es, none⟩ ∧ ∀ r, q = .ret r →
      Handover offer contract ⟨request, es, some (.reply r.1)⟩ ∧ Ok r.2 := by
  obtain ⟨haccepts, hrest⟩ := (h s request.action request.payload hs).steps hrun
  obtain ⟨hoffered, hall⟩ := delivery_offered haccepts
  refine ⟨⟨hoffered, nofun⟩, ?_⟩
  rintro r rfl
  obtain ⟨htells, hok⟩ := hrest
  rw [hall] at htells
  refine ⟨⟨hoffered, ?_⟩, hok⟩
  rintro _ ⟨rfl⟩
  exact ⟨r.1, rfl, htells⟩

def Fulfils.track (h : Fulfils offer call contract Ok) (capability : Capability) : Track σ where
  capability := capability
  call := call
  Orderly _ visits := ∀ visit ∈ visits, Handover offer contract visit
  Rests s _ visits := Ok s ∧ ∀ visit ∈ visits, Handover offer contract visit
  orderly hrests := hrests.2
  append hrests _ := hrests
  step request hrests hs := by
    obtain ⟨hok, hvisits⟩ := hrests
    obtain ⟨hopen, hclosed⟩ := h.handover hok request hs
    refine ⟨List.forall_mem_cons.mpr ⟨hopen, hvisits⟩, fun r hr => ?_⟩
    obtain ⟨hdone, hnext⟩ := hclosed r hr
    exact ⟨hnext, List.forall_mem_cons.mpr ⟨hdone, hvisits⟩⟩

private theorem offers_requests
    (howner : ∀ e, e.op.call.capability ≠ some capability → offer e = none)
    (log : List (Event Fx)) : offers offer (requests capability log) = offers offer log := by
  unfold offers requests
  rw [List.filterMap_filter]
  congr 1
  funext e
  by_cases h : e.op.call.capability = some capability
  · simp [h]
  · simp [h, howner e h]

/-- The run lemma, over a whole session at any time: what is handed over is what the calls
hand over, in their order, and each of them keeps to the contract. -/
theorem serve_deliveries {lib : Lib} (port : Port lib capability call)
    (howner : ∀ e, e.op.call.capability ≠ some capability → offer e = none)
    (h : Fulfils offer call contract Ok) {shared : Shared} {authenticator : Authenticator}
    {input : Input} (hstart : Ok (port.get (wired shared authenticator input)))
    {log : List (Event Fx)} {q : Fab (Except String Unit)}
    (hs : Prog.Steps (serve lib shared authenticator input).run log q) :
    offers offer log =
        (visitsOf capability log).reverse.flatMap (fun visit => offers offer visit.work) ∧
      ∀ visit ∈ visitsOf capability log, Handover offer contract visit := by
  constructor
  · have hrequests : requests capability log = _ := serve_gathered port hs
    rw [← offers_requests howner, hrequests]
    unfold offers
    rw [List.filterMap_flatMap]
    congr 1
    funext visit
    exact offers_requests howner visit.work
  · exact (serve_track lib shared authenticator (h.track capability) port
      ⟨hstart, List.forall_mem_nil _⟩ hs).2

theorem offers_idle {log : List (Event Fx)} {visits : List Visit}
    (hlog : offers offer log = visits.reverse.flatMap fun visit => offers offer visit.work)
    (h : ∀ visit ∈ visits, Handover offer .idle visit) : offers offer log = [] := by
  rw [hlog]
  refine List.flatMap_eq_nil_iff.mpr fun visit hvisit => ?_
  have hitems := (h visit (List.mem_reverse.mp hvisit)).offered.items
  exact List.map_eq_nil_iff.mp (List.prefix_nil.mp hitems)

end

/-! ## Lanes -/

section

variable {Config Deps Backend : Type} {lane : Lane Config Deps Backend}
  {contract : Config → Contract α} {Fits : Config → Backend → Prop}

/-- The contract of a binding, if there is one. -/
def contractOf (contract : Config → Contract α) (slot : Option (Slot Config Deps Backend)) :
    Contract α :=
  slot.elim .idle fun s => contract s.config

/-- A slot is still on its config, and so is its backend. -/
def SlotFits (Fits : Config → Backend → Prop) (slot now : Option (Slot Config Deps Backend)) :
    Prop :=
  now.map Slot.config = slot.map Slot.config ∧
    ∀ s, now = some s → ∀ backend, s.backend = some (.ok backend) → Fits s.config backend

/-- One call of a slot, as its cell has it: a kept error, a run of the kept backend, or a
connect first. -/
theorem call_meets {γ : Type} {M : Monitor Fx γ}
    {R : γ → Except EgressError String → OnceLock Backend → Prop} {g : γ}
    {s : Slot Config Deps Backend} {action payload : String}
    (herror : ∀ err, s.backend = some (.error err) → R g (.error err) (some (.error err)))
    (hbackend : ∀ backend, s.backend = some (.ok backend) →
      (lane.run action payload backend).Meets M (fun g r => R g r.1 (some (.ok r.2))) g)
    (hconnect : s.backend = none → (lane.connect s).Meets M (fun g outcome =>
      (∀ err, outcome = .error err → R g (.error err) (some (.error err))) ∧
        ∀ backend, outcome = .ok backend →
          (lane.run action payload backend).Meets M (fun g r => R g r.1 (some (.ok r.2))) g) g) :
    (lane.call (some s) action payload).Meets M
      (fun g r => ∃ cell, r.2 = some { s with backend := cell } ∧ R g r.1 cell) g := by
  have hcell (g : γ) (outcome : Except EgressError Backend)
      (herror : ∀ err, outcome = .error err → R g (.error err) (some (.error err)))
      (hbackend : ∀ backend, outcome = .ok backend →
        (lane.run action payload backend).Meets M (fun g r => R g r.1 (some (.ok r.2))) g) :
      (lane.call (some { s with backend := some outcome }) action payload).Meets M
        (fun g r => ∃ cell, r.2 = some { s with backend := cell } ∧ R g r.1 cell) g := by
    cases outcome with
    | error err =>
      rw [lane.call_failed rfl]
      exact ⟨_, rfl, herror err rfl⟩
    | ok backend =>
      rw [lane.call_backend]
      exact (hbackend backend rfl).bind fun g r h => ⟨_, rfl, h⟩
  cases hopened : s.backend with
  | some outcome =>
    have hs : s = { s with backend := some outcome } := by rw [← hopened]
    rw [hs]
    refine hcell g outcome (fun err h => herror err ?_) fun backend h => hbackend backend ?_
    · rw [hopened, h]
    · rw [hopened, h]
  | none =>
    rw [lane.call_first hopened]
    exact (hconnect hopened).bind fun g outcome h => hcell g outcome h.1 h.2

theorem SlotFits.cell {slot now : Option (Slot Config Deps Backend)} (h : SlotFits Fits slot now)
    {s : Slot Config Deps Backend} (hnow : now = some s) {cell : OnceLock Backend}
    (hcell : ∀ backend, cell = some (.ok backend) → Fits s.config backend) :
    SlotFits Fits slot (some { s with backend := cell }) := by
  subst hnow
  refine ⟨h.1, ?_⟩
  rintro _ ⟨rfl⟩ backend hbackend
  exact hcell backend hbackend

/-- A lane keeps to the contract if its connects hand over nothing and its backends keep to it. -/
theorem lane_fulfils
    (hconnect : ∀ slot, (lane.connect slot).Sat (fun op => ∀ ans, offer ⟨op, ans⟩ = none)
      (fun r => ∀ backend, r = .ok backend → Fits slot.config backend))
    (hrun : ∀ config backend, Fits config backend → ∀ action payload,
      (lane.run action payload backend).Meets (delivery offer)
        (fun left r => (contract config).Tells action payload (left = some []) r.1 ∧ Fits config r.2)
        (some ((contract config).plan action payload)))
    (slot : Option (Slot Config Deps Backend)) :
    Fulfils offer lane.call (contractOf contract slot) (SlotFits Fits slot) := by
  intro now action payload hnow
  cases now with
  | none => exact ⟨.unsent _, hnow.1, nofun⟩
  | some s =>
    cases slot with
    | none => cases hnow.1
    | some slot =>
      have hsame : slot.config = s.config := (Option.some.inj hnow.1).symm
      have hcontract : contractOf contract (some slot) = contract s.config :=
        congrArg contract hsame
      rw [hcontract]
      let R (left : Option (List α)) (result : Except EgressError String)
          (cell : OnceLock Backend) : Prop :=
        (contract s.config).Tells action payload (left = some []) result ∧
          ∀ backend, cell = some (.ok backend) → Fits s.config backend
      have hran (backend : Backend) (hfit : Fits s.config backend) :
          (lane.run action payload backend).Meets (delivery offer)
            (fun left r => R left r.1 (some (.ok r.2)))
            (some ((contract s.config).plan action payload)) := by
        refine (hrun s.config backend hfit action payload).mono fun left r h => ⟨h.1, ?_⟩
        rintro _ ⟨rfl⟩
        exact h.2
      have hfailed (err : EgressError) :
          R (some ((contract s.config).plan action payload)) (.error err) (some (.error err)) :=
        ⟨.unsent err, nofun⟩
      have hcall : (lane.call (some s) action payload).Meets (delivery offer)
          (fun left r => ∃ cell, r.2 = some { s with backend := cell } ∧ R left r.1 cell)
          (some ((contract s.config).plan action payload)) := by
        refine call_meets (fun err _ => hfailed err)
          (fun backend h => hran backend (hnow.2 s rfl backend h)) fun _ => ?_
        refine (Prog.Sat.overlooked (M := delivery offer) ((hconnect s).mono
          (fun op hop => delivery_overlooks hop) fun _ h => h) _).mono ?_
        rintro _ outcome ⟨rfl, hgood⟩
        exact ⟨fun err _ => hfailed err, fun backend h => hran backend (hgood backend h)⟩
      refine hcall.mono ?_
      rintro left r ⟨cell, hslot, htells, hcell⟩
      rw [hslot]
      exact ⟨htells, hnow.cell rfl hcell⟩

/-- The run lemma of a lane, over a whole session at any time. -/
theorem lane_deliveries (lane : Lane Config Deps Backend) {lib : Lib}
    (port : Port lib lane.capability lane.call)
    (howner : ∀ e, e.op.call.capability ≠ some lane.capability → offer e = none)
    (hconnect : ∀ slot, (lane.connect slot).Sat (fun op => ∀ ans, offer ⟨op, ans⟩ = none)
      (fun r => ∀ backend, r = .ok backend → Fits slot.config backend))
    (hrun : ∀ config backend, Fits config backend → ∀ action payload,
      (lane.run action payload backend).Meets (delivery offer)
        (fun left r => (contract config).Tells action payload (left = some []) r.1 ∧ Fits config r.2)
        (some ((contract config).plan action payload)))
    {shared : Shared} {authenticator : Authenticator} {input : Input}
    (hfresh : ∀ s, port.get (wired shared authenticator input) = some s → s.backend = none)
    {log : List (Event Fx)} {q : Fab (Except String Unit)}
    (hs : Prog.Steps (serve lib shared authenticator input).run log q) :
    offers offer log =
        (visitsOf lane.capability log).reverse.flatMap (fun visit => offers offer visit.work) ∧
      (port.get (wired shared authenticator input) = none → offers offer log = []) ∧
      ∀ slot, port.get (wired shared authenticator input) = some slot →
        ∀ visit ∈ visitsOf lane.capability log, Handover offer (contract slot.config) visit := by
  have hstart : SlotFits Fits (port.get (wired shared authenticator input))
      (port.get (wired shared authenticator input)) := by
    refine ⟨rfl, fun s hslot backend hbackend => ?_⟩
    rw [hfresh s hslot] at hbackend
    cases hbackend
  obtain ⟨hlog, hvisits⟩ := serve_deliveries port howner (lane_fulfils hconnect hrun _) hstart hs
  refine ⟨hlog, fun hnone => ?_, fun slot hslot => ?_⟩
  · rw [hnone] at hvisits
    exact offers_idle hlog hvisits
  · rw [hslot] at hvisits
    exact hvisits

/-! ### Budgets -/

/-- What a slot has spent of its budget; nothing before it connects. -/
def spentOf (spent : Backend → Nat) (now : Option (Slot Config Deps Backend)) : Nat :=
  match now.bind Slot.backend with
  | some (.ok backend) => spent backend
  | _ => 0

/-- Calls that count what they hand over, and hand over nothing once the budget is spent. -/
def Budgeted (offer : Event Fx → Option (α × Bool)) (lane : Lane Config Deps Backend)
    (Fits : Config → Backend → Prop) (spent : Backend → Nat) (cap : Nat) (config : Config) : Prop :=
  ∀ backend, Fits config backend → ∀ action payload n, n ≤ spent backend →
    (lane.run action payload backend).Meets (tally offer cap)
      (fun n r => n ≤ spent r.2 ∧ Fits config r.2) n

/-- The step lemma of a budget. -/
theorem call_budgeted {spent : Backend → Nat} {cap : Nat} {slot : Slot Config Deps Backend}
    (hconnect : ∀ slot, (lane.connect slot).Sat (fun op => ∀ ans, offer ⟨op, ans⟩ = none)
      (fun r => ∀ backend, r = .ok backend → Fits slot.config backend))
    (hrun : Budgeted offer lane Fits spent cap slot.config)
    {now : Option (Slot Config Deps Backend)} (hnow : SlotFits Fits (some slot) now)
    {n : Nat} (hn : n ≤ spentOf spent now) (action payload : String) :
    (lane.call now action payload).Meets (tally offer cap)
      (fun n r => n ≤ spentOf spent r.2 ∧ SlotFits Fits (some slot) r.2) n := by
  cases now with
  | none => cases hnow.1
  | some s =>
    have hsame : slot.config = s.config := (Option.some.inj hnow.1).symm
    rw [hsame] at hrun
    let R (n : Nat) (_ : Except EgressError String) (cell : OnceLock Backend) : Prop :=
      n ≤ spentOf spent (some { s with backend := cell }) ∧
        ∀ backend, cell = some (.ok backend) → Fits s.config backend
    have hran (n : Nat) (backend : Backend) (hfit : Fits s.config backend) (hn : n ≤ spent backend) :
        (lane.run action payload backend).Meets (tally offer cap)
          (fun n r => R n r.1 (some (.ok r.2))) n := by
      refine (hrun backend hfit action payload n hn).mono fun n r h => ⟨h.1, ?_⟩
      rintro _ ⟨rfl⟩
      exact h.2
    have hspent {cell : OnceLock Backend} (h : s.backend = cell) :
        n ≤ spentOf spent (some { s with backend := cell }) := by
      subst h
      exact hn
    have hcall : (lane.call (some s) action payload).Meets (tally offer cap)
        (fun n r => ∃ cell, r.2 = some { s with backend := cell } ∧ R n r.1 cell) n := by
      refine call_meets (fun err h => ⟨hspent h, nofun⟩)
        (fun backend h => hran n backend (hnow.2 s rfl backend h) (hspent h)) fun hfresh => ?_
      have hnone : n = 0 := Nat.le_zero.mp (hspent hfresh)
      refine (Prog.Sat.overlooked (M := tally offer cap) ((hconnect s).mono
        (fun op hop => tally_overlooks cap hop) fun _ h => h) _).mono ?_
      rintro _ outcome ⟨rfl, hgood⟩
      refine ⟨fun err _ => ⟨?_, nofun⟩, fun backend h => hran _ backend (hgood backend h) ?_⟩
      · exact hnone.le
      · exact hnone.le.trans (Nat.zero_le _)
    refine hcall.mono ?_
    rintro n r ⟨cell, hslot, hleft, hcell⟩
    rw [hslot]
    exact ⟨hleft, hnow.cell rfl hcell⟩

def budgetTrack {spent : Backend → Nat} {cap : Nat} {slot : Slot Config Deps Backend}
    (howner : ∀ e, e.op.call.capability ≠ some lane.capability → offer e = none)
    (hconnect : ∀ slot, (lane.connect slot).Sat (fun op => ∀ ans, offer ⟨op, ans⟩ = none)
      (fun r => ∀ backend, r = .ok backend → Fits slot.config backend))
    (hrun : Budgeted offer lane Fits spent cap slot.config) :
    Track (Option (Slot Config Deps Backend)) where
  capability := lane.capability
  call := lane.call
  Orderly log _ := (offers offer log).length ≤ cap
  Rests now log _ := SlotFits Fits (some slot) now ∧ (offers offer log).length ≤ cap ∧
    (offers offer log).length ≤ spentOf spent now
  orderly h := h.2.1
  append {now log es visits} h hes := by
    have hnone : offers offer es = [] :=
      List.filterMap_eq_nil_iff.mpr fun e he => howner e (hes e he)
    rw [offers_append, hnone, List.append_nil]
    exact h
  step {now log es older q} request h hs := by
    obtain ⟨hnow, hcap, hspent⟩ := h
    have hcall := call_budgeted hconnect hrun hnow hspent request.action request.payload
    obtain ⟨haccepts, hrest⟩ := hcall.steps hs
    have hcapped := tally_capped hcap haccepts
    rw [tally_after] at hrest
    rw [offers_append, List.length_append]
    refine ⟨hcapped, ?_⟩
    rintro r rfl
    exact ⟨hrest.2, hcapped, hrest.1⟩

/-- The run lemma of a budget, over a whole session at any time. -/
theorem lane_budget (lane : Lane Config Deps Backend) {lib : Lib}
    (port : Port lib lane.capability lane.call) {spent : Backend → Nat} {cap : Nat}
    {slot : Slot Config Deps Backend}
    (howner : ∀ e, e.op.call.capability ≠ some lane.capability → offer e = none)
    (hconnect : ∀ slot, (lane.connect slot).Sat (fun op => ∀ ans, offer ⟨op, ans⟩ = none)
      (fun r => ∀ backend, r = .ok backend → Fits slot.config backend))
    (hrun : Budgeted offer lane Fits spent cap slot.config)
    {shared : Shared} {authenticator : Authenticator} {input : Input}
    (hslot : port.get (wired shared authenticator input) = some slot) (hfresh : slot.backend = none)
    {log : List (Event Fx)} {q : Fab (Except String Unit)}
    (hs : Prog.Steps (serve lib shared authenticator input).run log q) :
    (offers offer log).length ≤ cap := by
  refine (serve_track lib shared authenticator (budgetTrack howner hconnect hrun) port ?_ hs).2
  rw [hslot]
  refine ⟨⟨rfl, ?_⟩, Nat.zero_le _, Nat.zero_le _⟩
  rintro _ ⟨rfl⟩ backend hbackend
  rw [hfresh] at hbackend
  cases hbackend

end

end

end Fabricd
