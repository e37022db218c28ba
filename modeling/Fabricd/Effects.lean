import Fabricd.Framework.Environment
import Fabricd.Wire
import Fabricd.Drivers.Postgres
import Fabricd.Drivers.Mongodb
import Fabricd.Drivers.Services

/-!
# The effects of a session

Everything a session does outside its own memory: frames, the clock, the daemon-wide
breaker and counter, and the drivers. A request made under `tokio::time::timeout`
carries the time it was given.
-/

namespace Fabricd

open Framework

/-- A point of the monotonic clock and a span of it, in nanoseconds. -/
abbrev Instant := Nat
abbrev Duration := Nat

/-- The largest `usize`. -/
def usizeMax : Nat := 2 ^ 64 - 1

inductive Call where
  | readFrame (got : Option (Except String WireRequest))
  | writeFrame (response : WireResponse)
  | authFailuresFetchAdd
  | spawnBlocking (call : WireCall)
  | now
  | breakerAllow (target : String)
  | breakerRecord (target : String) (ok : Bool)
  | db (op : Postgres.Op)
  | mongo (op : Mongodb.Op)
  | mail (op : Smtp.Op)
  | redis (op : Redis.Op)
  | amq (op : Broker.Op)
  | auth (op : Http.Op)

/-- A frame write fails with an I/O error; a blocking task that never ran answers with
its join error; the running total of the counter only feeds a log line. -/
def Call.Ans : Call → Type
  | readFrame _ => Unit
  | writeFrame _ => Except String Unit
  | authFailuresFetchAdd => Unit
  | spawnBlocking _ => Except String Unit
  | now => Instant
  | breakerAllow _ => Bool
  | breakerRecord _ _ => Unit
  | db op => op.Ans
  | mongo op => op.Ans
  | mail op => op.Ans
  | redis op => op.Ans
  | amq op => op.Ans
  | auth op => op.Ans

/-- Every request can be answered. -/
instance (call : Call) : Inhabited call.Ans := by
  cases call with
  | writeFrame response => exact ⟨Except.ok ()⟩
  | spawnBlocking call => exact ⟨Except.ok ()⟩
  | breakerAllow target => exact ⟨true⟩
  | now => exact ⟨(0 : Nat)⟩
  | db op => cases op <;> dsimp only [Call.Ans, Postgres.Op.Ans] <;> infer_instance
  | mongo op => cases op <;> dsimp only [Call.Ans, Mongodb.Op.Ans] <;> infer_instance
  | mail op => cases op <;> dsimp only [Call.Ans, Smtp.Op.Ans] <;> infer_instance
  | redis op => cases op <;> dsimp only [Call.Ans, Redis.Op.Ans] <;> infer_instance
  | amq op => cases op <;> dsimp only [Call.Ans, Broker.Op.Ans] <;> infer_instance
  | auth op => cases op <;> dsimp only [Call.Ans, Http.Op.Ans] <;> infer_instance
  | _ => exact ⟨()⟩

structure FxOp where
  call : Call
  budget : Option Duration

/-- The signature of a session's effects. -/
def Fx : Sig where
  Op := FxOp
  Ans := fun op => op.call.Ans

/-- A computation of the daemon. -/
abbrev Fab := Prog Fx

/-- A computation whose `?` returns early with an error. -/
abbrev FabE (ε α : Type) := ExceptT ε Fab α

/-- Make a request that nothing bounds in time. -/
def ask (call : Call) : Fab call.Ans := Prog.perform (S := Fx) ⟨call, none⟩

/-- Make a request under `timeout(budget, _)`. -/
def askWithin (budget : Duration) (call : Call) : Fab call.Ans :=
  Prog.perform (S := Fx) ⟨call, some budget⟩

/-- The value of a fallible pure step. -/
def ofExcept {ε α : Type} (r : Except ε α) : FabE ε α := ExceptT.mk (pure r)

/-- An answered request whose error is mapped into the caller's. -/
def orFail {ε ε' α : Type} (f : ε → ε') (p : Fab (Except ε α)) : FabE ε' α :=
  ExceptT.mk (do return (← p).mapError f)

/-- The largest `Instant`: a Linux `timespec` counts seconds in an `i64`. -/
def instantMax : Instant := (2 ^ 63 - 1) * 10 ^ 9 + 999999999

def checkedAdd (t : Instant) (d : Duration) : Option Instant :=
  if t + d ≤ instantMax then some (t + d) else none

def fromMillis (ms : UInt64) : Duration := ms.toNat * 10 ^ 6

def now : Fab Instant := ask .now

def elapsedMicros (start : Instant) : Fab Nat := do
  let stop ← now
  return (stop - start) / 1000

/-- The absolute deadline a backend anchors when it is built: now plus the budget, or
now when that overflows. -/
def anchorDeadline (timeout : Duration) : Fab Instant := do
  let t ← now
  match checkedAdd t timeout with
  | some deadline => return deadline
  | none => now

/-! ## Single requests -/

/-- A reading of the clock. -/
def tick (t : Instant) : Event Fx := ⟨⟨.now, none⟩, t⟩

section

variable {α : Type} {es : List (Event Fx)} {a : α}

theorem steps_askWithin {budget : Duration} {call : Call} {f : call.Ans → Fab α}
    (hs : Prog.Steps (askWithin budget call >>= f) es (.ret a)) :
    ∃ (answer : call.Ans) (rest : List (Event Fx)), es = ⟨⟨call, some budget⟩, answer⟩ :: rest ∧
      Prog.Steps (f answer) rest (.ret a) := by
  cases es with
  | nil =>
    have hstuck := Prog.steps_act_nil hs
    cases hstuck
  | cons e rest =>
    obtain ⟨answer, rfl, hrest⟩ := Prog.steps_act_cons hs
    exact ⟨answer, rest, rfl, hrest⟩

theorem steps_ask {call : Call} {f : call.Ans → Fab α}
    (hs : Prog.Steps (ask call >>= f) es (.ret a)) :
    ∃ (answer : call.Ans) (rest : List (Event Fx)), es = ⟨⟨call, none⟩, answer⟩ :: rest ∧
      Prog.Steps (f answer) rest (.ret a) := by
  cases es with
  | nil =>
    have hstuck := Prog.steps_act_nil hs
    cases hstuck
  | cons e rest =>
    obtain ⟨answer, rfl, hrest⟩ := Prog.steps_act_cons hs
    exact ⟨answer, rest, rfl, hrest⟩

theorem run_askWithin {W : Type} (E : Env Fx W) (w : W) (budget : Duration) (call : Call)
    (f : call.Ans → Fab α) :
    Prog.run E w (askWithin budget call >>= f) =
      ⟨⟨⟨call, some budget⟩, (E w ⟨call, some budget⟩).1⟩ ::
          (Prog.run E (E w ⟨call, some budget⟩).2 (f (E w ⟨call, some budget⟩).1)).events,
        (Prog.run E (E w ⟨call, some budget⟩).2 (f (E w ⟨call, some budget⟩).1)).value,
        (Prog.run E (E w ⟨call, some budget⟩).2 (f (E w ⟨call, some budget⟩).1)).world⟩ := rfl

theorem steps_now {f : Instant → Fab α} (hs : Prog.Steps (now >>= f) es (.ret a)) :
    ∃ (t : Instant) (rest : List (Event Fx)), es = tick t :: rest ∧
      Prog.Steps (f t) rest (.ret a) := by
  cases es with
  | nil =>
    have hstuck := Prog.steps_act_nil hs
    cases hstuck
  | cons e rest =>
    obtain ⟨t, rfl, hrest⟩ := Prog.steps_act_cons hs
    exact ⟨t, rest, rfl, hrest⟩

end

theorem mapError_ok {ε ε' α : Type} {f : ε → ε'} {r : Except ε α} {a : α}
    (h : r.mapError f = .ok a) : r = .ok a := by
  cases r with
  | error err => cases h
  | ok b =>
    cases h
    rfl

theorem steps_asked {call : Call} {es : List (Event Fx)} {answer : call.Ans}
    (hs : Prog.Steps (ask call) es (.ret answer)) : es = [⟨⟨call, none⟩, answer⟩] := by
  obtain ⟨answer', rest, rfl, hrest⟩ := steps_ask (f := fun answer => .ret answer) hs
  obtain ⟨rfl, hret⟩ := Prog.steps_ret hrest
  cases hret
  rfl

theorem steps_bindE {ε α β : Type} {x : FabE ε α} {f : α → FabE ε β} {es : List (Event Fx)}
    {r : Except ε β} (hs : Prog.Steps (x >>= f).run es (.ret r)) :
    (∃ err, Prog.Steps x.run es (.ret (.error err)) ∧ r = .error err) ∨
      ∃ es₁ es₂ a, es = es₁ ++ es₂ ∧ Prog.Steps x.run es₁ (.ret (.ok a)) ∧
        Prog.Steps (f a).run es₂ (.ret r) := by
  obtain ⟨es₁, es₂, a, rfl, hx, hf⟩ := Prog.steps_bind_ret hs
  cases a with
  | error err =>
    obtain ⟨rfl, hret⟩ := Prog.steps_ret hf
    cases hret
    rw [List.append_nil]
    exact .inl ⟨err, hx, rfl⟩
  | ok a => exact .inr ⟨es₁, es₂, a, rfl, hx, hf⟩

theorem steps_orFail_error {ε ε' α : Type} {into : ε → ε'} {p : Fab (Except ε α)}
    {es : List (Event Fx)} {err : ε'} (hs : Prog.Steps (orFail into p).run es (.ret (.error err))) :
    ∃ e, Prog.Steps p es (.ret (.error e)) ∧ err = into e := by
  obtain ⟨es₁, es₂, answer, rfl, hp, hmapped⟩ := Prog.steps_bind_ret hs
  obtain ⟨rfl, hret⟩ := Prog.steps_ret hmapped
  rw [List.append_nil]
  cases answer with
  | ok a => cases hret
  | error e =>
    cases hret
    exact ⟨e, hp, rfl⟩

theorem steps_orFail_ok {ε ε' α : Type} {into : ε → ε'} {p : Fab (Except ε α)}
    {es : List (Event Fx)} {a : α} (hs : Prog.Steps (orFail into p).run es (.ret (.ok a))) :
    Prog.Steps p es (.ret (.ok a)) := by
  obtain ⟨es₁, es₂, answer, rfl, hp, hmapped⟩ := Prog.steps_bind_ret hs
  obtain ⟨rfl, hret⟩ := Prog.steps_ret hmapped
  rw [List.append_nil]
  cases answer with
  | error e => cases hret
  | ok a =>
    cases hret
    exact hp

theorem yields_ofExcept {ε α : Type} {T : α → Prop} {r : Except ε α} (h : ∀ a, r = .ok a → T a) :
    Yields T (ofExcept r) := h

theorem fails_ofExcept {ε α : Type} {E : ε → Prop} {r : Except ε α}
    (h : ∀ e, r = .error e → E e) : Fails E (ofExcept r) := h

theorem fails_mapError {ε ε' α : Type} {E : ε' → Prop} {f : ε → ε'} (r : Except ε α)
    (h : ∀ e, E (f e)) : Fails E (ofExcept (r.mapError f)) := by
  cases r with
  | ok a => exact Fails.pure a
  | error e => exact Fails.throw (h e)

theorem fails_orFail {ε ε' α : Type} {E : ε' → Prop} {f : ε → ε'} (p : Fab (Except ε α))
    (h : ∀ e, E (f e)) : Fails E (orFail f p) :=
  Prog.Sat.after fun r => fails_mapError r h

/-! ## Footprints and timelessness -/

/-- A predicate on calls, as one on operations of any budget. -/
def On (P : Call → Prop) (op : FxOp) : Prop := P op.call

section

variable {P : Call → Prop} {ε ε' α β : Type}

theorem only_ask {call : Call} (h : P call) : Prog.Only (On P) (ask call) :=
  Prog.Only.perform h

theorem only_ofExcept (r : Except ε α) : OnlyE (On P) (ofExcept r) := Prog.Only.pure r

theorem only_orFail {f : ε → ε'} {p : Fab (Except ε α)} (h : Prog.Only (On P) p) :
    OnlyE (On P) (orFail f p) :=
  h.bind fun r => Prog.Only.pure (r.mapError f)

/-- Programs compared without their clock: readings are skipped and budgets ignored. -/
def untimed (P : Call → Prop) : Pairing Fx where
  skip op := op.call = .now
  pair op op' := op.call = op'.call ∧ P op.call
  ans h := congrArg Call.Ans h.1

theorem lockstep_only {p : Fab α} (h : Prog.Only (On P) p) : Lockstep (untimed P) Eq p p :=
  Lockstep.refl h fun _ hop => ⟨rfl, hop⟩

theorem lockstep_now {Q : α → β → Prop} {f : Instant → Fab α} {g : Instant → Fab β}
    (h : ∀ t t', Lockstep (untimed P) Q (f t) (g t')) :
    Lockstep (untimed P) Q (now >>= f) (now >>= g) :=
  .left rfl fun t => .right rfl fun t' => h t t'

theorem lockstep_askWithin {Q : α → β → Prop} {budget budget' : Duration} {call : Call}
    {f : call.Ans → Fab α} {g : call.Ans → Fab β} (hcall : P call)
    (h : ∀ a, Lockstep (untimed P) Q (f a) (g a)) :
    Lockstep (untimed P) Q (askWithin budget call >>= f) (askWithin budget' call >>= g) :=
  .both ⟨rfl, hcall⟩ h

theorem lockstep_elapsed {Q : α → β → Prop} {start start' : Instant} {f : Nat → Fab α}
    {g : Nat → Fab β} (h : ∀ d d', Lockstep (untimed P) Q (f d) (g d')) :
    Lockstep (untimed P) Q (elapsedMicros start >>= f) (elapsedMicros start' >>= g) := by
  unfold elapsedMicros
  rw [bind_assoc, bind_assoc]
  exact lockstep_now fun t t' => h _ _

theorem lockstep_anchor {Q : α → β → Prop} {timeout timeout' : Duration} {f : Instant → Fab α}
    {g : Instant → Fab β} (h : ∀ t t', Lockstep (untimed P) Q (f t) (g t')) :
    Lockstep (untimed P) Q (anchorDeadline timeout >>= f) (anchorDeadline timeout' >>= g) := by
  have hread : ∀ (b : Duration) (t : Instant),
      ∃ p : Fab Instant, (p = now ∨ ∃ d, p = pure d) ∧
        (match checkedAdd t b with
          | some deadline => pure deadline
          | none => now) = p := by
    intro b t
    cases checkedAdd t b with
    | none => exact ⟨now, .inl rfl, rfl⟩
    | some d => exact ⟨pure d, .inr ⟨d, rfl⟩, rfl⟩
  unfold anchorDeadline
  rw [bind_assoc, bind_assoc]
  refine lockstep_now fun t t' => ?_
  obtain ⟨p, hp, hpeq⟩ := hread timeout t
  obtain ⟨q, hq, hqeq⟩ := hread timeout' t'
  rw [hpeq, hqeq]
  rcases hp with rfl | ⟨d, rfl⟩
  · rcases hq with rfl | ⟨d', rfl⟩
    · exact lockstep_now h
    · exact .left rfl fun t => h t d'
  · rcases hq with rfl | ⟨d', rfl⟩
    · exact .right rfl fun t' => h d t'
    · exact h d d'

end

end Fabricd
