import Fabricd.Framework.Interleave
import Fabricd.Serve

/-!
# The daemon

Any number of sessions over the state they share: the circuit breaker and the counter of
rejected clients. Everything else a session asks for is answered by its own script.
-/

namespace Fabricd

open Framework ClientAuth

/-- `runlet_wire::breaker::CircuitBreaker`, by its two methods at a time of the clock. -/
structure CircuitBreaker (B : Type) where
  allow : Instant → String → B → Bool × B
  record : Instant → String → Bool → B → B

/-- The shared state that changes. -/
structure Store (B : Type) where
  breaker : B
  authFailures : UInt64

/-- What answers one session's own requests: its frames, its tasks and its drivers. -/
abbrev Script (W : Type) := Instant → W → (op : FxOp) → op.call.Ans × W

/-- The daemon's answer to one request. -/
def daemon {B W : Type} (breaker : CircuitBreaker B) (script : Script W) :
    Handler Fx Instant (Store B) W
  | t, store, w, ⟨.breakerAllow target, _⟩ =>
    let (allowed, state) := breaker.allow t target store.breaker
    (allowed, { store with breaker := state }, w)
  | t, store, w, ⟨.breakerRecord target ok, _⟩ =>
    ((), { store with breaker := breaker.record t target ok store.breaker }, w)
  | _, store, w, ⟨.authFailuresFetchAdd, _⟩ =>
    ((), { store with authFailures := store.authFailures + 1 }, w)
  | t, store, w, ⟨.now, _⟩ => (t, store, w)
  | t, store, w, op => ((script t w op).1, store, (script t w op).2)

/-- One session: the provider of its listener and the frames its client sends. -/
structure Session where
  authenticator : Authenticator
  input : Input

section

variable {ι B W : Type} (lib : Lib) (shared : Shared) (sessions : ι → Session)

def Session.program (session : Session) : Fab (Except String Unit) :=
  (serve lib shared session.authenticator session.input).run

def launch (worlds : ι → W) (store : Store B) : Pool Fx ι (Store B) W (Except String Unit) where
  store := store
  party i := ⟨(sessions i).program lib shared, worlds i, []⟩

variable [DecidableEq ι]

/-- Whatever the schedule, each session has made a partial run of its own program. -/
theorem launch_steps {H : Handler Fx Instant (Store B) W} (worlds : ι → W) (store : Store B)
    (schedule : List (ι × Instant)) (i : ι) :
    Prog.Steps ((sessions i).program lib shared)
      (((launch lib shared sessions worlds store).exec H schedule).party i).log
      (((launch lib shared sessions worlds store).exec H schedule).party i).rest := by
  obtain ⟨es, hlog, hrun⟩ :=
    (launch lib shared sessions worlds store).exec_steps (H := H) i schedule
  rw [hlog]
  exact hrun

end

end Fabricd
