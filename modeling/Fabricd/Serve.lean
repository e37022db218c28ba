import Fabricd.BackendSet
import Fabricd.ClientAuth

/-!
# Serving a session

One session over the frames its client sends: `Init` first, then calls and drains
until the stream ends.
-/

namespace Fabricd

open Framework ClientAuth

/-- The daemon's shared, read-only state: the operator table, the statement-timeout
ceiling and whether a breaker guards `db` connects. -/
structure Shared where
  table : Table
  maxStatementTimeoutMs : UInt64
  breaker : Bool

/-- The frames a client sends, each as `read_frame` yields it; the end of the list is a
clean end of the stream. -/
abbrev Input := List (Except String WireRequest)

/-- `read_frame` on what is left of the input: the next frame and the frames after it. -/
def readFrame (input : Input) : FabE String (Option WireRequest × Input) := do
  let _ : Unit ← ExceptT.lift (ask (.readFrame input.head?))
  match input with
  | [] => return (none, [])
  | .ok request :: input => return (some request, input)
  | .error err :: _ => throw err

def writeFrame (response : WireResponse) : FabE String Unit :=
  ExceptT.mk (ask (.writeFrame response))

/-- Runs one call on a blocking thread; a task that never finished is a protocol error. -/
def dispatch (lib : Lib) (backends : BackendSet) (call : WireCall) :
    Fab (WireResponse × BackendSet) := do
  let joined : Except String Unit ← ask (.spawnBlocking call)
  match joined with
  | .ok _ =>
    let (result, backends) ← backends.call lib call
    return (.reply result, backends)
  | .error joinErr => return (.protocolError s!"backend task failed: {joinErr}", backends)

/-- The answer to one frame after the `Init`. -/
def answer (lib : Lib) (backends : BackendSet) : WireRequest → Fab (WireResponse × BackendSet)
  | .call call => dispatch lib backends call
  | .drain => return (.metrics backends.metrics, backends)
  | .init _ => return (.protocolError "Init already received for this session", backends)

/-- The loop after `Ack`: one response per frame until the stream ends. -/
def serveCalls (lib : Lib) (backends : BackendSet) : Input → FabE String Unit
  | [] => do
    let _ : Unit ← ExceptT.lift (ask (.readFrame none))
    return ()
  | .error err :: _ => do
    let _ : Unit ← ExceptT.lift (ask (.readFrame (some (.error err))))
    throw err
  | .ok request :: input => do
    let _ : Unit ← ExceptT.lift (ask (.readFrame (some (.ok request))))
    let (response, backends) ← ExceptT.lift (answer lib backends request)
    writeFrame response
    serveCalls lib backends input

/-- One turn of the loop, as a computation with its write and what follows it. -/
theorem serveCalls_ok (lib : Lib) (backends : BackendSet) (request : WireRequest) (input : Input) :
    (serveCalls lib backends (.ok request :: input)).run =
      (.act ⟨.readFrame (some (.ok request)), none⟩ fun _ =>
        answer lib backends request >>= fun r =>
          .act ⟨.writeFrame r.1, none⟩ fun (result : Except String Unit) =>
            match result with
            | .ok _ => (serveCalls lib r.2 input).run
            | .error err => .ret (.error err) : Fab (Except String Unit)) := by
  refine congrArg (Prog.act (S := Fx) _) (funext fun _ => ?_)
  refine (ExceptT.run_bind_lift (answer lib backends request) _).trans ?_
  refine congrArg (_ >>= ·) (funext fun r => ?_)
  refine congrArg (Prog.act (S := Fx) _) (funext fun result => ?_)
  cases result with
  | ok _ => rfl
  | error err => rfl

theorem dispatch_joined (lib : Lib) (backends : BackendSet) (call : WireCall) :
    dispatch lib backends call =
      (.act ⟨.spawnBlocking call, none⟩ fun (joined : Except String Unit) =>
        match joined with
        | .ok _ => backends.call lib call >>= fun r => .ret (.reply r.1, r.2)
        | .error err => .ret (.protocolError s!"backend task failed: {err}", backends) :
        Fab (WireResponse × BackendSet)) := by
  refine congrArg (Prog.act (S := Fx) _) (funext fun joined => ?_)
  cases joined with
  | ok _ => rfl
  | error err => rfl

/-- The session once its client is authenticated: resolve, clamp, wire, acknowledge. -/
def serveAuthenticated (lib : Lib) (shared : Shared) (init : WireInit) (input : Input) :
    FabE String Unit :=
  match resolve shared.table init with
  | .error err => writeFrame (.initError err.code err.message)
  | .ok resolved => do
    let resolved := resolved.clampDbStatementTimeout shared.maxStatementTimeoutMs
    let deps : AsyncDeps := { breaker := shared.breaker, timeout := fromMillis init.timeoutMs }
    let backends := BackendSet.fromConfigs resolved deps
    writeFrame .ack
    serveCalls lib backends input

def serve (lib : Lib) (shared : Shared) (authenticator : Authenticator) (input : Input) :
    FabE String Unit := do
  let (first, input) ← readFrame input
  match first with
  | none => return ()
  | some (.call _) | some .drain => writeFrame (.protocolError "expected Init as the first frame")
  | some (.init init) =>
    match authenticator.authenticate init.token with
    | .error reject => do
      let _ : Unit ← ExceptT.lift (ask .authFailuresFetchAdd)
      writeFrame (.initError reject.code reject.message)
    | .ok _ => serveAuthenticated lib shared init input

/-! ### The session as a computation -/

section

variable (lib : Lib) (shared : Shared) (authenticator : Authenticator)

theorem serve_refused {request : WireRequest} (h : ∀ init, request ≠ .init init) (input : Input) :
    (serve lib shared authenticator (.ok request :: input)).run =
      (.act ⟨.readFrame (some (.ok request)), none⟩ fun _ =>
        .act ⟨.writeFrame (.protocolError "expected Init as the first frame"), none⟩ fun result =>
          .ret result : Fab (Except String Unit)) := by
  refine congrArg (Prog.act (S := Fx) _) (funext fun _ => ?_)
  cases request with
  | init init => exact absurd rfl (h init)
  | call call => rfl
  | drain => rfl

theorem serve_rejected {init : WireInit} {reject : AuthReject}
    (h : authenticator.authenticate init.token = .error reject) (input : Input) :
    (serve lib shared authenticator (.ok (.init init) :: input)).run =
      (.act ⟨.readFrame (some (.ok (.init init))), none⟩ fun _ =>
        .act ⟨.authFailuresFetchAdd, none⟩ fun _ =>
          .act ⟨.writeFrame (.initError reject.code reject.message), none⟩ fun result =>
            .ret result : Fab (Except String Unit)) := by
  refine congrArg (Prog.act (S := Fx) _) (funext fun _ => ?_)
  show ExceptT.run (match authenticator.authenticate init.token with
    | .error reject => do
      let _ : Unit ← ExceptT.lift (ask .authFailuresFetchAdd)
      writeFrame (.initError reject.code reject.message)
    | .ok _ => serveAuthenticated lib shared init input) = _
  rw [h]
  rfl

theorem serve_authenticated {init : WireInit}
    (h : authenticator.authenticate init.token = .ok ()) (input : Input) :
    (serve lib shared authenticator (.ok (.init init) :: input)).run =
      (.act ⟨.readFrame (some (.ok (.init init))), none⟩ fun _ =>
        (serveAuthenticated lib shared init input).run : Fab (Except String Unit)) := by
  refine congrArg (Prog.act (S := Fx) _) (funext fun _ => ?_)
  show ExceptT.run (match authenticator.authenticate init.token with
    | .error reject => do
      let _ : Unit ← ExceptT.lift (ask .authFailuresFetchAdd)
      writeFrame (.initError reject.code reject.message)
    | .ok _ => serveAuthenticated lib shared init input) = _
  rw [h]

theorem serveAuthenticated_refused {init : WireInit} {err : ResolveError}
    (h : resolve shared.table init = .error err) (input : Input) :
    (serveAuthenticated lib shared init input).run =
      (.act ⟨.writeFrame (.initError err.code err.message), none⟩ fun result => .ret result :
        Fab (Except String Unit)) := by
  unfold serveAuthenticated
  simp only [h]
  rfl

theorem serveAuthenticated_acked {init : WireInit} {resolved : ResolvedConfigs}
    (h : resolve shared.table init = .ok resolved) (input : Input) :
    (serveAuthenticated lib shared init input).run =
      (.act ⟨.writeFrame .ack, none⟩ fun (result : Except String Unit) =>
        match result with
        | .ok _ => (serveCalls lib (.fromConfigs
            (resolved.clampDbStatementTimeout shared.maxStatementTimeoutMs)
            { breaker := shared.breaker, timeout := fromMillis init.timeoutMs }) input).run
        | .error err => .ret (.error err) : Fab (Except String Unit)) := by
  unfold serveAuthenticated
  simp only [h]
  refine congrArg (Prog.act (S := Fx) _) (funext fun result => ?_)
  cases result with
  | ok _ => rfl
  | error err => rfl

end

end Fabricd
