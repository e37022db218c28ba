import Fabricd.Framework.Late
import Fabricd.Accounting
import Fabricd.Backends.Commands

/-!
# The keyspaces the sessions share

The redis servers hold a state of their own that the sessions of the daemon, one connection
each, work on at the same time. A session waits for the answer to its command no longer than its
connection's timeouts: a command it has given up may still be executed later.
-/

namespace Fabricd

open Framework Kv

/-- The redis servers: what a server, by its url, answers a command at a time, and what is
left of the keyspaces. -/
structure RedisServers (D : Type) where
  exec : Instant → String → (op : Redis.Op) → D → op.Ans × D

/-- What one turn brings besides its time: the commands on their way that the servers execute
first, and the error, if the turn's own command is sent and then given up. -/
structure Beat where
  time : Instant
  landings : List Nat
  lost : Option Redis.RedisErr

def Redis.Op.failed (err : Redis.RedisErr) : (op : Redis.Op) → op.Ans
  | .openUrl _ | .getConnection _ | .setReadTimeout _ _ | .setWriteTimeout _ _ | .get _ _
  | .set _ _ _ | .setEx _ _ _ _ | .del _ _ | .incr _ _ _ | .expire _ _ _ => .error err
  | .lock _ => .error err.message

/-- The answer of a command that is given up. -/
def giveUp (err : Redis.RedisErr) : (op : FxOp) → Fx.Ans op
  | ⟨.redis op, _⟩ => op.failed err
  | ⟨call, _⟩ => (default : call.Ans)

def GaveUp (e : Event Fx) : Prop := ∃ err, e.ans = giveUp err e.op

def Session.redisUrl (shared : Shared) (session : Session) : String :=
  ((session.wired shared).redis.map fun slot => slot.config.url).getD ""

section

variable {ι D Store W : Type} [DecidableEq ι]

/-- The keyspaces as one object of the sessions, each on its own line. -/
def keyspace (servers : RedisServers D) (line : ι → String) : Object Fx ι Beat D where
  mine := isCommand
  serve i beat d op :=
    match op with
    | ⟨.redis op, _⟩ => servers.exec beat.time (line i) op d
    | ⟨call, _⟩ => ((default : call.Ans), d)

/-- A handler whose redis commands are executed by shared servers, at the url that the session's
connection is opened to, or are given up and left on their way there. -/
def onServers (servers : RedisServers D) (line : ι → String) (H : Handler Fx Instant Store W) :
    Handler Fx Beat (Store × Link Fx ι Beat D) (W × ι)
  | beat, (store, link), (w, i), op =>
    let link := (keyspace servers line).lands beat link beat.landings
    if isCommand op then
      let (answer, link) := (keyspace servers line).request i beat link op
        (beat.lost.map fun err => giveUp err op)
      (answer, (store, link), (w, i))
    else
      let (answer, store, w) := H beat.time store w op
      (answer, (store, link), (w, i))

def launchOn (lib : Lib) (shared : Shared) (sessions : ι → Session) (worlds : ι → W)
    (store : Store) : Pool Fx ι Store W (Except String Unit) where
  store := store
  party i := ⟨(sessions i).program lib shared, worlds i, []⟩

theorem launchOn_steps {T : Type} {lib : Lib} {shared : Shared} {sessions : ι → Session}
    (worlds : ι → W) (store : Store) {H : Handler Fx T Store W} (schedule : List (ι × T)) (i : ι) :
    Prog.Steps ((sessions i).program lib shared)
      (((launchOn lib shared sessions worlds store).exec H schedule).party i).log
      (((launchOn lib shared sessions worlds store).exec H schedule).party i).rest := by
  obtain ⟨es, hlog, hrun⟩ :=
    (launchOn lib shared sessions worlds store).exec_steps (H := H) i schedule
  rw [hlog]
  exact hrun

omit [DecidableEq ι] in
theorem onServers_links (servers : RedisServers D) (line : ι → String)
    (H : Handler Fx Instant Store W) :
    Pool.Links (onServers servers line H) (keyspace servers line) Prod.snd (fun i w => w.2 = i)
      GaveUp where
  mine := by
    rintro i beat ⟨store, link⟩ ⟨w, j⟩ op rfl hop
    refine ⟨beat.landings, beat.lost.map fun err => giveUp err op, fun answer hanswer => ?_, ?_⟩
    · obtain ⟨err, -, rfl⟩ := Option.map_eq_some_iff.mp hanswer
      exact ⟨err, rfl⟩
    · have hmine : isCommand op = true := hop
      simp [onServers, hmine]
  other := by
    rintro beat ⟨store, link⟩ ⟨w, j⟩ op hop
    have hother : isCommand op = false := hop
    simp only [onServers, hother]
    exact ⟨beat.landings, rfl⟩
  world := by
    rintro i beat ⟨store, link⟩ ⟨w, j⟩ op hworld
    cases hop : isCommand op <;> simp only [onServers, hop] <;> exact hworld

private theorem opened_on_line {lib : Lib} {shared : Shared} {session : Session}
    {log : List (Event Fx)}
    {q : Fab (Except String Unit)} (hs : Prog.Steps (session.program lib shared) log q)
    {e : Event Fx} (he : e ∈ log) {url : String} (hcall : e.op.call = .redis (.getConnection url)) :
    url = session.redisUrl shared := by
  have hlane := (serve_lanes lib shared session.authenticator hs).redis
  have hmine : e.op.call.capability = some .redis ∧ e.op.call.attempt = true := by
    rw [hcall]
    exact ⟨rfl, rfl⟩
  obtain ⟨slot, hslot, hconnects⟩ := hlane.connects he hmine.1 hmine.2
  have hurl : url = slot.config.url := by
    rw [hcall] at hconnects
    exact hconnects
  have hwired : (session.wired shared).redis = some slot := hslot
  simp [Session.redisUrl, hwired, hurl]

section

variable (lib : Lib) (shared : Shared) (servers : RedisServers D) (H : Handler Fx Instant Store W)
  (sessions : ι → Session) (worlds : ι → W) (store : Store) (d : D)

/-- The sessions on their lines to the servers. -/
def linked : Pool Fx ι (Store × Link Fx ι Beat D) (W × ι) (Except String Unit) :=
  launchOn lib shared sessions (fun i => (worlds i, i)) (store, .fresh d)

/-- The sessions after a schedule. -/
def afterBeats (schedule : List (ι × Beat)) :
    Pool Fx ι (Store × Link Fx ι Beat D) (W × ι) (Except String Unit) :=
  (linked lib shared sessions worlds store d).exec
    (onServers servers (fun i => (sessions i).redisUrl shared) H) schedule

/-- The commands of all sessions over a schedule, in the order of their turns. -/
def commandHistory (schedule : List (ι × Beat)) : List (Moment Fx ι Beat) :=
  ((linked lib shared sessions worlds store d).trace
    (onServers servers (fun i => (sessions i).redisUrl shared) H) schedule).filter
      fun m => isCommand m.event.op

theorem history_linked (schedule : List (ι × Beat)) : ∃ lost,
    (keyspace servers fun i => (sessions i).redisUrl shared).Linked GaveUp d
      (commandHistory lib shared servers H sessions worlds store d schedule) lost
      (afterBeats lib shared servers H sessions worlds store d schedule).store.2 := by
  have hworld (i : ι) : ((linked lib shared sessions worlds store d).party i).world.2 = i := rfl
  obtain ⟨lost, hlinked, -⟩ := (onServers_links servers (fun i => (sessions i).redisUrl shared) H).exec
    hworld Object.linked_fresh schedule
  exact ⟨_, hlinked⟩

theorem history_events (schedule : List (ι × Beat)) (i : ι) :
    Pool.eventsOf i (commandHistory lib shared servers H sessions worlds store d schedule) =
      commands ((afterBeats lib shared servers H sessions worlds store d schedule).party i).log := by
  have hlog : ((afterBeats lib shared servers H sessions worlds store d schedule).party i).log =
      Pool.eventsOf i ((linked lib shared sessions worlds store d).trace
        (onServers servers (fun i => (sessions i).redisUrl shared) H) schedule) :=
    (Pool.trace_log schedule).trans (List.nil_append _)
  rw [hlog]
  simp only [commandHistory, Pool.eventsOf, commands, List.filter_map, List.filter_filter,
    Function.comp_def]
  congr 2
  funext m
  exact Bool.and_comm _ _

/-- Linearizability. Whatever the schedule: the executions of commands, in their order, are a
sequential execution of the servers from the first state to the last. Those of commands that
were waited for are the commands of all sessions in the order of their turns, with the answers
that were given, but for commands that were given up; of these each is executed at most once,
late. The commands of a session are those of its calls, in their order, on the server of its
binding; each call sends none, and gets no reply but an error, or the one its action and payload
read as, and gets the reply that the answer decides. Later turns only add commands and executions
at the end, so the order is that of real time, and a command is executed after it was sent. -/
theorem redis_linearizable (schedule : List (ι × Beat)) :
    let line i := (sessions i).redisUrl shared
    let st := afterBeats lib shared servers H sessions worlds store d schedule
    let history := commandHistory lib shared servers H sessions worlds store d schedule
    (∃ lost, (keyspace servers line).Linked GaveUp d history lost st.store.2) ∧
      (∀ i, Pool.eventsOf i history =
        (visitsOf .redis (st.party i).log).reverse.flatMap fun visit => commands visit.work) ∧
      (∀ i, ∀ visit ∈ visitsOf .redis (st.party i).log, Atomic lib visit) ∧
      (∀ i, ∀ e ∈ (st.party i).log, ∀ url,
        e.op.call = .redis (.getConnection url) → url = line i) ∧
      ∀ later,
        history <+: commandHistory lib shared servers H sessions worlds store d (schedule ++ later) ∧
          st.store.2.done <+:
            (afterBeats lib shared servers H sessions worlds store d (schedule ++ later)).store.2.done := by
  intro line st history
  have hsteps (i : ι) : Prog.Steps ((sessions i).program lib shared) (st.party i).log
      (st.party i).rest := launchOn_steps _ _ schedule i
  refine ⟨history_linked .., fun i => ?_, fun i => (serve_commands (hsteps i)).2,
    fun i e he url hcall => opened_on_line (hsteps i) he hcall, fun later => ⟨?_, ?_⟩⟩
  · have hown := history_events lib shared servers H sessions worlds store d schedule i
    exact hown.trans (serve_commands (hsteps i)).1
  · unfold history commandHistory
    rw [Pool.trace_append, List.filter_append]
    exact List.prefix_append _ _
  · have hlinks := onServers_links servers line H
    obtain ⟨lost, hlinked⟩ := history_linked lib shared servers H sessions worlds store d schedule
    have hsplit : afterBeats lib shared servers H sessions worlds store d (schedule ++ later) =
        st.exec (onServers servers line H) later := List.foldl_append
    obtain ⟨-, -, hgrows⟩ := hlinks.exec (hlinks.exec_world (fun _ => rfl) schedule) hlinked later
    rw [hsplit]
    exact hgrows

end

end

end Fabricd
