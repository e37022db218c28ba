import Fabricd.Callwise

/-!
# The commands of the `redis` backend

What an action stands for at the server: one command, and a reply that its answer decides.
-/

namespace Fabricd.Kv

open Framework Redis

/-- What a call asks of the server, whatever connection it is sent on. -/
inductive Command where
  | get (key : String)
  | set (key value : String) (ttl : Option UInt64)
  | delete (key : String)
  | increment (key : String)
  | expire (key : String) (seconds : Int64)
  deriving DecidableEq

namespace Command

/-- The key a command is about. -/
def key : Command → String
  | get key | set key _ _ | delete key | increment key | expire key _ => key

/-- The command of an action and its payload. -/
def read (lib : Lib) (action payloadJson : String) : Except RedisError Command :=
  let parsed {α : Type} (fields : Except String α) (command : α → Command) :=
    (fields.mapError fun err => .fallback s!"invalid redis payload: {err}").map command
  match action with
  | "get" => parsed (lib.keyPayload payloadJson) fun payload => get (payload.key.getD "")
  | "set" => parsed (lib.setPayload payloadJson) fun payload =>
      set (payload.key.getD "") (payload.value.getD "") payload.ttl
  | "delete" => parsed (lib.keyPayload payloadJson) fun payload => delete (payload.key.getD "")
  | "increment" => parsed (lib.keyPayload payloadJson) fun payload => increment (payload.key.getD "")
  | "expire" => parsed (lib.expirePayload payloadJson) fun payload =>
      expire (payload.key.getD "") (payload.seconds.getD 0)
  | other => .error (.fallback s!"unknown redis action: {other}")

/-- The request that carries the command on a connection. -/
def op (conn : ConnId) : Command → Op
  | get key => .get conn key
  | set key value none => .set conn key value
  | set key value (some ttl) => .setEx conn key value ttl
  | delete key => .del conn key
  | increment key => .incr conn key 1
  | expire key seconds => .expire conn key seconds

/-- The reply to an answer of the driver: its error, or its value rendered. -/
def rendered {α : Type} (lib : Lib) (answer : Except RedisErr α) (render : α → Json) :
    Except RedisError String :=
  match answer with
  | .error err => .error (.fromDriver err)
  | .ok value => (lib.toStr (render value)).mapError fun err => .fallback s!"serialize error: {err}"

/-- The reply of a call, from the answer to its command. -/
def outcome (lib : Lib) (conn : ConnId) : (c : Command) → (c.op conn).Ans → Except RedisError String
  | get _, answer => rendered lib answer fun value : Option String =>
      .object [("value", .ofOption value)]
  | set _ _ none, answer => rendered lib answer fun _ : Unit => .object [("ok", .bool true)]
  | set _ _ (some _), answer => rendered lib answer fun _ : Unit => .object [("ok", .bool true)]
  | delete _, answer => rendered lib answer fun count : Int64 => .object [("count", .ofInt count.toInt)]
  | increment _, answer => rendered lib answer fun value : Int64 =>
      .object [("value", .ofInt value.toInt)]
  | expire _ _, answer => rendered lib answer fun set : Bool => .object [("set", .bool set)]

/-- The command sent, and the reply made of its answer. -/
def perform (lib : Lib) (conn : ConnId) (c : Command) : FabE RedisError String :=
  ExceptT.mk (.act ⟨.redis (c.op conn), none⟩ fun answer => .ret (c.outcome lib conn answer))

end Command

/-! ## One command a call -/

section

variable {lib : Lib} {conn : ConnId}

private theorem orFail_encode {α : Type} (p : Fab (Except RedisErr α)) (render : α → Json) :
    (orFail .fromDriver p >>= fun value => encode lib (render value)).run =
      p >>= fun answer => .ret (Command.rendered lib answer render) := by
  refine (Prog.bind_bind p _ _).trans (congrArg (p >>= ·) (funext fun answer => ?_))
  cases answer with
  | error err => rfl
  | ok value => rfl

private theorem parse_lock {α : Type} (fields : Except String α) (command : α → Command)
    (rest : α → FabE RedisError String)
    (h : ∀ payload, rest payload = (command payload).perform lib conn) :
    (parse fields >>= fun payload => lockConn conn >>= fun _ => rest payload) =
      ofExcept ((fields.mapError fun err => .fallback s!"invalid redis payload: {err}").map command) >>=
        fun c => lockConn conn >>= fun _ => c.perform lib conn := by
  cases fields with
  | error err => rfl
  | ok payload =>
    have hrest := h payload
    show lockConn conn >>= (fun _ => rest payload) = lockConn conn >>= fun _ => _
    rw [hrest]

/-- A call is one command, under the lock of the connection. -/
theorem dispatch_command (action payloadJson : String) :
    dispatch lib conn action payloadJson =
      ofExcept (Command.read lib action payloadJson) >>= fun c =>
        lockConn conn >>= fun _ => c.perform lib conn := by
  unfold dispatch
  split
  · exact parse_lock _ (fun payload : KeyFields => .get (payload.key.getD "")) _
      fun payload => orFail_encode (ask (.redis (.get conn _))) _
  · refine parse_lock _ (fun payload : SetFields =>
      .set (payload.key.getD "") (payload.value.getD "") payload.ttl) _ fun payload => ?_
    obtain ⟨key, value, ttl⟩ := payload
    cases ttl with
    | none => exact orFail_encode (ask (.redis (.set conn _ _))) _
    | some ttl => exact orFail_encode (ask (.redis (.setEx conn _ _ ttl))) _
  · exact parse_lock _ (fun payload : KeyFields => .delete (payload.key.getD "")) _
      fun payload => orFail_encode (ask (.redis (.del conn _))) _
  · exact parse_lock _ (fun payload : KeyFields => .increment (payload.key.getD "")) _
      fun payload => orFail_encode (ask (.redis (.incr conn _ 1))) _
  · exact parse_lock _ (fun payload : ExpireFields =>
      .expire (payload.key.getD "") (payload.seconds.getD 0)) _
      fun payload => orFail_encode (ask (.redis (.expire conn _ _))) _
  · rename_i hget hset hdelete hincrement hexpire
    have hread : Command.read lib action payloadJson =
        .error (.fallback s!"unknown redis action: {action}") := by
      unfold Command.read
      split
      · exact absurd rfl hget
      · exact absurd rfl hset
      · exact absurd rfl hdelete
      · exact absurd rfl hincrement
      · exact absurd rfl hexpire
      · rfl
    rw [hread]
    rfl

private theorem dispatch_steps {action payloadJson : String} {es : List (Event Fx)}
    {q : Fab (Except RedisError String)}
    (hs : Prog.Steps (dispatch lib conn action payloadJson).run es q) :
    ((∀ e ∈ es, e.op.call = .redis (.lock conn)) ∧ ∀ r, q = .ret r → ∃ err, r = .error err) ∨
      ∃ c locked answer, Command.read lib action payloadJson = .ok c ∧
        es = [⟨⟨.redis (.lock conn), none⟩, locked⟩, ⟨⟨.redis (c.op conn), none⟩, answer⟩] ∧
        q = .ret (c.outcome lib conn answer) := by
  rw [dispatch_command] at hs
  cases hread : Command.read lib action payloadJson with
  | error err =>
    rw [hread] at hs
    obtain ⟨rfl, rfl⟩ := Prog.steps_ret hs
    refine .inl ⟨List.forall_mem_nil _, ?_⟩
    rintro _ ⟨rfl⟩
    exact ⟨err, rfl⟩
  | ok c =>
    rw [hread] at hs
    cases hs with
    | refl => exact .inl ⟨List.forall_mem_nil _, fun _ h => nomatch h⟩
    | @act _ _ locked es _ hs =>
      cases locked with
      | error err =>
        obtain ⟨rfl, rfl⟩ := Prog.steps_ret hs
        refine .inl ⟨by simp, ?_⟩
        rintro _ ⟨rfl⟩
        exact ⟨_, rfl⟩
      | ok held =>
        cases hs with
        | refl => exact .inl ⟨by simp, fun _ h => nomatch h⟩
        | @act _ _ answer es _ hs =>
          obtain ⟨rfl, rfl⟩ := Prog.steps_ret hs
          exact .inr ⟨c, .ok held, answer, rfl, rfl, rfl⟩

end

/-! ## The commands of a session -/

def isCommand (op : FxOp) : Bool :=
  match op.call with
  | .redis (.get ..) | .redis (.set ..) | .redis (.setEx ..) | .redis (.del ..)
  | .redis (.incr ..) | .redis (.expire ..) => true
  | _ => false

def commands (log : List (Event Fx)) : List (Event Fx) := log.filter fun e => isCommand e.op

@[simp] theorem commands_append (log es : List (Event Fx)) :
    commands (log ++ es) = commands log ++ commands es :=
  List.filter_append ..

private theorem commands_eq_nil {es : List (Event Fx)} (h : ∀ e ∈ es, isCommand e.op = false) :
    commands es = [] :=
  List.filter_eq_nil_iff.mpr fun e he => by simp [h e he]

@[simp] theorem isCommand_op (c : Command) (conn : ConnId) (budget : Option Duration) :
    isCommand ⟨.redis (c.op conn), budget⟩ = true := by
  cases c with
  | set key value ttl => cases ttl <;> rfl
  | _ => rfl

private theorem isCommand_capability {op : FxOp} (h : isCommand op = true) :
    op.call.capability = some .redis := by
  obtain ⟨call, budget⟩ := op
  cases call with
  | redis op => rfl
  | _ => cases h

private theorem commands_requests (log : List (Event Fx)) :
    commands (requests .redis log) = commands log := by
  unfold commands requests
  rw [List.filter_filter]
  refine List.filter_congr fun e _ => ?_
  cases he : isCommand e.op with
  | false => rfl
  | true => simp [isCommand_capability he]

/-- A call at the server: no command, and then no reply but an error; or the one command that
its action and payload read as, and no reply but the one its answer decides. -/
def Atomic (lib : Lib) (visit : Visit) : Prop :=
  (commands visit.work = [] ∧ ∀ response, visit.response = some response →
    ∃ err, response = .reply (.error err)) ∨
  ∃ c conn answer, Command.read lib visit.call.action visit.call.payload = .ok c ∧
    commands visit.work = [⟨⟨.redis (c.op conn), none⟩, answer⟩] ∧
    ∀ response, visit.response = some response →
      response = .reply ((c.outcome lib conn answer).mapError RedisError.intoResourceError)

private theorem commands_attempt {slot : RedisSlot} {es : List (Event Fx)}
    {q : Fab (Except EgressError RedisBackend)} (hs : Prog.Steps (RedisSlot.connect slot) es q) :
    commands es = [] := by
  refine commands_eq_nil fun e he => ?_
  have hcall := ((connectResource_only slot.config).steps hs).1 e he
  obtain ⟨⟨call, budget⟩, answer⟩ := e
  cases call with
  | redis op => cases op <;> first | rfl | exact hcall.elim
  | _ => rfl

theorem run_steps {lib : Lib} {backend : RedisBackend} {action payload : String}
    {es : List (Event Fx)} {q : Fab (Except EgressError String × RedisBackend)}
    (hs : Prog.Steps (BackendSet.runRedis lib action payload backend) es q) :
    ∃ fs q', Prog.Steps (dispatch lib backend.conn action payload).run fs q' ∧
      commands es = commands fs ∧
      ∀ r, q = .ret r → ∃ result, q' = .ret result ∧
        r.1 = result.mapError RedisError.intoResourceError := by
  obtain ⟨rest, hcall, hend⟩ := Lane.steps_bind_pure hs
  have hbuild (result : Except RedisError String) (start : Instant) :
      (buildMetric lib action result start).Only (On (· = .now)) :=
    ⟨rfl, fun _ => trivial⟩
  obtain ⟨fs, q', hdispatch, hsame, hreturn⟩ := measured_steps hbuild hcall
  refine ⟨fs, q', hdispatch, hsame isCommand fun _ => rfl, fun r hr => ?_⟩
  obtain ⟨r', rfl, rfl⟩ := hend r hr
  obtain ⟨result, metric, hq', rfl⟩ := hreturn r' rfl
  exact ⟨result, hq', rfl⟩

private theorem course_atomic {lib : Lib} {slot : Option RedisSlot} {visit : Visit}
    (h : (redisLane lib).Course slot visit) : Atomic lib visit := by
  cases h with
  | idle work answer =>
    refine .inl ⟨?_, answer⟩
    rw [work]
    rfl
  | attempted wired attempt answer =>
    refine .inl ⟨commands_attempt attempt, fun response hr => ?_⟩
    obtain ⟨err, -, rfl⟩ := answer response hr
    exact ⟨err, rfl⟩
  | @ran s before use backend q wired attempt run work answer =>
    have hbefore : commands before = [] := by
      rcases attempt with rfl | hopened
      · rfl
      · exact commands_attempt hopened
    obtain ⟨fs, q', hdispatch, hsame, hreturn⟩ := run_steps run
    have hwork : commands visit.work = commands fs := by
      rw [work, commands_append, hbefore, hsame, List.nil_append]
    rcases dispatch_steps hdispatch with ⟨hlocks, hfails⟩ | ⟨c, locked, reply, hread, rfl, rfl⟩
    · refine .inl ⟨hwork.trans (commands_eq_nil fun e he => ?_), fun response hr => ?_⟩
      · obtain ⟨⟨call, budget⟩, got⟩ := e
        have hlock : call = .redis (.lock backend.conn) := hlocks _ he
        subst hlock
        rfl
      · obtain ⟨r, rfl, rfl⟩ := answer response hr
        obtain ⟨result, rfl, hresult⟩ := hreturn r rfl
        obtain ⟨err, rfl⟩ := hfails result rfl
        exact ⟨_, congrArg WireResponse.reply hresult⟩
    · refine .inr ⟨c, backend.conn, reply, hread, hwork.trans ?_, fun response hr => ?_⟩
      · have hlock : isCommand ⟨.redis (.lock backend.conn), none⟩ = false := rfl
        simp [commands, hlock]
      · obtain ⟨r, rfl, rfl⟩ := answer response hr
        obtain ⟨result, hq', hresult⟩ := hreturn r rfl
        cases hq'
        exact congrArg WireResponse.reply hresult

/-- The commands of a session are those of its calls, at most one each. -/
theorem serve_commands {lib : Lib} {shared : Shared} {authenticator : ClientAuth.Authenticator}
    {input : Input} {log : List (Event Fx)} {q : Fab (Except String Unit)}
    (hs : Prog.Steps (serve lib shared authenticator input).run log q) :
    commands log = (visitsOf .redis log).reverse.flatMap (fun visit => commands visit.work) ∧
      ∀ visit ∈ visitsOf .redis log, Atomic lib visit := by
  obtain ⟨configs, deps, hwired⟩ := wired_eq shared authenticator input
  rw [fromConfigs_eq] at hwired
  refine ⟨?_, fun visit hvisit => ?_⟩
  · have hgathered : requests .redis log = _ := serve_gathered (redisPort lib) hs
    rw [← commands_requests, hgathered]
    unfold commands
    rw [List.filter_flatMap]
    refine congrArg (List.flatMap · _) (funext fun visit => ?_)
    exact commands_requests visit.work
  · exact course_atomic (serve_course (redisLane lib) (redisPort lib) (hwired ▸ slot_fresh) hs
      visit hvisit)

end Fabricd.Kv
