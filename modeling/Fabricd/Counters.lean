import Fabricd.Keyspace

/-!
# Counters in a shared keyspace

A key that the sessions only read and increment is a counter: no increment is lost, and no
number is handed out twice.
-/

namespace Fabricd

open Framework Kv

def Redis.Op.writes : Redis.Op → Option String
  | .set _ key _ | .setEx _ key _ _ | .del _ key | .incr _ key _ | .expire _ key _ => some key
  | .openUrl _ | .getConnection _ | .setReadTimeout _ _ | .setWriteTimeout _ _ | .lock _
  | .get _ _ => none

/-- The servers keep a counter at a key: `INCR` answers with the number after the one that is
there and leaves it, unless it fails, done or not; nothing else that does not write the key
there touches it. -/
structure CountsAt {D : Type} (servers : RedisServers D) (url key : String) (val : D → Int) :
    Prop where
  incr_ok : ∀ t conn d (v : Int64), (servers.exec t url (.incr conn key 1) d).1 = .ok v →
    v.toInt = val d + 1 ∧ val (servers.exec t url (.incr conn key 1) d).2 = val d + 1
  incr_error : ∀ t conn d err, (servers.exec t url (.incr conn key 1) d).1 = .error err →
    val d ≤ val (servers.exec t url (.incr conn key 1) d).2 ∧
      val (servers.exec t url (.incr conn key 1) d).2 ≤ val d + 1
  other : ∀ t url' op d, url' ≠ url ∨ op.writes ≠ some key → val (servers.exec t url' op d).2 = val d

/-- The number an increment of a key was answered with. -/
def granted (key : String) : Event Fx → Option Int
  | ⟨⟨.redis (.incr _ key' _), _⟩, answer⟩ =>
    if key' = key then (answer : Except Redis.RedisErr Int64).toOption.map Int64.toInt else none
  | _ => none

/-- A request to increment a key. -/
def asksIncrement (key : String) : FxOp → Bool
  | ⟨.redis (.incr _ key' _), _⟩ => key' = key
  | _ => false

def increments (key : String) (e : Event Fx) : Bool := asksIncrement key e.op

/-- The numbers a session's calls were answered with, in order. -/
def numbers (key : String) (log : List (Event Fx)) : List Int :=
  (visitsOf .redis log).reverse.flatMap fun visit => (commands visit.work).filterMap (granted key)

section

variable {ι D : Type} {servers : RedisServers D} {url key : String} {val : D → Int}
  {line : ι → String}

/-- The number a moment hands out at the counter. -/
def ticket (line : ι → String) (url key : String) (m : Moment Fx ι Beat) : Option Int :=
  if line m.party = url then granted key m.event else none

def sent (line : ι → String) (url key : String) (m : Moment Fx ι Beat) : Bool :=
  line m.party = url ∧ increments key m.event

/-- A moment that carries a command which reads or increments the key, if it is about it. -/
def Counting (line : ι → String) (url key : String) (m : Moment Fx ι Beat) : Prop :=
  ∃ c conn answer, m.event = ⟨⟨.redis (Command.op conn c), none⟩, answer⟩ ∧
    (line m.party = url → c.key = key → c = .get key ∨ c = .increment key)

private theorem ticket_givenUp {m : Moment Fx ι Beat} (h : GaveUp m.event) :
    ticket line url key m = none := by
  obtain ⟨i, t, ⟨call, budget⟩, answer⟩ := m
  obtain ⟨err, hans⟩ := h
  have hans : answer = giveUp err ⟨call, budget⟩ := hans
  subst hans
  have hnone : granted key ⟨⟨call, budget⟩, giveUp err ⟨call, budget⟩⟩ = none := by
    cases call with
    | redis op =>
      cases op with
      | incr conn key' delta => exact ite_self none
      | _ => rfl
    | _ => rfl
  exact (congrArg (ite _ · none) hnone).trans (ite_self none)

private theorem op_writes {c : Command} {conn : Redis.ConnId} (h : (c.op conn).writes = some key) :
    c.key = key ∧ c ≠ .get key := by
  cases c with
  | get key' => cases h
  | set key' value ttl =>
    cases ttl with
    | none => exact ⟨Option.some.inj h, nofun⟩
    | some ttl => exact ⟨Option.some.inj h, nofun⟩
  | delete key' => exact ⟨Option.some.inj h, nofun⟩
  | increment key' => exact ⟨Option.some.inj h, nofun⟩
  | expire key' seconds => exact ⟨Option.some.inj h, nofun⟩

theorem Counting.congr {m m' : Moment Fx ι Beat} (h : Counting line url key m)
    (hparty : m.party = m'.party) (hop : m.event.op = m'.event.op) : Counting line url key m' := by
  obtain ⟨i, t, e⟩ := m
  obtain ⟨i', t', op', ans'⟩ := m'
  obtain ⟨c, conn, answer, rfl, hkey⟩ := h
  cases hparty
  cases hop
  exact ⟨c, conn, ans', rfl, hkey⟩

private theorem increments_op {c : Command} {conn : Redis.ConnId} {budget : Option Duration}
    {answer : (c.op conn).Ans} :
    increments key ⟨⟨.redis (c.op conn), budget⟩, answer⟩ = true ↔ c = .increment key := by
  cases c with
  | set key' value ttl => cases ttl <;> simp [increments, asksIncrement, Command.op]
  | _ => simp [increments, asksIncrement, Command.op]

private theorem granted_increments {e : Event Fx} {n : Int} (h : granted key e = some n) :
    increments key e = true := by
  unfold granted at h
  split at h
  · split at h
    · simpa [increments, asksIncrement]
    · cases h
  · cases h

/-- What one command does to the counter. -/
theorem counts_step (hcounts : CountsAt servers url key val) {m : Moment Fx ι Beat}
    (hm : Counting line url key m) (d : D)
    (hans : ((keyspace servers line).serve m.party m.time d m.event.op).1 = m.event.ans) :
    val d + (ticket line url key m).isSome.toNat ≤
        val ((keyspace servers line).serve m.party m.time d m.event.op).2 ∧
      val ((keyspace servers line).serve m.party m.time d m.event.op).2 ≤
        val d + (sent line url key m).toNat ∧
      ∀ n, ticket line url key m = some n → val d < n ∧
        n ≤ val ((keyspace servers line).serve m.party m.time d m.event.op).2 := by
  obtain ⟨i, t, e⟩ := m
  obtain ⟨c, conn, answer, rfl, hkey⟩ := hm
  have hserve : (keyspace servers line).serve i t d ⟨.redis (c.op conn), none⟩ =
      servers.exec t.time (line i) (c.op conn) d := rfl
  simp only [hserve] at hans ⊢
  by_cases hmine : line i = url ∧ c = .increment key
  · obtain ⟨hurl, rfl⟩ := hmine
    rw [hurl] at hans ⊢
    have hsent : sent line url key
        ⟨i, t, ⟨⟨.redis (Command.op conn (.increment key)), none⟩, answer⟩⟩ = true := by
      simp [sent, increments, asksIncrement, Command.op, hurl]
    have hticket : ticket line url key
        ⟨i, t, ⟨⟨.redis (Command.op conn (.increment key)), none⟩, answer⟩⟩ =
          (answer : Except Redis.RedisErr Int64).toOption.map Int64.toInt := by
      simp [ticket, granted, Command.op, hurl]
    rw [hsent, hticket]
    have hans' : (servers.exec t.time url (.incr conn key 1) d).1 = answer := hans
    cases answer with
    | error err =>
      obtain ⟨hlow, hhigh⟩ := hcounts.incr_error t.time conn d err hans'
      exact ⟨(Int.add_zero _).trans_le hlow, hhigh, fun n hn => nomatch hn⟩
    | ok v =>
      obtain ⟨hv, hval⟩ := hcounts.incr_ok t.time conn d v hans'
      refine ⟨hval.ge, hval.le, fun n hn => ?_⟩
      have hn' : v.toInt = n := Option.some.inj hn
      have hval' : val (servers.exec t.time url (Command.op conn (.increment key)) d).2 = val d + 1 := hval
      omega
  · have hkept : val (servers.exec t.time (line i) (c.op conn) d).2 = val d := by
      refine hcounts.other t.time (line i) _ d ?_
      by_cases hurl : line i = url
      · refine .inr fun hwrites => hmine ⟨hurl, ?_⟩
        obtain ⟨hckey, hget⟩ := op_writes hwrites
        exact (hkey hurl hckey).resolve_left hget
      · exact .inl hurl
    have hsilent : sent line url key ⟨i, t, ⟨⟨.redis (c.op conn), none⟩, answer⟩⟩ = false := by
      by_contra hsent
      have hboth : line i = url ∧ increments key ⟨⟨.redis (c.op conn), none⟩, answer⟩ = true := by
        simpa [sent] using hsent
      exact hmine ⟨hboth.1, increments_op.mp hboth.2⟩
    have hnone : ticket line url key ⟨i, t, ⟨⟨.redis (c.op conn), none⟩, answer⟩⟩ = none := by
      cases hticket : ticket line url key ⟨i, t, ⟨⟨.redis (c.op conn), none⟩, answer⟩⟩ with
      | none => rfl
      | some n =>
        simp only [ticket, Option.ite_none_right_eq_some] at hticket
        exact absurd ⟨hticket.1, increments_op.mp (granted_increments hticket.2)⟩ hmine
    rw [hsilent, hnone, hkept]
    simp

end

section

variable {ι D Store W : Type} [DecidableEq ι] (lib : Lib) (shared : Shared)
  {servers : RedisServers D} (H : Handler Fx Instant Store W) (sessions : ι → Session)
  (worlds : ι → W) (store : Store) (d : D) {url key : String} {val : D → Int}

/-- The sessions of the server only read and increment the key. -/
def OnlyCount (url key : String) : Prop :=
  ∀ i, (sessions i).redisUrl shared = url → ∀ call, .ok (.call call) ∈ (sessions i).input →
    call.name = "redis" → ∀ c, Command.read lib call.action call.payload = .ok c →
      c.key = key → c = .get key ∨ c = .increment key

variable {lib shared sessions}

private theorem history_counting (honly : OnlyCount lib shared sessions url key)
    {schedule : List (ι × Beat)} {m : Moment Fx ι Beat}
    (hm : m ∈ commandHistory lib shared servers H sessions worlds store d schedule) :
    Counting (fun i => (sessions i).redisUrl shared) url key m := by
  have hsteps : Prog.Steps ((sessions m.party).program lib shared)
      ((afterBeats lib shared servers H sessions worlds store d schedule).party m.party).log _ :=
    launchOn_steps _ _ schedule m.party
  obtain ⟨hcommands, hatomic⟩ := serve_commands hsteps
  have hmine : m.event ∈ Pool.eventsOf m.party
      (commandHistory lib shared servers H sessions worlds store d schedule) :=
    List.mem_map.mpr ⟨m, List.mem_filter.mpr ⟨hm, by simp⟩, rfl⟩
  rw [history_events] at hmine
  have hwork : m.event ∈ (visitsOf .redis _).reverse.flatMap fun visit => commands visit.work :=
    hcommands ▸ hmine
  obtain ⟨visit, hvisit, hevent⟩ := List.mem_flatMap.mp hwork
  have hvisit : visit ∈ visitsOf .redis _ := List.mem_reverse.mp hvisit
  obtain ⟨hvisits, hname⟩ := List.mem_filter.mp hvisit
  have hcall := visit_requested hsteps hvisits
  rcases hatomic visit hvisit with ⟨hnil, -⟩ | ⟨c, conn, answer, hread, hone, -⟩
  · rw [hnil] at hevent
    cases hevent
  · rw [hone] at hevent
    refine ⟨c, conn, answer, List.mem_singleton.mp hevent, fun hurl hckey => ?_⟩
    exact honly m.party hurl visit.call hcall (of_decide_eq_true hname) c hread hckey

private theorem numbers_eq (schedule : List (ι × Beat)) {i : ι}
    (hurl : (sessions i).redisUrl shared = url) :
    numbers key ((afterBeats lib shared servers H sessions worlds store d schedule).party i).log =
      ((commandHistory lib shared servers H sessions worlds store d schedule).filter
        fun m => m.party = i).filterMap (ticket (fun i => (sessions i).redisUrl shared) url key) := by
  have hsteps : Prog.Steps ((sessions i).program lib shared)
      ((afterBeats lib shared servers H sessions worlds store d schedule).party i).log _ :=
    launchOn_steps _ _ schedule i
  have hevents := history_events lib shared servers H sessions worlds store d schedule i
  have hcommands := (serve_commands hsteps).1
  have hnumbers : numbers key
      ((afterBeats lib shared servers H sessions worlds store d schedule).party i).log =
        (commands ((afterBeats lib shared servers H sessions worlds store d schedule).party i).log).filterMap
          (granted key) := by
    unfold numbers
    rw [← List.filterMap_flatMap]
    exact congrArg (List.filterMap (granted key)) hcommands.symm
  rw [hnumbers, ← hevents, Pool.eventsOf, List.filterMap_map]
  refine List.filterMap_congr fun m hm => ?_
  have hparty : m.party = i := of_decide_eq_true (List.mem_filter.mp hm).2
  simp [ticket, hparty, hurl]

private theorem increment_answered {visit : Visit} (h : Atomic lib visit)
    (hread : Command.read lib visit.call.action visit.call.payload = .ok (.increment key))
    {text : String} (hreply : visit.response = some (.reply (.ok text))) :
    ∃ n, (commands visit.work).filterMap (granted key) = [n] ∧
      lib.toStr (.object [("value", .ofInt n)]) = .ok text := by
  rcases h with ⟨-, hfails⟩ | ⟨c, conn, answer, hc, hone, hanswers⟩
  · obtain ⟨err, herr⟩ := hfails _ hreply
    cases herr
  · cases hread.symm.trans hc
    have hresult := WireResponse.reply.inj (hanswers _ hreply)
    cases answer with
    | error err => cases hresult
    | ok v =>
      have hgranted : granted key ⟨⟨.redis (Command.op conn (.increment key)), none⟩, .ok v⟩ =
          some v.toInt := by
        simp [granted, Command.op, Except.toOption]
      refine ⟨v.toInt, by rw [hone, List.filterMap_cons_some hgranted, List.filterMap_nil], ?_⟩
      have htext : Except.mapError RedisError.intoResourceError
          (Except.mapError (fun err => RedisError.fallback s!"serialize error: {err}")
            (lib.toStr (.object [("value", .ofInt v.toInt)]))) = .ok text := hresult.symm
      exact mapError_ok (mapError_ok htext)

/-- No lost update. Over every schedule of sessions that only read and increment a key of one
server: the numbers a session gets for its increments grow, no two sessions get the same, all
are above the counter at the start and not above the one at the end; an increment that is
answered with a value is answered with its number; and the counter has grown by every number
handed out, and by no more than the increments that were sent. -/
theorem counter_loses_nothing (hcounts : CountsAt servers url key val)
    (honly : OnlyCount lib shared sessions url key) (schedule : List (ι × Beat)) :
    let line i := (sessions i).redisUrl shared
    let st := afterBeats lib shared servers H sessions worlds store d schedule
    let history := commandHistory lib shared servers H sessions worlds store d schedule
    (∀ i, line i = url → (numbers key (st.party i).log).Pairwise (· < ·)) ∧
      (∀ i j, i ≠ j → line i = url → line j = url → ∀ n ∈ numbers key (st.party i).log,
        n ∉ numbers key (st.party j).log) ∧
      (∀ i, line i = url → ∀ n ∈ numbers key (st.party i).log, val d < n ∧ n ≤ val st.store.2.data) ∧
      (∀ i, ∀ visit ∈ visitsOf .redis (st.party i).log,
        Command.read lib visit.call.action visit.call.payload = .ok (.increment key) →
        ∀ text, visit.response = some (.reply (.ok text)) →
          ∃ n, (commands visit.work).filterMap (granted key) = [n] ∧
            lib.toStr (.object [("value", .ofInt n)]) = .ok text) ∧
      val d + history.countP (fun m => (ticket line url key m).isSome) ≤ val st.store.2.data ∧
      val st.store.2.data ≤ val d + history.countP (sent line url key) := by
  intro line st history
  obtain ⟨lost, hlinked⟩ := history_linked lib shared servers H sessions worlds store d schedule
  have hlinked : (keyspace servers line).Linked GaveUp d history lost st.store.2 := hlinked
  have hreplays := hlinked.replays
  have hcounting : ∀ m ∈ st.store.2.executed, Counting line url key m := by
    intro m hm
    obtain ⟨m', hm', hparty, hop⟩ := hlinked.exists_asked hm
    exact (history_counting H worlds store d honly hm').congr hparty hop
  obtain ⟨-, hpairs, hbounds⟩ := hreplays.tickets val (ticket line url key) fun m hm d hans => by
    obtain ⟨hlow, -, hticket⟩ := counts_step hcounts (hcounting m hm) d hans
    exact ⟨by omega, hticket⟩
  have hgrown := hreplays.measured val (fun m => (ticket line url key m).isSome)
    (sent line url key) fun m hm d hans => by
      obtain ⟨hlow, hhigh, -⟩ := counts_step hcounts (hcounting m hm) d hans
      exact ⟨hlow, hhigh⟩
  have hanswered : (history.filterMap (ticket line url key)).Sublist
      (st.store.2.executed.filterMap (ticket line url key)) :=
    hlinked.filterMap_asked fun _ => ticket_givenUp
  have hnumbers {i : ι} (hurl : line i = url) : numbers key (st.party i).log =
      (history.filter fun m => m.party = i).filterMap (ticket line url key) :=
    numbers_eq H worlds store d schedule hurl
  have hsub {i : ι} (hurl : line i = url) :
      (numbers key (st.party i).log).Sublist (history.filterMap (ticket line url key)) := by
    rw [hnumbers hurl]
    exact List.filter_sublist.filterMap _
  have hpairs := hpairs.sublist hanswered
  refine ⟨fun i hurl => hpairs.sublist (hsub hurl), fun i j hij hi hj n hn hn' => ?_,
    fun i hurl n hn => hbounds n (hanswered.subset ((hsub hurl).subset hn)),
    fun i visit hvisit hread text hreply => ?_, ?_, ?_⟩
  · rw [hnumbers hi] at hn
    rw [hnumbers hj] at hn'
    obtain ⟨m, hm, hmn⟩ := List.mem_filterMap.mp hn
    obtain ⟨m', hm', hmn'⟩ := List.mem_filterMap.mp hn'
    obtain ⟨hmine, hparty⟩ := List.mem_filter.mp hm
    obtain ⟨hmine', hparty'⟩ := List.mem_filter.mp hm'
    have hapart : m ≠ m' := by
      rintro rfl
      exact hij ((of_decide_eq_true hparty).symm.trans (of_decide_eq_true hparty'))
    have hdistinct : history.Pairwise fun m m' => ∀ a, ticket line url key m = some a →
        ∀ b, ticket line url key m' = some b → a ≠ b :=
      (List.pairwise_filterMap.mp hpairs).imp fun h a ha b hb => (h a ha b hb).ne
    have hsym : Std.Symm fun m m' => ∀ a, ticket line url key m = some a →
        ∀ b, ticket line url key m' = some b → a ≠ b :=
      ⟨fun m m' h a ha b hb => (h b hb a ha).symm⟩
    exact hdistinct.forall hmine hmine' hapart n hmn n hmn' rfl
  · have hsteps : Prog.Steps ((sessions i).program lib shared) (st.party i).log
        (st.party i).rest := launchOn_steps _ _ schedule i
    exact increment_answered ((serve_commands hsteps).2 visit hvisit) hread hreply
  · have hcount : history.countP (fun m => (ticket line url key m).isSome) ≤
        st.store.2.executed.countP fun m => (ticket line url key m).isSome := by
      simpa only [List.length_filterMap_eq_countP] using hanswered.length_le
    have hlow := hgrown.1
    omega
  · have hcount : st.store.2.executed.countP (sent line url key) ≤ history.countP (sent line url key) :=
      hlinked.countP_executed_le fun request => line request.1 = url ∧ asksIncrement key request.2
    have hhigh := hgrown.2
    omega

end

/-! ### Two sessions on one counter -/

/-- Servers of integers, by url and key, that add as `INCR` does. -/
def integers : RedisServers (String × String → Int) where
  exec _ url op d :=
    match op with
    | .incr _ key delta =>
      let next := d (url, key) + delta.toInt
      if -2 ^ 63 ≤ next ∧ next < 2 ^ 63 then
        (.ok (Int64.ofInt next), Function.update d (url, key) next)
      else (.error ⟨false, false, "ERR increment or decrement would overflow"⟩, d)
    | op => ((default : (Call.redis op).Ans), d)

private theorem integers_incr (t : Instant) (url key : String) (conn : Redis.ConnId)
    (d : String × String → Int) :
    integers.exec t url (.incr conn key 1) d =
      if -2 ^ 63 ≤ d (url, key) + 1 ∧ d (url, key) + 1 < 2 ^ 63 then
        (.ok (Int64.ofInt (d (url, key) + 1)), Function.update d (url, key) (d (url, key) + 1))
      else (.error ⟨false, false, "ERR increment or decrement would overflow"⟩, d) := rfl

private theorem integers_count (url key : String) :
    CountsAt integers url key fun d => d (url, key) where
  incr_ok t conn d v h := by
    rw [integers_incr] at h ⊢
    split at h
    next hfits =>
      have hv : Int64.ofInt (d (url, key) + 1) = v := Except.ok.inj h
      rw [if_pos hfits, ← hv, Int64.toInt_ofInt_of_le hfits.1 hfits.2]
      exact ⟨rfl, Function.update_self ..⟩
    next => cases h
  incr_error t conn d err h := by
    rw [integers_incr] at h ⊢
    split at h
    next => cases h
    next hfull =>
      rw [if_neg hfull]
      dsimp only
      omega
  other t url' op d h := by
    cases op with
    | incr conn key' delta =>
      have hapart : (url, key) ≠ (url', key') := by
        rintro ⟨⟩
        simp [Redis.Op.writes] at h
      simp only [integers]
      split
      · exact Function.update_of_ne hapart ..
      · rfl
    | _ => rfl

def hitsLib : Lib := { Lib.rejecting with keyPayload := fun _ => .ok ⟨some "hits"⟩, toStr := fun _ => .ok "" }

def hitsTable : Table := fun name =>
  if name = "cache" then some ⟨none, .redis ⟨"redis://cache", 1000⟩⟩ else none

/-- A session that increments the counter twice. -/
def hitsFleet (_ : Bool) : Session where
  authenticator := .none
  input := [.ok (.init { WireInit.empty with redis := some "cache" }),
    .ok (.call ⟨"redis", "increment", "\x7b\x7d"⟩), .ok (.call ⟨"redis", "increment", "\x7b\x7d"⟩)]

/-- Everything but the commands goes well. -/
def linkUp : Handler Fx Instant Unit Unit
  | t, s, w, ⟨.now, _⟩ => (t, s, w)
  | _, s, w, ⟨.writeFrame _, _⟩ | _, s, w, ⟨.spawnBlocking _, _⟩ => (.ok (), s, w)
  | _, s, w, ⟨.redis (.getConnection _), _⟩ => (.ok (0 : Nat), s, w)
  | _, s, w, ⟨.redis (.openUrl _), _⟩ | _, s, w, ⟨.redis (.setReadTimeout _ _), _⟩
  | _, s, w, ⟨.redis (.setWriteTimeout _ _), _⟩ | _, s, w, ⟨.redis (.lock _), _⟩ => (.ok (), s, w)
  | _, s, w, op => ((default : op.call.Ans), s, w)

/-- The sessions take turns. The first increment of one is given up, and executed after one of the
other. -/
def hitsSchedule : List (Bool × Beat) :=
  (List.range 24).flatMap fun n =>
    [(true, ⟨0, if n = 14 then [0] else [], if n = 10 then some ⟨true, true, "timed out"⟩ else none⟩),
      (false, ⟨0, [], none⟩)]

def hitsRun :
    Pool Fx Bool (Unit × Link Fx Bool Beat (String × String → Int)) (Unit × Bool) (Except String Unit) :=
  afterBeats hitsLib ⟨hitsTable, 0, false⟩ integers linkUp hitsFleet (fun _ => ()) () (fun _ => 0)
    hitsSchedule

private theorem hits_count :
    OnlyCount hitsLib ⟨hitsTable, 0, false⟩ hitsFleet "redis://cache" "hits" := by
  intro i _ call hcall _ c hread _
  have haction : call.action = "increment" := by
    simp only [hitsFleet, List.mem_cons, Except.ok.injEq, reduceCtorEq, WireRequest.call.injEq,
      List.not_mem_nil, or_false, false_or, or_self] at hcall
    rw [hcall]
  rw [haction] at hread
  exact .inr (Except.ok.inj hread).symm

/-- Two sessions taking turns on one counter never get one number twice. -/
theorem counter_loses_nothing_hits :
    (∀ i, (numbers "hits" (hitsRun.party i).log).Pairwise (· < ·)) ∧
      ∀ n ∈ numbers "hits" (hitsRun.party true).log, n ∉ numbers "hits" (hitsRun.party false).log := by
  have h := counter_loses_nothing linkUp (fun _ => ()) () (fun _ => 0)
    (integers_count "redis://cache" "hits") hits_count hitsSchedule
  exact ⟨fun i => h.1 i rfl, h.2.1 true false (by decide) rfl rfl⟩

example : numbers "hits" (hitsRun.party true).log = [3] ∧
    numbers "hits" (hitsRun.party false).log = [1, 4] := by decide +kernel

end Fabricd
