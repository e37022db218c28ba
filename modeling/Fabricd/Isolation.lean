import Fabricd.Lockout

/-!
# Sessions on other servers

The breaker's key names one host and one port, so a session notices nothing of the sessions
whose `db` binding is elsewhere.
-/

namespace Fabricd

open Framework ClientAuth Db

/-! ## The key -/

private theorem append_separator_inj {α : Type} {sep : α} {xs xs' ds ds' : List α}
    (h : xs ++ sep :: ds = xs' ++ sep :: ds') (hds : sep ∉ ds) (hds' : sep ∉ ds') :
    xs = xs' ∧ ds = ds' := by
  rcases List.append_eq_append_iff.mp h with ⟨mid, rfl, hmid⟩ | ⟨mid, rfl, hmid⟩
  · cases mid with
    | nil => exact ⟨(List.append_nil _).symm, (List.cons.inj hmid).2⟩
    | cons c mid =>
      obtain ⟨-, rfl⟩ := List.cons.inj hmid
      exact absurd (List.mem_append_right _ List.mem_cons_self) hds
  · cases mid with
    | nil => exact ⟨List.append_nil _, (List.cons.inj hmid).2.symm⟩
    | cons c mid =>
      obtain ⟨-, rfl⟩ := List.cons.inj hmid
      exact absurd (List.mem_append_right _ List.mem_cons_self) hds'

private theorem breakerTarget_toList (config : DbConfig) : (breakerTarget config).toList =
    config.host.toList ++ ':' :: Nat.toDigits 10 config.port.toNat := by
  have hport : toString config.port = config.port.toNat.repr := rfl
  unfold breakerTarget
  simp only [String.toList_append, hport, Nat.toList_repr]
  simp [toString]

private theorem colon_not_mem_toDigits (n : Nat) : ':' ∉ Nat.toDigits 10 n := by
  intro hmem
  have hdigit := Nat.isDigit_of_mem_toDigits (by decide) (by decide) hmem
  revert hdigit
  decide

/-- The key is one host and one port, whatever the host. -/
theorem breakerTarget_inj {config config' : DbConfig} :
    breakerTarget config = breakerTarget config' ↔
      config.host = config'.host ∧ config.port = config'.port := by
  constructor
  · intro h
    have hlist := congrArg String.toList h
    rw [breakerTarget_toList, breakerTarget_toList] at hlist
    obtain ⟨hhost, hport⟩ := append_separator_inj hlist (colon_not_mem_toDigits _)
      (colon_not_mem_toDigits _)
    refine ⟨String.toList_injective hhost, UInt16.toNat_inj.mp ?_⟩
    have hparsed := congrArg (fun digits => Nat.ofDigitChars 10 digits 0) hport
    simpa using hparsed
  · rintro ⟨hhost, hport⟩
    unfold breakerTarget
    rw [hhost, hport]

/-! ## The sessions that share it -/

/-- The host and the port of a session's `db` binding. -/
def Session.server (shared : Shared) (session : Session) : Option (String × UInt16) :=
  (session.wired shared).db.map fun slot => (slot.config.host, slot.config.port)

/-- The session itself, and those whose `db` binding has its host and its port. -/
def Shares {ι : Type} (shared : Shared) (sessions : ι → Session) (s i : ι) : Prop :=
  i = s ∨ ((sessions i).server shared).isSome ∧
    (sessions i).server shared = (sessions s).server shared

instance {ι : Type} [DecidableEq ι] (shared : Shared) (sessions : ι → Session) (s : ι) :
    DecidablePred (Shares shared sessions s) :=
  fun i => inferInstanceAs (Decidable (i = s ∨ ((sessions i).server shared).isSome ∧
    (sessions i).server shared = (sessions s).server shared))

/-- A request to the breaker names the target of the session's own binding. -/
def OwnTarget (shared : Shared) (session : Session) (op : FxOp) : Prop :=
  ∀ key, (op.call = .breakerAllow key ∨ ∃ ok, op.call = .breakerRecord key ok) →
    ∃ slot, (session.wired shared).db = some slot ∧ key = breakerTarget slot.config

private theorem Session.program_only (lib : Lib) (shared : Shared) (session : Session) :
    (session.program lib shared).Only (OwnTarget shared session) := by
  have hanswers : ∀ op, Nonempty (Fx.Ans op) := fun op => ⟨(default : op.call.Ans)⟩
  refine Prog.only_of_steps fun es q hs e he key hkey => ?_
  have hlane := (serve_lanes lib shared session.authenticator hs).db
  have hmine : e.op.call.capability = some .db ∧ e.op.call.attempt = true := by
    rcases hkey with hcall | ⟨ok, hcall⟩ <;> rw [hcall] <;> exact ⟨rfl, rfl⟩
  obtain ⟨slot, hslot, hconnects⟩ := hlane.connects he hmine.1 hmine.2
  refine ⟨slot, hslot, ?_⟩
  rcases hkey with hcall | ⟨ok, hcall⟩ <;> rw [hcall] at hconnects <;> exact hconnects

/-- A breaker whose keys do not meet: what it answers and keeps of a key is a function of
what it kept of that key. -/
structure KeyLocal {B : Type} (breaker : CircuitBreaker B) where
  State : Type
  view : B → String → State
  allow_own : ∀ t key b b', view b key = view b' key →
    (breaker.allow t key b).1 = (breaker.allow t key b').1 ∧
      view (breaker.allow t key b).2 key = view (breaker.allow t key b').2 key
  record_own : ∀ t key ok b b', view b key = view b' key →
    view (breaker.record t key ok b) key = view (breaker.record t key ok b') key
  allow_other : ∀ t key b key', key' ≠ key → view (breaker.allow t key b).2 key' = view b key'
  record_other : ∀ t key ok b key', key' ≠ key →
    view (breaker.record t key ok b) key' = view b key'

section

variable {ι B W : Type} {breaker : CircuitBreaker B} (keys : KeyLocal breaker)
  (script : Script W) (lib : Lib) (shared : Shared) (sessions : ι → Session) (worlds : ι → W)
  (store : Store B) (s : ι) (schedule : List (ι × Instant))

/-- Two stores look alike to a session: at the target of its binding. -/
def Alike (session : Session) (store store' : Store B) : Prop :=
  ∀ slot, (session.wired shared).db = some slot →
    keys.view store.breaker (breakerTarget slot.config) =
      keys.view store'.breaker (breakerTarget slot.config)

variable {keys script shared sessions s}

private theorem target_of_shares {i : ι} (h : Shares shared sessions s i) {slot slot' : DbSlot}
    (hslot : ((sessions s).wired shared).db = some slot)
    (hslot' : ((sessions i).wired shared).db = some slot') :
    breakerTarget slot'.config = breakerTarget slot.config := by
  rcases h with rfl | ⟨-, hsame⟩
  · rw [hslot] at hslot'
    cases hslot'
    rfl
  · unfold Session.server at hsame
    rw [hslot, hslot'] at hsame
    have hpair := Option.some.inj hsame
    exact breakerTarget_inj.mpr ⟨congrArg Prod.fst hpair, congrArg Prod.snd hpair⟩

private theorem target_of_not_shares {i : ι} (h : ¬ Shares shared sessions s i)
    {slot slot' : DbSlot}
    (hslot : ((sessions s).wired shared).db = some slot)
    (hslot' : ((sessions i).wired shared).db = some slot') :
    breakerTarget slot.config ≠ breakerTarget slot'.config := by
  intro hsame
  obtain ⟨hhost, hport⟩ := breakerTarget_inj.mp hsame
  refine h (.inr ⟨?_, ?_⟩)
  · unfold Session.server
    rw [hslot']
    rfl
  · unfold Session.server
    rw [hslot, hslot', Option.map_some, Option.map_some, hhost, hport]

private theorem alike_elsewhere {i : ι} {t : Instant} {store store' : Store B} {w : W} {op : FxOp}
    (hi : ¬ Shares shared sessions s i) (hop : OwnTarget shared (sessions i) op)
    (h : Alike keys shared (sessions s) store store') :
    Alike keys shared (sessions s) (daemon breaker script t store w op).2.1 store' := by
  intro slot hslot
  obtain ⟨call, budget⟩ := op
  rw [daemon_breaker]
  cases call with
  | breakerAllow key =>
    obtain ⟨slot', hslot', rfl⟩ := hop key (.inl rfl)
    exact (keys.allow_other _ _ _ _ (target_of_not_shares hi hslot hslot')).trans (h slot hslot)
  | breakerRecord key ok =>
    obtain ⟨slot', hslot', rfl⟩ := hop key (.inr ⟨ok, rfl⟩)
    exact (keys.record_other _ _ _ _ _ (target_of_not_shares hi hslot hslot')).trans (h slot hslot)
  | _ => exact h slot hslot

private theorem alike_sharing {i : ι} {t : Instant} {store store' : Store B} {w : W} {op : FxOp}
    (hi : Shares shared sessions s i) (hop : OwnTarget shared (sessions i) op)
    (h : Alike keys shared (sessions s) store store') :
    (daemon breaker script t store w op).1 = (daemon breaker script t store' w op).1 ∧
      (daemon breaker script t store w op).2.2 = (daemon breaker script t store' w op).2.2 ∧
      Alike keys shared (sessions s) (daemon breaker script t store w op).2.1
        (daemon breaker script t store' w op).2.1 := by
  obtain ⟨call, budget⟩ := op
  have hown {key : String} {slot' : DbSlot} (hslot' : ((sessions i).wired shared).db = some slot')
      (hkey : key = breakerTarget slot'.config) :
      keys.view store.breaker key = keys.view store'.breaker key ∧
        ∀ slot, ((sessions s).wired shared).db = some slot → breakerTarget slot.config = key := by
    subst hkey
    refine ⟨?_, fun slot hslot => (target_of_shares hi hslot hslot').symm⟩
    rcases hi with rfl | ⟨-, hsame⟩
    · exact h slot' hslot'
    · cases hslot : ((sessions s).wired shared).db with
      | none =>
        unfold Session.server at hsame
        rw [hslot, hslot'] at hsame
        cases hsame
      | some slot =>
        rw [target_of_shares (.inr ⟨by unfold Session.server; rw [hslot']; rfl, hsame⟩) hslot hslot']
        exact h slot hslot
  cases call with
  | breakerAllow key =>
    obtain ⟨slot', hslot', hkey⟩ := hop key (.inl rfl)
    obtain ⟨hview, htarget⟩ := hown hslot' hkey
    obtain ⟨hanswer, hkept⟩ := keys.allow_own t key _ _ hview
    refine ⟨hanswer, rfl, fun slot hslot => ?_⟩
    rw [htarget slot hslot]
    exact hkept
  | breakerRecord key ok =>
    obtain ⟨slot', hslot', hkey⟩ := hop key (.inr ⟨ok, rfl⟩)
    obtain ⟨hview, htarget⟩ := hown hslot' hkey
    refine ⟨rfl, rfl, fun slot hslot => ?_⟩
    rw [htarget slot hslot]
    exact keys.record_own t key ok _ _ hview
  | _ => exact ⟨rfl, rfl, h⟩

variable (script shared sessions s)

/-- Isolation. Under every schedule a session, with its transcript and its world, is what it
is once the turns of all sessions with a `db` binding elsewhere are taken out; and bindings
are elsewhere for the breaker exactly if their host or their port differs. -/
theorem session_isolation [DecidableEq ι] (keys : KeyLocal breaker) :
    ((launch lib shared sessions worlds store).exec (daemon breaker script) schedule).party s =
        ((launch lib shared sessions worlds store).exec (daemon breaker script)
          (schedule.filter fun turn => Shares shared sessions s turn.1)).party s ∧
      ∀ config config', breakerTarget config = breakerTarget config' ↔
        config.host = config'.host ∧ config.port = config'.port := by
  refine ⟨?_, fun _ _ => breakerTarget_inj⟩
  refine Pool.exec_filter (Shares shared sessions s) (P := fun i => OwnTarget shared (sessions i))
    (V := Alike keys shared (sessions s)) ?_ ?_ ?_ ?_ ?_ schedule (.inl rfl)
  · exact fun hi hop h => alike_elsewhere hi hop h
  · exact fun hi hop h => alike_sharing hi hop h
  · exact fun i => (sessions i).program_only lib shared
  · exact fun _ _ => rfl
  · exact fun _ _ => rfl

end

def trippingKeys (threshold cooldown : Nat) : KeyLocal (tripping threshold cooldown) where
  State := Nat × Instant
  view b key := b key
  allow_own t key b b' h := by
    have hsame : b key = b' key := h
    exact ⟨by simp only [tripping, hsame], h⟩
  record_own t key ok b b' h := by
    have hsame : b key = b' key := h
    simp only [tripping, Function.update_self, hsame]
  allow_other _ _ _ _ _ := rfl
  record_other t key ok b key' h := Function.update_of_ne h _ _

/-- Tenant `b` on host `::1` does not notice tenant `a` on host `::`. -/
theorem session_isolation_hosts :
    let start := launch Lib.rejecting ⟨rotatedTable "::" "::1", 0, true⟩ rotatedFleet (fun _ => ())
      ⟨fun _ => (0, 0), 0⟩
    let H := daemon (tripping 1 5000) (answering acceptsOrders)
    (start.exec H rotatedSchedule).party true =
      (start.exec H (List.replicate 6 (true, 1))).party true :=
  (session_isolation (answering acceptsOrders) Lib.rejecting ⟨rotatedTable "::" "::1", 0, true⟩
    rotatedFleet (fun _ => ()) ⟨fun _ => (0, 0), 0⟩ true rotatedSchedule (trippingKeys 1 5000)).1

end Fabricd
