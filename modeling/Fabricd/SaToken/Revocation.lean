import Fabricd.Framework.Trace
import Fabricd.SaToken.Refresh

/-!
# Checks against the refresh task

The refresh task swaps the cache while any number of checks read it. Each check is one of the
abstract cache, after the sets that were swapped in before it looked.
-/

namespace Fabricd.SaToken

open Framework

variable {jwt : Jwt}

/-! ## A check -/

/-- The verifier with these keys cached. -/
def holding (jwt : Jwt) (config : SaTokenVerifyConfig) (keys : Option (KeyMap jwt)) : JwksVerifier jwt :=
  { keys, audience := config.audience, issuer := config.issuer }

/-- What `verify` does once it has the keys. -/
def checkWith (jwt : Jwt) (config : SaTokenVerifyConfig) (token kid : String)
    (keys : Option (KeyMap jwt)) : Prog (JwksFx jwt) (Except VerifyError Unit) :=
  match keys with
  | none => return .error .keysNotLoaded
  | some map =>
    match map kid with
    | none => return .error .unknownKid
    | some key => do
      let now : Nat ← Prog.perform (S := JwksFx jwt) .now
      return match jwt.decode now token key (holding jwt config keys).validation with
        | .error err => .error (.invalid err)
        | .ok _ => .ok ()

/-- `JwksVerifier::verify`: the key is cloned out of the locked cache, then the token decoded. -/
def verifyTask (jwt : Jwt) (config : SaTokenVerifyConfig) (token : String) :
    Prog (JwksFx jwt) (Except VerifyError Unit) :=
  match jwt.decodeHeader token with
  | .error err => return .error (.invalid err)
  | .ok header =>
    match header.kid with
    | none => return .error .missingKid
    | some kid => do
      let keys : Option (KeyMap jwt) ← Prog.perform (S := JwksFx jwt) .read
      checkWith jwt config token kid keys

section

variable {config : SaTokenVerifyConfig} {token : String} {log : List (Event (JwksFx jwt))}
  {r : Except VerifyError Unit}

private theorem checkWith_returns {header : Header} {kid : String} {keys : Option (KeyMap jwt)}
    (hheader : jwt.decodeHeader token = .ok header) (hkid : header.kid = some kid)
    (hs : Prog.Steps (checkWith jwt config token kid keys) log (.ret r)) :
    ∃ now, r = (holding jwt config keys).verify now token := by
  unfold checkWith at hs
  unfold JwksVerifier.verify
  simp only [hheader, hkid]
  cases keys with
  | none =>
    obtain ⟨-, hr⟩ := Prog.steps_ret hs
    exact ⟨0, Prog.ret.inj hr⟩
  | some map =>
    simp only [holding] at hs ⊢
    cases hkey : map kid with
    | none =>
      simp only [hkey] at hs
      obtain ⟨-, hr⟩ := Prog.steps_ret hs
      exact ⟨0, Prog.ret.inj hr⟩
    | some key =>
      simp only [hkey] at hs
      cases hs with
      | @act _ _ now log _ hs =>
        obtain ⟨-, hr⟩ := Prog.steps_ret hs
        exact ⟨now, Prog.ret.inj hr⟩

/-- A check returns what the verifier says with the keys it has read; it reads none only if the
token's header settles it. -/
theorem verifyTask_returns (hs : Prog.Steps (verifyTask jwt config token) log (.ret r)) :
    (log = [] ∧ ∀ keys now, r = (holding jwt config keys).verify now token) ∨
      ∃ keys now, ⟨.read, keys⟩ ∈ log ∧ r = (holding jwt config keys).verify now token := by
  unfold verifyTask at hs
  split at hs
  next err hheader =>
    obtain ⟨rfl, hr⟩ := Prog.steps_ret hs
    cases hr
    exact .inl ⟨rfl, fun keys now => by simp [JwksVerifier.verify, hheader]⟩
  next header hheader =>
    split at hs
    next hkid =>
      obtain ⟨rfl, hr⟩ := Prog.steps_ret hs
      cases hr
      exact .inl ⟨rfl, fun keys now => by simp [JwksVerifier.verify, hheader, hkid]⟩
    next kid hkid =>
      cases hs with
      | @act _ _ keys log _ hs =>
        obtain ⟨now, hr⟩ := checkWith_returns hheader hkid hs
        exact .inr ⟨keys, now, List.mem_cons_self, hr⟩

def isWrite : JwksOp jwt → Bool
  | .write _ => true
  | _ => false

private theorem verifyTask_only :
    (verifyTask jwt config token).Only fun op => isWrite op = false := by
  unfold verifyTask
  split
  · trivial
  · split
    · trivial
    · refine ⟨rfl, fun keys => ?_⟩
      show (checkWith jwt config token _ keys).Only _
      unfold checkWith
      split
      · trivial
      · split
        · trivial
        · exact ⟨rfl, fun now => trivial⟩

end

/-! ## The cache between them -/

/-- What answers the requests of one party but for the cache and the clock. -/
abbrev JwksScript (jwt : Jwt) (W : Type) := Nat → W → (op : JwksOp jwt) → op.Ans × W

/-- The cache of the verifier, locked for each access. -/
def cached {W : Type} (script : JwksScript jwt W) : Handler (JwksFx jwt) Nat (Option (KeyMap jwt)) W
  | _, keys, w, .read => (keys, keys, w)
  | _, _, w, .write map => ((), some map, w)
  | t, keys, w, .now => (t, keys, w)
  | t, keys, w, op => ((script t w op).1, keys, (script t w op).2)

instance (op : JwksOp jwt) : Inhabited op.Ans := by
  cases op with
  | write map => exact ⟨()⟩
  | sleep interval => exact ⟨()⟩
  | read => exact ⟨(none : Option (KeyMap jwt))⟩
  | now => exact ⟨(0 : Nat)⟩
  | send url => exact ⟨(Except.error "" : Except String Response)⟩
  | jsonValue response => exact ⟨(Except.error "" : Except String Json)⟩
  | jsonSet response => exact ⟨(Except.error "" : Except String JwkSet)⟩

def isCached : JwksOp jwt → Bool
  | .read | .write _ => true
  | _ => false

section

variable {κ W : Type} [DecidableEq κ]

/-- The cache as one object of the parties. -/
def keyCache (jwt : Jwt) (κ : Type) : Object (JwksFx jwt) (Option κ) Nat (Option (KeyMap jwt)) where
  mine := isCached
  serve _ t keys op :=
    let answer := cached (fun _ (_ : Unit) (op : JwksOp jwt) => ((default : op.Ans), ())) t keys () op
    (answer.1, answer.2.1)

omit [DecidableEq κ] in
theorem cached_mine {script : JwksScript jwt W} {i : Option κ} {t : Nat} {s : Option (KeyMap jwt)}
    {w : W} {op : JwksOp jwt} (hop : isCached op = true) :
    (cached script t s w op).1 = ((keyCache jwt κ).serve i t s op).1 ∧
      (cached script t s w op).2.1 = ((keyCache jwt κ).serve i t s op).2 := by
  cases op with
  | read | write _ => exact ⟨rfl, rfl⟩
  | _ => cases hop

private theorem cached_other {script : JwksScript jwt W} {t : Nat} {s : Option (KeyMap jwt)} {w : W}
    {op : JwksOp jwt} (hop : isCached op = false) : (cached script t s w op).2.1 = s := by
  cases op with
  | write map => cases hop
  | _ => rfl

omit [DecidableEq κ] in
theorem replays_swaps {d d' : Option (KeyMap jwt)} {ms : List (Moment (JwksFx jwt) (Option κ) Nat)}
    (h : (keyCache jwt κ).Replays d ms d') :
    d' = ((ms.filterMap fun m => swap m.event).getLast?).or d := by
  induction ms generalizing d with
  | nil => exact h
  | cons m ms ih =>
    obtain ⟨-, hrest⟩ := h
    have hserve : ((keyCache jwt κ).serve m.party m.time d m.event.op).2 = (swap m.event).or d := by
      obtain ⟨party, time, op, ans⟩ := m
      cases op <;> rfl
    rw [hserve] at hrest
    have hlater := ih hrest
    cases hswap : swap m.event with
    | none =>
      simp only [List.filterMap_cons, hlater, hswap]
      rfl
    | some map =>
      simp only [List.filterMap_cons, List.getLast?_cons, hlater, hswap]
      cases (ms.filterMap fun m => swap m.event).getLast? <;> rfl

variable (jwt) (config : SaTokenVerifyConfig) (rounds : Nat) (tokens : κ → String)

/-- The refresh task, and the checks of some tokens; the task has no result. -/
def party : Option κ → Prog (JwksFx jwt) (Except VerifyError Unit)
  | none => refreshTask config rounds >>= fun _ => .ret (.ok ())
  | some k => verifyTask jwt config (tokens k)

def spawned (worlds : Option κ → W) :
    Pool (JwksFx jwt) (Option κ) (Option (KeyMap jwt)) W (Except VerifyError Unit) where
  store := none
  party i := ⟨party jwt config rounds tokens i, worlds i, []⟩

variable {jwt config rounds tokens} {worlds : Option κ → W} {script : JwksScript jwt W}
  {schedule : List (Option κ × Nat)}

private theorem spawned_steps (schedule : List (Option κ × Nat)) (i : Option κ) :
    Prog.Steps (party jwt config rounds tokens i)
      (((spawned jwt config rounds tokens worlds).exec (cached script) schedule).party i).log
      (((spawned jwt config rounds tokens worlds).exec (cached script) schedule).party i).rest := by
  obtain ⟨es, hlog, hrun⟩ :=
    (spawned jwt config rounds tokens worlds).exec_steps (H := cached script) i schedule
  rw [hlog]
  exact hrun

private theorem party_before {before after : List (Moment (JwksFx jwt) (Option κ) Nat)}
    (h : (spawned jwt config rounds tokens worlds).trace (cached script) schedule = before ++ after)
    (i : Option κ) :
    ∃ q, Prog.Steps (party jwt config rounds tokens i) (Pool.eventsOf i before) q := by
  have hsteps : Prog.Steps (party jwt config rounds tokens i)
      (((spawned jwt config rounds tokens worlds).exec (cached script) schedule).party i).log _ :=
    spawned_steps schedule i
  have hlog : (((spawned jwt config rounds tokens worlds).exec (cached script) schedule).party i).log =
      Pool.eventsOf i before ++ Pool.eventsOf i after := by
    rw [Pool.trace_log, h, Pool.eventsOf_append]
    exact List.nil_append _
  rw [hlog] at hsteps
  obtain ⟨q, hbefore, -⟩ := hsteps.cut
  exact ⟨q, hbefore⟩

private theorem swaps_before {before after : List (Moment (JwksFx jwt) (Option κ) Nat)}
    (h : (spawned jwt config rounds tokens worlds).trace (cached script) schedule = before ++ after) :
    (before.filterMap fun m => swap m.event) = swaps (Pool.eventsOf none before) := by
  have honly : ∀ m ∈ before, m.party ≠ none → swap m.event = none := by
    rintro ⟨i, t, e⟩ hm hi
    cases i with
    | none => exact absurd rfl hi
    | some k =>
      obtain ⟨q, hs⟩ := party_before h (some k)
      have he : e ∈ Pool.eventsOf (some k) before := Pool.mem_eventsOf.mpr ⟨_, hm, rfl, rfl⟩
      have hquiet := ((verifyTask_only).steps hs).1 e he
      obtain ⟨op, ans⟩ := e
      cases op with
      | write map => cases hquiet
      | _ => rfl
  clear h
  induction before with
  | nil => rfl
  | cons m before ih =>
    have hrest := ih fun m' hm' => honly m' (List.mem_cons_of_mem _ hm')
    by_cases hm : m.party = none
    · have hcons : Pool.eventsOf none (m :: before) = m.event :: Pool.eventsOf none before := by
        simp [Pool.eventsOf, hm]
      unfold swaps at hrest ⊢
      rw [hcons, List.filterMap_cons, List.filterMap_cons, hrest]
    · have hcons : Pool.eventsOf none (m :: before) = Pool.eventsOf none before := by
        simp [Pool.eventsOf, hm]
      have hnone := honly m List.mem_cons_self hm
      simp only [hcons, List.filterMap_cons, hnone, hrest]

private theorem reads_before {before after : List (Moment (JwksFx jwt) (Option κ) Nat)}
    {m : Moment (JwksFx jwt) (Option κ) Nat} {keys : Option (KeyMap jwt)}
    (h : (spawned jwt config rounds tokens worlds).trace (cached script) schedule = before ++ m :: after)
    (hm : m.event = ⟨.read, keys⟩) :
    ∃ sets rest, fetchedSets (Pool.eventsOf none before) = sets ++ rest ∧ rest.length ≤ 1 ∧
      (∀ set ∈ sets, Fetched config (.ofLog (Pool.eventsOf none before)) set) ∧
      keys = (sets.map (buildKeyMap jwt)).getLast? := by
  have hall := Pool.exec_replays (spawned jwt config rounds tokens worlds) (H := cached script)
    (V := id) (O := keyCache jwt κ)
    (C := fun _ _ => True) (fun _ hop => cached_mine hop) (fun hop => cached_other hop)
    (fun _ => trivial) (fun _ => trivial) schedule
  have hmine : isCached m.event.op = true := by rw [hm]; rfl
  have hown : (keyCache jwt κ).own (m :: after) = m :: (keyCache jwt κ).own after :=
    List.filter_cons_of_pos hmine
  rw [h, Object.own_append, hown] at hall
  obtain ⟨d, hbefore, hans, -⟩ := Object.replays_append.mp hall
  have hkeys : d = keys := by
    rw [hm] at hans
    exact hans
  have hdropped : (((keyCache jwt κ).own before).filterMap fun m => swap m.event) =
      before.filterMap fun m => swap m.event := by
    unfold Object.own
    rw [List.filterMap_filter]
    congr 1
    funext m
    obtain ⟨party, time, op, ans⟩ := m
    cases op <;> rfl
  have hlast := replays_swaps hbefore
  rw [hdropped, swaps_before h, hkeys] at hlast
  obtain ⟨q, hs⟩ := party_before h none
  have hmeets : Prog.Meets (protocol jwt config) (fun _ _ => True) .begun
      (party jwt config rounds tokens none) :=
    Prog.Meets.bind (refreshTask_meets rounds) fun _ _ _ => trivial
  have haccepts := (hmeets.steps hs).1
  obtain ⟨sets, hsets, hswaps⟩ := accepted_swaps haccepts
  have hserved := fetchedSets_fetched haccepts
  have hall : fetchedSets (Pool.eventsOf none before) = sets ++ _ := hsets
  refine ⟨sets, _, hall, ?_, fun set hset => hserved set ?_, ?_⟩
  · cases (protocol jwt config).after .begun (Pool.eventsOf none before) <;> simp [Stage.pending]
  · rw [hall]
    exact List.mem_append_left _ hset
  · rw [hlast, hswaps]
    exact Option.or_none

/-- The rounds of the abstract cache that bring these sets. -/
def roundsOf (sets : List JwkSet) : List CacheStep := sets.map fun set => .refresh (.ok set)

private theorem lastFetched_roundsOf (sets : List JwkSet) :
    lastFetched (roundsOf sets) = sets.getLast? := by
  induction sets using List.reverseRecOn with
  | nil => rfl
  | append_singleton sets set ih =>
    have hconcat : roundsOf (sets ++ [set]) = roundsOf sets ++ [.refresh (.ok set)] := by simp [roundsOf]
    rw [hconcat, lastFetched_concat]
    simp

private theorem holding_roundsOf (sets : List JwkSet) :
    holding jwt config ((sets.map (buildKeyMap jwt)).getLast?) =
      afterSteps jwt config.audience config.issuer (roundsOf sets) := by
  have hkeys : (afterSteps jwt config.audience config.issuer (roundsOf sets)).keys = _ :=
    keys_afterSteps config.audience config.issuer (roundsOf sets)
  have hclaims (steps : List CacheStep) :
      (afterSteps jwt config.audience config.issuer steps).audience = config.audience ∧
        (afterSteps jwt config.audience config.issuer steps).issuer = config.issuer := by
    induction steps using List.reverseRecOn with
    | nil => exact ⟨rfl, rfl⟩
    | append_singleton steps step ih =>
      rw [afterSteps_concat]
      cases step with
      | verify now token => exact ih
      | refresh fetched => cases fetched <;> exact ih
  rw [lastFetched_roundsOf] at hkeys
  obtain ⟨haudience, hissuer⟩ := hclaims (roundsOf sets)
  rw [List.getLast?_map, ← hkeys]
  cases hverifier : afterSteps jwt config.audience config.issuer (roundsOf sets) with
  | mk keys audience issuer =>
    rw [hverifier] at haudience hissuer
    cases haudience
    cases hissuer
    rfl

end

end Fabricd.SaToken
