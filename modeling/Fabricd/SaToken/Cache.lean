import Fabricd.SaToken.Verifier
import Mathlib.Data.List.Induction

/-!
# The key cache over a run

Abstractly the cache is the last fetched set. After any mix of refresh rounds and
verifications it holds the keys of exactly that set, and nothing before the first one.
-/

namespace Fabricd.SaToken

variable {jwt : Jwt}

/-! ## The keys of one set -/

/-- The key an entry contributes under a `kid`. -/
def usableKey (jwt : Jwt) (kid : String) (jwk : Jwk) : Option jwt.DecodingKey :=
  if jwk.keyId = some kid then (jwt.fromJwk jwk).toOption else none

/-- The key of the last entry with this `kid` that converts. -/
def lastConvertible (jwt : Jwt) (kid : String) (keys : List Jwk) : Option jwt.DecodingKey :=
  keys.reverse.findSome? (usableKey jwt kid)

/-- An entry without `kid` or that fails conversion. -/
def Unusable (jwt : Jwt) (jwk : Jwk) : Prop :=
  jwk.keyId = none ∨ ∃ err, jwt.fromJwk jwk = .error err

private theorem insertKey_apply (map : KeyMap jwt) (jwk : Jwk) (kid : String) :
    insertKey jwt map jwk kid = (usableKey jwt kid jwk).or (map kid) := by
  unfold insertKey usableKey
  cases hid : jwk.keyId with
  | none => simp
  | some id =>
    cases hkey : jwt.fromJwk jwk with
    | error err =>
      by_cases hkid : id = kid
      · simp [hkid, Except.toOption]
      · simp [hkid]
    | ok key =>
      by_cases hkid : id = kid
      · subst hkid
        simp [Except.toOption]
      · have hne : kid ≠ id := fun h => hkid h.symm
        simp [hkid, hne]

private theorem foldl_insertKey (keys : List Jwk) (map : KeyMap jwt) (kid : String) :
    keys.foldl (insertKey jwt) map kid = (lastConvertible jwt kid keys).or (map kid) := by
  induction keys generalizing map with
  | nil => rfl
  | cons jwk keys ih =>
    rw [List.foldl_cons, ih, insertKey_apply]
    unfold lastConvertible
    rw [List.reverse_cons, List.findSome?_append, Option.or_assoc]
    simp

/-- `build_key_map` keeps, for each `kid`, its last convertible entry. -/
theorem buildKeyMap_apply (set : JwkSet) (kid : String) :
    buildKeyMap jwt set kid = lastConvertible jwt kid set.keys := by
  unfold buildKeyMap
  rw [foldl_insertKey, Option.or_none]

private theorem insertKey_unusable {jwk : Jwk} (h : Unusable jwt jwk) (map : KeyMap jwt) :
    insertKey jwt map jwk = map := by
  unfold insertKey
  rcases h with hid | ⟨err, herr⟩
  · rw [hid]
  · cases jwk.keyId with
    | none => rfl
    | some kid =>
      simp only [herr]

private theorem buildKeyMap_unusable {jwk : Jwk} (h : Unusable jwt jwk) (before after : List Jwk) :
    buildKeyMap jwt ⟨before ++ jwk :: after⟩ = buildKeyMap jwt ⟨before ++ after⟩ := by
  unfold buildKeyMap
  rw [List.foldl_append, List.foldl_cons, insertKey_unusable h, List.foldl_append]

private theorem lastConvertible_eq_none {kid : String} {keys : List Jwk}
    (h : ∀ jwk ∈ keys, jwk.keyId = some kid → ∃ err, jwt.fromJwk jwk = .error err) :
    lastConvertible jwt kid keys = none := by
  unfold lastConvertible
  rw [List.findSome?_eq_none_iff]
  intro jwk hmem
  unfold usableKey
  by_cases hid : jwk.keyId = some kid
  · obtain ⟨err, herr⟩ := h jwk (List.mem_reverse.mp hmem) hid
    simp [herr, Except.toOption]
  · simp [hid]

/-! ## Runs -/

/-- A step of the verifier: a refresh round with what the fetch brought, or a check. -/
inductive CacheStep where
  | refresh (fetched : Except String JwkSet)
  | verify (now : Nat) (token : String)

def JwksVerifier.step (self : JwksVerifier jwt) : CacheStep → JwksVerifier jwt
  | .refresh fetched => self.refresh fetched
  | .verify _ _ => self

def lastFetched (steps : List CacheStep) : Option JwkSet :=
  steps.foldl (fun last step =>
    match step with
    | .refresh (.ok set) => some set
    | .refresh (.error _) | .verify _ _ => last) none

def JwksVerifier.fresh (jwt : Jwt) (audience issuer : String) : JwksVerifier jwt :=
  { keys := none, audience, issuer }

def afterSteps (jwt : Jwt) (audience issuer : String) (steps : List CacheStep) :
    JwksVerifier jwt :=
  steps.foldl JwksVerifier.step (.fresh jwt audience issuer)

theorem lastFetched_concat (steps : List CacheStep) (step : CacheStep) :
    lastFetched (steps ++ [step]) =
      match step with
      | .refresh (.ok set) => some set
      | .refresh (.error _) | .verify _ _ => lastFetched steps := by
  unfold lastFetched
  rw [List.foldl_append]
  rfl

/-- One step keeps the cache equal to the keys of the last fetched set. -/
theorem keys_step {verifier : JwksVerifier jwt} {steps : List CacheStep}
    (h : verifier.keys = (lastFetched steps).map (buildKeyMap jwt)) (step : CacheStep) :
    (verifier.step step).keys = (lastFetched (steps ++ [step])).map (buildKeyMap jwt) := by
  rw [lastFetched_concat]
  cases step with
  | verify now token => exact h
  | refresh fetched =>
    cases fetched with
    | ok set => rfl
    | error err => exact h

theorem afterSteps_concat (audience issuer : String) (steps : List CacheStep)
    (step : CacheStep) :
    afterSteps jwt audience issuer (steps ++ [step]) =
      (afterSteps jwt audience issuer steps).step step := by
  unfold afterSteps
  rw [List.foldl_append]
  rfl

/-- The cache after a run: the keys of the last fetched set, or nothing yet. -/
theorem keys_afterSteps (audience issuer : String) (steps : List CacheStep) :
    (afterSteps jwt audience issuer steps).keys =
      (lastFetched steps).map (buildKeyMap jwt) := by
  induction steps using List.reverseRecOn with
  | nil => rfl
  | append_singleton steps step ih =>
    rw [afterSteps_concat]
    exact keys_step ih step

theorem verify_ok {verifier : JwksVerifier jwt} {now : Nat} {token : String}
    (h : verifier.verify now token = .ok ()) :
    ∃ header kid map key claims, jwt.decodeHeader token = .ok header ∧ header.kid = some kid ∧
      verifier.keys = some map ∧ map kid = some key ∧
      jwt.decode now token key verifier.validation = .ok claims := by
  unfold JwksVerifier.verify at h
  cases hheader : jwt.decodeHeader token with
  | error err => simp [hheader] at h
  | ok header =>
    cases hkid : header.kid with
    | none => simp [hheader, hkid] at h
    | some kid =>
      cases hmap : verifier.keys with
      | none => simp [hheader, hkid, hmap] at h
      | some map =>
        cases hkey : map kid with
        | none => simp [hheader, hkid, hmap, hkey] at h
        | some key =>
          cases hdecode : jwt.decode now token key verifier.validation with
          | error err => simp [hheader, hkid, hmap, hkey, hdecode] at h
          | ok claims =>
            exact ⟨header, kid, map, key, claims, rfl, hkid, rfl, hkey, hdecode⟩

/-- Acceptance after a run rests on the last fetched set alone. -/
theorem verify_afterSteps {audience issuer : String} {steps : List CacheStep} {now : Nat}
    {token : String} (h : (afterSteps jwt audience issuer steps).verify now token = .ok ()) :
    ∃ set header kid key claims, lastFetched steps = some set ∧
      jwt.decodeHeader token = .ok header ∧ header.kid = some kid ∧
      lastConvertible jwt kid set.keys = some key ∧
      jwt.decode now token key (afterSteps jwt audience issuer steps).validation = .ok claims := by
  obtain ⟨header, kid, map, key, claims, hheader, hkid, hmap, hkey, hdecode⟩ := verify_ok h
  rw [keys_afterSteps, Option.map_eq_some_iff] at hmap
  obtain ⟨set, hset, rfl⟩ := hmap
  rw [buildKeyMap_apply] at hkey
  exact ⟨set, header, kid, key, claims, hset, hheader, hkid, hkey, hdecode⟩

/-- The cache and revocation over every run: it holds the keys of the last fetched set,
a token is accepted only under the last convertible key of that set, so nothing is
accepted before the first fetch nor under a `kid` the set dropped; and unusable entries
do not count. -/
theorem cache_follows_last_fetch (jwt : Jwt) (audience issuer : String)
    (steps : List CacheStep) :
    (afterSteps jwt audience issuer steps).keys = (lastFetched steps).map (buildKeyMap jwt) ∧
    (∀ now token, (afterSteps jwt audience issuer steps).verify now token = .ok () →
      ∃ set header kid key claims, lastFetched steps = some set ∧
        jwt.decodeHeader token = .ok header ∧ header.kid = some kid ∧
        lastConvertible jwt kid set.keys = some key ∧
        jwt.decode now token key (afterSteps jwt audience issuer steps).validation =
          .ok claims) ∧
    (lastFetched steps = none → ∀ now token,
      (afterSteps jwt audience issuer steps).verify now token ≠ .ok ()) ∧
    (∀ set header kid token, lastFetched steps = some set →
      jwt.decodeHeader token = .ok header → header.kid = some kid →
      (∀ jwk ∈ set.keys, jwk.keyId = some kid → ∃ err, jwt.fromJwk jwk = .error err) →
      ∀ now, (afterSteps jwt audience issuer steps).verify now token ≠ .ok ()) ∧
    ∀ jwk before after, Unusable jwt jwk →
      buildKeyMap jwt ⟨before ++ jwk :: after⟩ = buildKeyMap jwt ⟨before ++ after⟩ := by
  refine ⟨keys_afterSteps audience issuer steps, fun now token h => verify_afterSteps h, ?_, ?_, ?_⟩
  · intro hnone now token haccepted
    obtain ⟨set, _, _, _, _, hset, _⟩ := verify_afterSteps haccepted
    rw [hnone] at hset
    cases hset
  · intro set header kid token hset hheader hkid hdropped now haccepted
    obtain ⟨set', header', kid', key, _, hset', hheader', hkid', hkey, _⟩ :=
      verify_afterSteps haccepted
    have hsets : set' = set := Option.some.inj (hset'.symm.trans hset)
    have hheaders : header' = header := Except.ok.inj (hheader'.symm.trans hheader)
    subst hsets hheaders
    have hkids : kid' = kid := Option.some.inj (hkid'.symm.trans hkid)
    subst hkids
    rw [lastConvertible_eq_none hdropped] at hkey
    cases hkey
  · intro jwk before after hunusable
    exact buildKeyMap_unusable hunusable before after

end Fabricd.SaToken
