import Fabricd.SaToken.Cache

/-!
# The claims of an accepted token

What the JWT library checks, as it documents it, and what that leaves unchecked: the
audience and the issuer are compared only where the token carries them.
-/

namespace Fabricd.SaToken

open Framework

/-! ## Reading claims -/

/-- The texts of a JSON array of strings. -/
def textItems : List Json → Option (List String)
  | [] => some []
  | .string text :: items => (textItems items).map (text :: ·)
  | _ :: _ => none

/-- A claim that names principals: one string, or an array of strings. -/
def parseNames : Json → Option (List String)
  | .string text => some [text]
  | .array items => textItems items
  | _ => none

def claimNames (claims : Json) (claim : String) : Option (List String) :=
  (claims.get claim).bind parseNames

/-- The library's reading of a numeric date; `roundDate` is its rounding of a double. -/
def numericDate (roundDate : F64 → Option Nat) : Json → Option Nat
  | .number (.posInt n) => some n.toNat
  | .number (.negInt _) => none
  | .number (.float x) => roundDate x
  | _ => none

def claimDate (roundDate : F64 → Option Nat) (claims : Json) (claim : String) : Option Nat :=
  (claims.get claim).bind (numericDate roundDate)

/-- Whether a claim a policy requires is there and parses; unknown claims are ignored. -/
def claimPresent (roundDate : F64 → Option Nat) (claims : Json) (claim : String) : Bool :=
  match claim with
  | "exp" | "nbf" => (claimDate roundDate claims claim).isSome
  | "sub" => ((claims.get claim).bind Json.asStr).isSome
  | "iss" | "aud" => (claimNames claims claim).isSome
  | _ => true

/-- A name check: passed when nothing is expected or the claim does not parse. -/
def namesAllowed (expected : Option (List String)) (carried : Option (List String)) : Bool :=
  match expected, carried with
  | some expected, some carried => carried.any fun name => expected.contains name
  | _, _ => true

/-- The library's claim validation under a policy that names an audience. -/
def validates (roundDate : F64 → Option Nat) (validation : Validation) (now : Nat)
    (claims : Json) : Bool :=
  validation.requiredSpecClaims.all (claimPresent roundDate claims) &&
  (!validation.validateExp ||
    (claimDate roundDate claims "exp").all fun exp => now ≤ exp + validation.leeway) &&
  (!validation.validateNbf ||
    (claimDate roundDate claims "nbf").all fun nbf => nbf ≤ now + validation.leeway) &&
  namesAllowed (validation.sub.map fun sub => [sub])
    (((claims.get "sub").bind Json.asStr).map fun sub => [sub]) &&
  namesAllowed validation.iss (claimNames claims "iss") &&
  (!validation.validateAud || namesAllowed validation.aud (claimNames claims "aud"))

/-- The documented behaviour of the JWT library. -/
structure JwtSpec (jwt : Jwt) where
  /-- The signature of a token verifies under a key, with the header's algorithm. -/
  signatureVerifies : String → jwt.DecodingKey → Prop
  /-- The JSON payload of a token. -/
  payload : String → Option Json
  roundDate : F64 → Option Nat
  newValidation_eq : ∀ alg, jwt.newValidation alg =
    { algorithms := [alg], requiredSpecClaims := ["exp"], leeway := 60, validateExp := true,
      validateNbf := false, validateAud := true, aud := none, iss := none, sub := none }
  setAudience_eq : ∀ validation names,
    jwt.setAudience validation names = { validation with aud := some names }
  setIssuer_eq : ∀ validation names,
    jwt.setIssuer validation names = { validation with iss := some names }
  decode_ok_iff : ∀ now token key validation, validation.aud ≠ none →
    ((∃ claims, jwt.decode now token key validation = .ok claims) ↔
      ∃ header claims, jwt.decodeHeader token = .ok header ∧
        header.alg ∈ validation.algorithms ∧ signatureVerifies token key ∧
        payload token = some claims ∧ validates roundDate validation now claims)

variable {jwt : Jwt}

/-! ## Soundness of acceptance -/

/-- The checks of a token that do not concern its audience and issuer: the cached key of
its `kid`, RS256, the signature, and an expiry at most the leeway in the past. -/
def Fresh (spec : JwtSpec jwt) (verifier : JwksVerifier jwt) (now : Nat) (token : String)
    (claims : Json) : Prop :=
  (∃ header kid map key, jwt.decodeHeader token = .ok header ∧ header.kid = some kid ∧
    verifier.keys = some map ∧ map kid = some key ∧ header.alg = .rs256 ∧
    spec.signatureVerifies token key) ∧
  spec.payload token = some claims ∧
  ∃ exp, claimDate spec.roundDate claims "exp" = some exp ∧ now ≤ exp + 60

/-- A claim carries a name. -/
def Names (claims : Json) (claim name : String) : Prop :=
  ∃ names, claimNames claims claim = some names ∧ name ∈ names

/-- What an accepted token has to be. -/
def Sound (spec : JwtSpec jwt) (verifier : JwksVerifier jwt) (now : Nat) (token : String) : Prop :=
  ∃ claims, Fresh spec verifier now token claims ∧
    Names claims "aud" verifier.audience ∧ Names claims "iss" verifier.issuer

/-- A claim that does not parse, or names what is expected. -/
def AbsentOrNames (claims : Json) (claim name : String) : Prop :=
  claimNames claims claim = none ∨ Names claims claim name

private theorem validation_eq (spec : JwtSpec jwt) (verifier : JwksVerifier jwt) :
    verifier.validation =
      { algorithms := [.rs256], requiredSpecClaims := ["exp"], leeway := 60, validateExp := true,
        validateNbf := false, validateAud := true, aud := some [verifier.audience],
        iss := some [verifier.issuer], sub := none } := by
  unfold JwksVerifier.validation
  simp only [spec.newValidation_eq, spec.setAudience_eq, spec.setIssuer_eq]

private theorem validation_aud (spec : JwtSpec jwt) (verifier : JwksVerifier jwt) :
    verifier.validation.aud ≠ none := by
  rw [validation_eq spec]
  exact Option.some_ne_none _

private theorem namesAllowed_singleton {claims : Json} {claim name : String} :
    namesAllowed (some [name]) (claimNames claims claim) = true ↔
      AbsentOrNames claims claim name := by
  unfold AbsentOrNames Names
  cases hnames : claimNames claims claim with
  | none => simp [namesAllowed]
  | some names => simp [namesAllowed]

/-- The policy the daemon asks for: an expiry that parses and holds, and a wrong audience
or issuer refused, not a missing one. -/
theorem validates_iff (spec : JwtSpec jwt) (verifier : JwksVerifier jwt) (now : Nat)
    (claims : Json) :
    validates spec.roundDate verifier.validation now claims = true ↔
      (∃ exp, claimDate spec.roundDate claims "exp" = some exp ∧ now ≤ exp + 60) ∧
        AbsentOrNames claims "iss" verifier.issuer ∧
        AbsentOrNames claims "aud" verifier.audience := by
  rw [validation_eq spec, ← namesAllowed_singleton, ← namesAllowed_singleton]
  unfold validates
  cases hexp : claimDate spec.roundDate claims "exp" with
  | none => simp [claimPresent, hexp]
  | some exp => simp [claimPresent, hexp, namesAllowed, and_assoc]

/-- Acceptance, in full: the fresh checks, and an audience and issuer that are not wrong. -/
theorem verify_ok_iff (spec : JwtSpec jwt) (verifier : JwksVerifier jwt) (now : Nat)
    (token : String) :
    verifier.verify now token = .ok () ↔
      ∃ claims, Fresh spec verifier now token claims ∧
        AbsentOrNames claims "iss" verifier.issuer ∧
        AbsentOrNames claims "aud" verifier.audience := by
  constructor
  · intro h
    obtain ⟨header, kid, map, key, claims, hheader, hkid, hmap, hkey, hdecode⟩ := verify_ok h
    obtain ⟨header', payload, hheader', halg, hsig, hpayload, hvalid⟩ :=
      (spec.decode_ok_iff _ _ _ _ (validation_aud spec verifier)).mp ⟨claims, hdecode⟩
    have hheaders : header' = header := Except.ok.inj (hheader'.symm.trans hheader)
    subst hheaders
    rw [validation_eq spec] at halg
    have halg' := List.mem_singleton.mp halg
    obtain ⟨hexp, hiss, haud⟩ := (validates_iff spec verifier now payload).mp hvalid
    exact ⟨payload, ⟨⟨header', kid, map, key, hheader, hkid, hmap, hkey, halg', hsig⟩,
      hpayload, hexp⟩, hiss, haud⟩
  · rintro ⟨claims, ⟨⟨header, kid, map, key, hheader, hkid, hmap, hkey, halg, hsig⟩,
      hpayload, hexp⟩, hiss, haud⟩
    have hvalid := (validates_iff spec verifier now claims).mpr ⟨hexp, hiss, haud⟩
    have hmem : header.alg ∈ verifier.validation.algorithms := by
      rw [validation_eq spec, halg]
      exact List.mem_singleton.mpr rfl
    obtain ⟨decoded, hdecode⟩ :=
      (spec.decode_ok_iff now token key _ (validation_aud spec verifier)).mpr
        ⟨header, claims, hheader, hmem, hsig, hpayload, hvalid⟩
    unfold JwksVerifier.verify
    simp only [hheader, hkid, hmap, hkey, hdecode]

/-- A token that passes every check but may lack an audience or an issuer. -/
def Unnamed (spec : JwtSpec jwt) (verifier : JwksVerifier jwt) (now : Nat) (token : String) : Prop :=
  ∃ claims, Fresh spec verifier now token claims ∧
    AbsentOrNames claims "iss" verifier.issuer ∧ AbsentOrNames claims "aud" verifier.audience ∧
    (claimNames claims "iss" = none ∨ claimNames claims "aud" = none)

/-- Acceptance is sound of a token exactly when it is not an otherwise valid one whose
audience or issuer is missing or does not parse. -/
theorem verify_sound_iff (spec : JwtSpec jwt) (verifier : JwksVerifier jwt) (now : Nat)
    (token : String) :
    (verifier.verify now token = .ok () → Sound spec verifier now token) ↔
      ¬ Unnamed spec verifier now token := by
  constructor
  · intro hsound
    rintro ⟨claims, hfresh, hiss, haud, hmissing⟩
    have haccepted := (verify_ok_iff spec verifier now token).mpr ⟨claims, hfresh, hiss, haud⟩
    obtain ⟨claims', hfresh', ⟨auds, hauds, _⟩, ⟨isss, hisss, _⟩⟩ := hsound haccepted
    have hclaims : claims' = claims := Option.some.inj (hfresh'.2.1.symm.trans hfresh.2.1)
    subst hclaims
    rcases hmissing with hnone | hnone
    · rw [hnone] at hisss
      cases hisss
    · rw [hnone] at hauds
      cases hauds
  · intro hnamed haccepted
    obtain ⟨claims, hfresh, hiss, haud⟩ := (verify_ok_iff spec verifier now token).mp haccepted
    refine ⟨claims, hfresh, ?_, ?_⟩
    · rcases haud with hnone | hnames
      · exact absurd ⟨claims, hfresh, hiss, .inl hnone, .inr hnone⟩ hnamed
      · exact hnames
    · rcases hiss with hnone | hnames
      · exact absurd ⟨claims, hfresh, .inl hnone, haud, .inl hnone⟩ hnamed
      · exact hnames

/-! ## A token without audience and issuer -/

/-- The payload of a token that carries nothing but an expiry. -/
def bareClaims : Json := .object [("exp", .number (.posInt 4000))]

/-- `decode` on a token with these claims that the key `cluster` signed. -/
def bareDecode (now : Nat) (key : String) (validation : Validation) : Except String Json :=
  if Algorithm.rs256 ∈ validation.algorithms ∧ key = "cluster" ∧
      validates (fun _ => none) validation now bareClaims = true then
    .ok bareClaims
  else .error "InvalidToken"

/-- The library on such tokens, whose `kid` is `k1`. -/
def bareJwt : Jwt where
  DecodingKey := String
  decodeHeader _ := .ok { alg := .rs256, kid := some "k1" }
  fromJwk jwk := .ok jwk.material
  newValidation alg :=
    { algorithms := [alg], requiredSpecClaims := ["exp"], leeway := 60, validateExp := true,
      validateNbf := false, validateAud := true, aud := none, iss := none, sub := none }
  setAudience validation names := { validation with aud := some names }
  setIssuer validation names := { validation with iss := some names }
  decode now _ key validation := bareDecode now key validation

private theorem bareDecode_ok_iff {now : Nat} {key : String} {validation : Validation} :
    (∃ claims, bareDecode now key validation = .ok claims) ↔
      Algorithm.rs256 ∈ validation.algorithms ∧ key = "cluster" ∧
        validates (fun _ => none) validation now bareClaims = true := by
  unfold bareDecode
  split
  · next h => exact ⟨fun _ => h, fun _ => ⟨bareClaims, rfl⟩⟩
  · next h =>
    constructor
    · rintro ⟨claims, hdecode⟩
      cases hdecode
    · exact fun hvalid => absurd hvalid h

def bareSpec : JwtSpec bareJwt where
  signatureVerifies _ key := key = "cluster"
  payload _ := some bareClaims
  roundDate _ := none
  newValidation_eq _ := rfl
  setAudience_eq _ _ := rfl
  setIssuer_eq _ _ := rfl
  decode_ok_iff now token key validation _ := by
    refine bareDecode_ok_iff.trans ⟨?_, ?_⟩
    · rintro ⟨halg, hsig, hvalid⟩
      exact ⟨_, bareClaims, rfl, halg, hsig, rfl, hvalid⟩
    · rintro ⟨header, claims, hheader, halg, hsig, hpayload, hvalid⟩
      cases hheader
      cases hpayload
      exact ⟨halg, hsig, hvalid⟩

def bareVerifier : JwksVerifier bareJwt :=
  { keys := some (buildKeyMap bareJwt ⟨[⟨some "k1", "cluster"⟩]⟩)
    audience := "fabricd"
    issuer := "https://kubernetes.default.svc" }

/-- Acceptance does not imply soundness: a signed, unexpired token that names neither an
audience nor an issuer is accepted. -/
theorem verify_accepts_unnamed :
    ¬ ∀ (jwt : Jwt) (spec : JwtSpec jwt) (verifier : JwksVerifier jwt) (now : Nat) (token : String),
      verifier.verify now token = .ok () → Sound spec verifier now token := by
  intro hall
  have haccepted : bareVerifier.verify 1000 "bare" = .ok () := by decide
  obtain ⟨claims, hfresh, ⟨names, hnames, _⟩, _⟩ :=
    hall bareJwt bareSpec bareVerifier 1000 "bare" haccepted
  have hclaims : claims = bareClaims := (Option.some.inj hfresh.2.1).symm
  subst hclaims
  have hnone : claimNames bareClaims "aud" = none := by decide
  rw [hnone] at hnames
  cases hnames

end Fabricd.SaToken
