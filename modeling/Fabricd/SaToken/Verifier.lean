import Fabricd.Json
import Mathlib.Logic.Function.Basic

/-!
# The `sa-token` verifier

Tokens are checked offline against a cache of JWKS keys that a background task
refreshes. The JWT library is a parameter.
-/

namespace Fabricd.SaToken

inductive Algorithm where
  | rs256
  | other (name : String)
  deriving DecidableEq

structure Header where
  alg : Algorithm
  kid : Option String
  deriving DecidableEq

/-- A JWKS entry: its `kid`, and the key material only the library reads. -/
structure Jwk where
  keyId : Option String
  material : String
  deriving DecidableEq

structure JwkSet where
  keys : List Jwk
  deriving DecidableEq

/-- The validation policy `decode` is given. -/
structure Validation where
  algorithms : List Algorithm
  requiredSpecClaims : List String
  leeway : Nat
  validateExp : Bool
  validateNbf : Bool
  validateAud : Bool
  aud : Option (List String)
  iss : Option (List String)
  sub : Option String
  deriving DecidableEq

/-- What the daemon takes from `jsonwebtoken`; `decode` reads the clock itself, in
seconds since the epoch. -/
structure Jwt where
  DecodingKey : Type
  decodeHeader : String → Except String Header
  fromJwk : Jwk → Except String DecodingKey
  newValidation : Algorithm → Validation
  setAudience : Validation → List String → Validation
  setIssuer : Validation → List String → Validation
  decode : Nat → String → DecodingKey → Validation → Except String Json

/-- Why a token failed verification. -/
inductive VerifyError where
  | keysNotLoaded
  | missingKid
  | unknownKid
  | invalid (reason : String)
  | internal
  deriving DecidableEq

def VerifyError.display : VerifyError → String
  | keysNotLoaded => "sa-token verifier not ready (JWKS not loaded)"
  | missingKid => "token header missing kid"
  | unknownKid => "no JWKS key matches the token kid"
  | invalid reason => s!"token invalid: {reason}"
  | internal => "internal verifier error"

variable (jwt : Jwt)

/-- `kid` to verification key, by the map's lookup function. -/
abbrev KeyMap := String → Option jwt.DecodingKey

/-- One entry of `build_key_map`'s loop: an entry without `kid` or that fails conversion
is skipped. -/
def insertKey (map : KeyMap jwt) (jwk : Jwk) : KeyMap jwt :=
  match jwk.keyId with
  | none => map
  | some kid =>
    match jwt.fromJwk jwk with
    | .ok key => Function.update map kid (some key)
    | .error _ => map

def buildKeyMap (set : JwkSet) : KeyMap jwt := set.keys.foldl (insertKey jwt) (fun _ => none)

/-- The verifier: its key cache, `none` until the first successful fetch, and the
expected claims. -/
structure JwksVerifier where
  keys : Option (KeyMap jwt)
  audience : String
  issuer : String

variable {jwt}

/-- The validation policy: RS256, the expected audience and issuer, expiry enforced. -/
def JwksVerifier.validation (self : JwksVerifier jwt) : Validation :=
  let validation := jwt.newValidation .rs256
  let validation := jwt.setAudience validation [self.audience]
  jwt.setIssuer validation [self.issuer]

/-- `JwksVerifier::verify` at a time. -/
def JwksVerifier.verify (self : JwksVerifier jwt) (now : Nat) (token : String) :
    Except VerifyError Unit :=
  match jwt.decodeHeader token with
  | .error err => .error (.invalid err)
  | .ok header =>
    match header.kid with
    | none => .error .missingKid
    | some kid =>
      match self.keys with
      | none => .error .keysNotLoaded
      | some map =>
        match map kid with
        | none => .error .unknownKid
        | some key =>
          match jwt.decode now token key self.validation with
          | .error err => .error (.invalid err)
          | .ok _ => .ok ()

/-- One round of `refresh_loop`: a fetched set replaces the cache, a failed fetch keeps it. -/
def JwksVerifier.refresh (self : JwksVerifier jwt) (fetched : Except String JwkSet) :
    JwksVerifier jwt :=
  match fetched with
  | .ok set => { self with keys := some (buildKeyMap jwt set) }
  | .error _ => self

/-! ## Building -/

/-- Configuration of a verifier; the refresh interval is in seconds. -/
structure SaTokenVerifyConfig where
  issuer : String
  jwksUrl : Option String
  audience : String
  caCert : Option String
  refresh : Nat
  deriving DecidableEq

def defaultRefreshSecs : Nat := 300

def SaTokenVerifyConfig.new (issuer audience : String) : SaTokenVerifyConfig :=
  { issuer, jwksUrl := none, audience, caCert := none, refresh := defaultRefreshSecs }

variable (jwt)

/-- `JwksVerifier::spawn` once the HTTP client is built: nothing is cached yet. -/
def JwksVerifier.spawn (buildClient : Option String → Except String Unit)
    (config : SaTokenVerifyConfig) : Except String (JwksVerifier jwt) :=
  match buildClient config.caCert with
  | .error err => .error err
  | .ok _ => .ok { keys := none, audience := config.audience, issuer := config.issuer }

end Fabricd.SaToken
