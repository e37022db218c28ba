import Fabricd.SaToken.Verifier
import Fabricd.Framework.Bytes

/-!
# Client authentication

The providers that decide on the token of an `Init`, and how the configuration picks one.
-/

namespace Fabricd.ClientAuth

open Framework SaToken

structure AuthReject where
  code : String
  message : String
  deriving DecidableEq

def unauthenticated : String := "UNAUTHENTICATED"

def AuthReject.new (message : String) : AuthReject := { code := unauthenticated, message }

inductive AuthMode where
  | none
  | static
  | saToken
  deriving DecidableEq

/-- The `quic.auth` block. -/
structure ClientAuthConfig where
  mode : AuthMode
  staticToken : Option String
  previousToken : Option String
  audience : Option String
  issuer : Option String
  jwksUrl : Option String
  caCert : Option String
  jwksRefreshSecs : Option UInt64
  deriving DecidableEq

/-- The providers. The `sa-token` one appears by its verdicts at the time it is asked. -/
inductive Authenticator where
  | none
  | static (current : String) (previous : Option String)
  | saToken (verify : String → Except VerifyError Unit)

/-- `runlet_wire::ct_eq`: byte equality. -/
def ctEq (left right : List UInt8) : Bool := left == right

/-- Accepts or rejects the presented token; `none` is an `Init` without one. -/
def Authenticator.authenticate : Authenticator → Option String → Except AuthReject Unit
  | .none, _ => .ok ()
  | .static _ _, .none => .error (.new "missing client auth token")
  | .static current previous, some presented =>
    if ctEq (utf8Bytes presented) (utf8Bytes current) then .ok ()
    else
      match previous with
      | some previous =>
        if ctEq (utf8Bytes presented) (utf8Bytes previous) then .ok ()
        else .error (.new "client auth token rejected")
      | .none => .error (.new "client auth token rejected")
  | .saToken _, .none => .error (.new "missing client auth token")
  | .saToken verify, some presented =>
    (verify presented).mapError fun err => .new err.display

/-- `Option::filter` on a non-empty text. -/
def nonEmpty (text : Option String) : Option String := text.filter (fun value => !value.isEmpty)

/-- Assembles the verifier's configuration; issuer and audience are required. -/
def saTokenConfig (config : ClientAuthConfig) : Except String SaTokenVerifyConfig :=
  match nonEmpty config.issuer with
  | none => .error "quic.auth.mode = sa-token requires an issuer"
  | some issuer =>
    match nonEmpty config.audience with
    | none => .error "quic.auth.mode = sa-token requires an audience"
    | some audience =>
      .ok { SaTokenVerifyConfig.new issuer audience with
        jwksUrl := nonEmpty config.jwksUrl
        caCert := config.caCert
        refresh := (config.jwksRefreshSecs.map UInt64.toNat).getD defaultRefreshSecs }

/-- `auth::build`; `spawn` starts a verifier and yields its verdicts. -/
def build (spawn : SaTokenVerifyConfig → Except String (String → Except VerifyError Unit))
    (config : ClientAuthConfig) : Except String Authenticator :=
  match config.mode with
  | .none => .ok .none
  | .static =>
    match nonEmpty config.staticToken with
    | none => .error "quic.auth.mode = static requires a non-empty static_token"
    | some current => .ok (.static current (nonEmpty config.previousToken))
  | .saToken => do
    let verifyConfig ← saTokenConfig config
    return .saToken (← spawn verifyConfig)

end Fabricd.ClientAuth
