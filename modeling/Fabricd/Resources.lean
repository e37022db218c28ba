import Fabricd.Backends.Db
import Fabricd.Backends.Mongo
import Fabricd.Backends.Mail
import Fabricd.Backends.Kv
import Fabricd.Backends.Amq
import Fabricd.Backends.Auth

/-!
# The operator table

Logical names resolve to driver configs inside the session's tenant. A name of another
tenant resolves exactly as an absent one.
-/

namespace Fabricd

open Db Mongo Mail Kv Amq Auth

/-- One operator-declared resource: the driver kind with that driver's config. -/
inductive ResourceBinding where
  | db (config : DbConfig)
  | mongo (config : MongoConfig)
  | mail (config : MailConfig)
  | redis (config : RedisConfig)
  | amq (config : AmqConfig)
  | auth (config : AuthConfig)
  deriving DecidableEq

namespace ResourceBinding

def asDb : ResourceBinding → Option DbConfig
  | db config => some config
  | mongo _ | mail _ | redis _ | amq _ | auth _ => none

def asMongo : ResourceBinding → Option MongoConfig
  | mongo config => some config
  | db _ | mail _ | redis _ | amq _ | auth _ => none

def asMail : ResourceBinding → Option MailConfig
  | mail config => some config
  | db _ | mongo _ | redis _ | amq _ | auth _ => none

def asRedis : ResourceBinding → Option RedisConfig
  | redis config => some config
  | db _ | mongo _ | mail _ | amq _ | auth _ => none

def asAmq : ResourceBinding → Option AmqConfig
  | amq config => some config
  | db _ | mongo _ | mail _ | redis _ | auth _ => none

def asAuth : ResourceBinding → Option AuthConfig
  | auth config => some config
  | db _ | mongo _ | mail _ | redis _ | amq _ => none

end ResourceBinding

/-- A binding with the tenant authorized to use it; `none` is a global binding. -/
structure TenantResourceBinding where
  tenant : Option String
  binding : ResourceBinding
  deriving DecidableEq

/-- The operator's `HashMap`, by its lookup function. -/
abbrev Table := String → Option TenantResourceBinding

/-- The configs resolved for one session. -/
structure ResolvedConfigs where
  db : Option DbConfig
  mongo : Option MongoConfig
  mail : Option MailConfig
  redis : Option RedisConfig
  amq : Option AmqConfig
  auth : Option AuthConfig
  deriving DecidableEq

/-- The timeout a ceiling leaves of a configured one; zero means no ceiling, and no
timeout, respectively. -/
def clampTimeout (ceilingMs configuredMs : UInt64) : UInt64 :=
  if ceilingMs = 0 then configuredMs
  else if configuredMs = 0 then ceilingMs
  else min configuredMs ceilingMs

/-- `ResolvedConfigs::clamp_db_statement_timeout`. -/
def ResolvedConfigs.clampDbStatementTimeout (self : ResolvedConfigs) (ceilingMs : UInt64) :
    ResolvedConfigs :=
  { self with
    db := self.db.map fun db =>
      { db with statementTimeoutMs := clampTimeout ceilingMs db.statementTimeoutMs } }

inductive ResolveError where
  | notFound (name : String)
  | kindMismatch (name kind : String)
  deriving DecidableEq

namespace ResolveError

def code : ResolveError → String
  | notFound _ => "RESOURCE_NOT_FOUND"
  | kindMismatch _ _ => "RESOURCE_KIND_MISMATCH"

def message : ResolveError → String
  | notFound name => "no operator resource named `" ++ name ++ "`"
  | kindMismatch name kind => "resource `" ++ name ++ "` is not a " ++ kind ++ " resource"

end ResolveError

/-- Resolves one optional name, scoped to the session's tenant. -/
def pick {α : Type} (table : Table) (sessionTenant name : Option String) (kind : String)
    (extract : ResourceBinding → Option α) : Except ResolveError (Option α) :=
  match name with
  | none => .ok none
  | some resourceName =>
    match table resourceName with
    | none => .error (.notFound resourceName)
    | some entry =>
      if entry.tenant ≠ sessionTenant then .error (.notFound resourceName)
      else
        match extract entry.binding with
        | some config => .ok (some config)
        | none => .error (.kindMismatch resourceName kind)

/-- Resolves each name the session selected; the first failure is the result. -/
def resolve (table : Table) (init : WireInit) : Except ResolveError ResolvedConfigs := do
  let tenant := init.tenant
  let db ← pick table tenant init.db "db" ResourceBinding.asDb
  let mongo ← pick table tenant init.mongo "mongo" ResourceBinding.asMongo
  let mail ← pick table tenant init.mail "mail" ResourceBinding.asMail
  let redis ← pick table tenant init.redis "redis" ResourceBinding.asRedis
  let amq ← pick table tenant init.amq "amq" ResourceBinding.asAmq
  let auth ← pick table tenant init.auth "auth" ResourceBinding.asAuth
  return { db, mongo, mail, redis, amq, auth }

end Fabricd
