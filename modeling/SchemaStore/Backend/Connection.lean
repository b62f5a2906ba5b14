import SchemaStore.Backend.Certificate
import SchemaStore.Backend.Options
import SchemaStore.Backend.Settings
import SchemaStore.Backend.Traits

/-!
# Connections

How to connect to a datasource: its address, encryption, and the pool of a
server.  Encryption trusts the certificates of the declared file but checks
neither host names nor chains.
-/

namespace SchemaStore

/-- How an encrypted connection is checked. -/
structure Encryption where
  checkHostname : Bool
  verifyChain : Bool
deriving DecidableEq, Repr

/-- The pool of connections to a server.  A pool of size zero has no limit. -/
structure Pool where
  size : Int
  /-- How many connections there may be beyond the size; any number if this is negative. -/
  maxOverflow : Int
  timeout : Binary64
  recycle : Int
deriving DecidableEq, Repr

def Settings.pool (settings : Settings) : Pool :=
  { size := settings.poolSize
    maxOverflow := if settings.poolSize = 0 then -1 else settings.poolMaxOverflow
    timeout := settings.poolTimeout
    recycle := settings.poolRecycle }

/-- Everything that is needed to connect. -/
structure ConnectionPlan where
  url : Url
  provider : Provider
  echo : Bool
  encryption : Option Encryption
  pool : Option Pool
deriving DecidableEq, Repr

namespace Datasource

/-- The encryption of a datasource whose certificate file is looked up from a folder. -/
def encryption (datasource : Datasource) (folder : Folder) :
    Except Failure (Option Encryption) :=
  let path := datasource.ssl.getD ""
  if datasource.provider ≠ .mysql ∨ path.isEmpty then
    .ok none
  else
    match folder.read path with
    | .error defect => .error (.unreadableFile defect)
    | .ok content =>
        if Certificate.holdsCertificate content then .ok (some ⟨false, false⟩)
        else .error .badCertificate

/-- The datasource with the address that settings override it by, checked. -/
def overriddenBy (datasource : Datasource) (settings : Settings) : Except Failure Datasource :=
  let url := settings.databaseUrl.getD ""
  if url.isEmpty then .ok datasource else checked { datasource with url }

/-- How to connect to a datasource under the given settings. -/
def connectionPlan (datasource : Datasource) (settings : Settings) (folder : Folder) :
    Except Failure ConnectionPlan := do
  let datasource ← datasource.overriddenBy settings
  let encryption ← datasource.encryption folder
  let url ← datasource.connection.mapError DatasourceDefect.failure
  url.checkOptions
  let pool :=
    match datasource.provider with
    | .sqlite => none
    | .mysql => some settings.pool
  return { url, provider := datasource.provider, echo := settings.echoSql, encryption, pool }

end Datasource
end SchemaStore
