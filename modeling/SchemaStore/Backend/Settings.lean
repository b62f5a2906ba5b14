import SchemaStore.Number.Written
import SchemaStore.Schema.Input

/-!
# Settings

The settings of a store: an address that overrides the declared one, the
connection pool, reconciliation, and the retries of reads.
-/

namespace SchemaStore

structure Settings where
  /-- Overrides the declared address unless it is missing or empty. -/
  databaseUrl : Option String := none
  schemaPath : String := "schema.orm"
  poolSize : Int := 5
  poolMaxOverflow : Int := 10
  poolTimeout : Binary64 := .ofInt 30
  poolRecycle : Int := 1800
  echoSql : Bool := false
  reconcileMaxAttempts : Int := 3
  reconcileRetryDelay : Binary64 := .ofInt 1
  reconcileLockName : String := "dslorm_reconcile"
  reconcileLockTimeout : Int := 10
  readRetryAttempts : Int := 1
  readRetryDelay : Binary64 := .ofDecimal false 2 (-1)
  logLevel : String := "INFO"
deriving DecidableEq, Repr

/-- Read a number with a fraction. -/
def Reader.real : Reader Binary64
  | .scalar (.real x) => .ok x
  | .scalar (.int n) =>
      let x := Binary64.ofInt n
      if x.isFinite then .ok x else .error .notNumber
  | .scalar (.bool b) => .ok (.ofInt (if b then 1 else 0))
  | .scalar value =>
      match value.decoded? with
      | some text => (text.bind Binary64.ofPlainText?).elim (.error .unreadableNumber) .ok
      | none => .error .notNumber
  | _ => .error .notNumber

/-- Read settings from a record; what is missing takes its usual value. -/
def Settings.ofInput : Reader Settings := fun value => do
  let input ← Reader.entries "Settings" value
  let usual : Settings := {}
  return {
    databaseUrl := ← input.optional "DATABASE_URL" none (Reader.optional Reader.text)
    schemaPath := ← input.optional "SCHEMA_PATH" usual.schemaPath Reader.text
    poolSize := ← input.optional "POOL_SIZE" usual.poolSize Reader.int
    poolMaxOverflow := ← input.optional "POOL_MAX_OVERFLOW" usual.poolMaxOverflow Reader.int
    poolTimeout := ← input.optional "POOL_TIMEOUT" usual.poolTimeout Reader.real
    poolRecycle := ← input.optional "POOL_RECYCLE" usual.poolRecycle Reader.int
    echoSql := ← input.optional "ECHO_SQL" usual.echoSql Reader.bool
    reconcileMaxAttempts :=
      ← input.optional "RECONCILE_MAX_ATTEMPTS" usual.reconcileMaxAttempts Reader.int
    reconcileRetryDelay :=
      ← input.optional "RECONCILE_RETRY_DELAY" usual.reconcileRetryDelay Reader.real
    reconcileLockName :=
      ← input.optional "RECONCILE_LOCK_NAME" usual.reconcileLockName Reader.text
    reconcileLockTimeout :=
      ← input.optional "RECONCILE_LOCK_TIMEOUT" usual.reconcileLockTimeout Reader.int
    readRetryAttempts := ← input.optional "READ_RETRY_ATTEMPTS" usual.readRetryAttempts Reader.int
    readRetryDelay := ← input.optional "READ_RETRY_DELAY" usual.readRetryDelay Reader.real
    logLevel := ← input.optional "LOG_LEVEL" usual.logLevel Reader.text }

end SchemaStore
