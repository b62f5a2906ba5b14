import SchemaStore.Query.Change
import SchemaStore.Reconciliation.Run

/-!
# Stores

A `Store` binds a schema to its database.  It is connected while it has a pool
of connections; only then its models can be used and its tables brought in line.
A pool that turns out to be useless is disposed of at once.
-/

namespace SchemaStore

/-- The dialect of a kind of database. -/
def Provider.dialect : Provider → Dialect
  | .mysql => .mysql
  | .sqlite => .sqlite

/-- A schema and, while it is connected, a pool of connections to its database. -/
structure Store where
  schema : Schema
  settings : Settings
  pool : Option Nat := none

namespace Store

variable {α : Type}

def isConnected (store : Store) : Bool :=
  store.pool.isSome

def dialect (store : Store) : Dialect :=
  store.schema.datasource.provider.dialect

/-- The failure of everything that needs a connection. -/
def notConnected : Failure :=
  .own (.connection "Database not initialized. Call connect() first")

/-- The pool of a connected store. -/
def requirePool (store : Store) : Except Failure Nat :=
  match store.pool with
  | some pool => .ok pool
  | none => .error notConnected

/-- How a connection that cannot be opened is reported. -/
def connectionFailure (failure : Failure) : Failure :=
  if failure.isAccess then .own failure.toStoreError else failure

/-- Connect a store unless it is connected.  If only a default turns out to be unreadable, the
store stays connected. -/
def connect (store : Store) : Session (Except Failure Unit × Store) :=
  match store.pool with
  | some _ => return (.ok (), store)
  | none => do
      match ← Dialogue.request (Request.openPool store.schema.datasource store.settings) with
      | .error failure => return (.error failure, store)
      | .ok pool =>
          match ← Dialogue.request (Request.ping pool) with
          | .ok () => return (store.schema.checkDefaults, { store with pool := some pool })
          | .error failure => do
              let () ← Dialogue.request (Request.disposePool pool)
              return (.error (connectionFailure failure), store)

def close (store : Store) : Session Store :=
  match store.pool with
  | none => return store
  | some pool => do
      let () ← Dialogue.request (Request.disposePool pool)
      return { store with pool := none }

/-- The model of an entity, by its name in any letter case.  A schema with an unreadable default
has no models. -/
def model (store : Store) (name : String) : Except Failure Model := do
  let pool ← store.requirePool
  let entity ← (store.schema.entity name).mapError .own
  store.schema.checkDefaults.mapError fun _ => .missingKey
  return {
    schema := store.schema
    entity
    dialect := store.dialect
    settings := store.settings
    pool }

/-- Bring the tables of the database in line with the schema. -/
def reconcile (store : Store) : Session (Except RunFailure RunReport) :=
  match store.requirePool with
  | .error failure => return .error ⟨failure, none⟩
  | .ok pool =>
      let reconciler : Reconciler := {
        schema := store.schema
        traits := store.dialect.traits
        settings := store.settings
        pool }
      reconciler.run

/-- A connected store whose tables are in line.  If that fails, nothing stays connected. -/
def establish (schema : Schema) (settings : Settings) : Session (Except RunFailure Store) := do
  match ← connect { schema, settings } with
  | (.error failure, _) => return .error ⟨failure, none⟩
  | (.ok (), store) =>
      match ← store.reconcile with
      | .ok _ => return .ok store
      | .error failure => do
          let _ ← store.close
          return .error failure

/-- Use a store and close it afterwards in any case. -/
def use (store : Store) (body : Store → Session α) : Session (α × Store) := do
  let result ← body store
  let store ← store.close
  return (result, store)

end Store
end SchemaStore
