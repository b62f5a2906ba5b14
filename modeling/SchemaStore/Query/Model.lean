import SchemaStore.Backend.Request
import SchemaStore.Filter.Compile
import SchemaStore.Query.Include
import SchemaStore.Retry

/-!
# Models

A `Model` reads and writes the rows of one entity.  Reads are repeated while
their connection breaks.  A write is executed once; it is committed if that
succeeds and rolled back if the backend fails.
-/

namespace SchemaStore

/-- The rows of one entity. -/
structure Model where
  schema : Schema
  entity : Entity
  dialect : Dialect
  settings : Settings
  /-- The pool of connections that the rows are reached by. -/
  pool : Nat

namespace Model

def table (model : Model) : Table :=
  model.entity.table model.schema model.dialect.traits

def idField (model : Model) : String :=
  model.entity.idField

/-- How a field is reported that a model does not have. -/
def unknownField (model : Model) (field : String) : Failure :=
  .validation ("Unknown field '" ++ field ++ "' on " ++ model.entity.name)

def column (model : Model) (field : String) : Except Failure ColumnRef :=
  match model.table.ref? field with
  | some column => .ok column
  | none => .error (model.unknownField field)

/-- An error of the access layer about a column that is not named by a text. -/
def unnamedColumn : Failure :=
  .access {
    kind := .other
    label := "ArgumentError"
    message := "__contains__ requires a string argument" }

def columnAt (model : Model) (position : Option Int) : Except Failure ColumnRef :=
  match position with
  | some n =>
      match if n < 0 then none else model.table.columns[n.toNat]? with
      | some column => .ok (column.ref model.table.name)
      | none => .error unnamedColumn
  | none => .error unnamedColumn

/-- The column that a value names: by the name of its field, or by its position. -/
def columnOf (model : Model) : Value → Except Failure ColumnRef
  | .scalar (.text field) => model.column field
  | .scalar (.int n) => model.columnAt (some n)
  | .scalar (.bool b) => model.columnAt (some (if b then 1 else 0))
  | .scalar (.real x) => model.columnAt x.toInt?
  | value => .error (if value.isKey then unnamedColumn else .nonTextValue)

/-- The conditions that a filter adds to a statement; an empty filter adds none. -/
def condition (model : Model) (filter : Value) : Except Failure (List Clause) :=
  (Filter.compile? model.table filter).mapError FilterDefect.failure

/-- How often reads are attempted. -/
def readPolicy (model : Model) : RetryPolicy :=
  ⟨model.settings.readRetryAttempts, .real model.settings.readRetryDelay⟩

/-- Note a failure of the backend, and fail with the error that stands for it. -/
def giveUp {α : Type} (words : String) (failure : Failure) : Program α := do
  Program.log .error (words ++ ": " ++ failure.logText)
  Program.fail (.own failure.toStoreError)

def execute (model : Model) (statement : Statement) : Program Result :=
  Program.ofSession (Dialogue.request (Request.execute model.pool statement))

/-- Make the executed writes permanent. -/
def commit (model : Model) : Program Unit :=
  Program.ofSession (Dialogue.request (Request.commit model.pool))

/-- Undo the writes that are not permanent. -/
def rollback (model : Model) : Program Unit :=
  Program.lift (Dialogue.request (Request.rollback model.pool))

/-- Read something from the backend. -/
def read {α : Type} (model : Model) (operation : Program α) : Program α :=
  let attempts := Dialogue.retry model.readPolicy ("read " ++ model.table.name) operation.session
  (Program.ofSession attempts).recover fun failure =>
    if failure.isAccess then giveUp ("Query on " ++ model.table.name ++ " failed") failure
    else Program.fail failure

/-- The rows of a query, with the included rows under their keys. -/
def fetch (model : Model) (query : Select) (includes : List Include) : Program (List Row) :=
  model.read do
    let result ← model.execute (.select query)
    return result.rows.map (nestAll includes)

/-- The value of a statement that gives a single one. -/
def fetchScalar (model : Model) (statement : Statement) : Program Value :=
  model.read do
    let result ← model.execute statement
    return result.scalar

/-- Execute a write and commit it.  If the backend fails, nothing is written. -/
def write {α : Type} (model : Model) (change : Write) (extract : Result → Except Failure α)
    (words : String) : Program α :=
  let attempt : Program α := do
    let result ← model.execute (.write change)
    let value ← Program.ofResult (extract result)
    model.commit
    return value
  attempt.recover fun failure =>
    if failure.isAccess then do
      model.rollback
      giveUp words failure
    else
      Program.fail failure

/-- The value of a column in a row. -/
def valueIn (column : String) (row : Row) : Except Failure Value :=
  match row.get? column with
  | some value => .ok value
  | none => .error .missingKey

end Model
end SchemaStore
