import SchemaStore.Backend.Request
import SchemaStore.Ddl.Render

/-!
# Scripted backends

A `Script` answers requests with results that are given beforehand: executed
statements in order, tables by name, and failures by what they befall.  Changes
of tables are rendered and otherwise have no effect.
-/

namespace SchemaStore

/-- Answers that are given beforehand. -/
structure Script where
  /-- The results of executed statements, in order; further ones are empty. -/
  results : List (Except Failure Result) := []
  /-- What the backend says about tables. -/
  tables : String → Except Failure TableState := fun name => .ok (.missing name)
  /-- The failures of each step, one for every attempt. -/
  failures : Record (List Failure) := []
  /-- The answer to requests for a lock. -/
  lock : Value := .int 1

namespace Script

/-- The failure of the next attempt at a step. -/
def takeFailure (script : Script) (step : String) : Option Failure × Script :=
  match script.failures.get? step with
  | some (failure :: rest) =>
      (some failure, { script with failures := script.failures.put step rest })
  | _ => (none, script)

/-- Attempt a step. -/
def attempt {α : Type} (script : Script) (step : String) (result : Except Failure α) :
    Except Failure α × Script :=
  match script.takeFailure step with
  | (some failure, script) => (.error failure, script)
  | (none, script) => (result, script)

/-- The step of inspecting a table. -/
def probeStep (table : String) : String :=
  "probe " ++ table

/-- The answers of a script. -/
def backend (dialect : Dialect) : Backend Script
  | .openPool .., script => (.ok 0, script)
  | .ping _, script => (.ok (), script)
  | .disposePool _, script => ((), script)
  | .execute .., script =>
      (script.results.head?.getD (.ok {}), { script with results := script.results.drop 1 })
  | .commit _, script => (.ok (), script)
  | .rollback _, script => ((), script)
  | .inspect _ table, script => script.attempt (probeStep table) (script.tables table)
  | .alter _ schema action, script =>
      script.attempt action.describe ((fun _ => ()) <$> action.statements schema dialect)
  | .lock .., script => (.ok ⟨0, script.lock⟩, script)
  | .unlock .., script => (.ok (), script)

end Script
end SchemaStore
