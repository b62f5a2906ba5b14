import SchemaStore.Ddl.Plan

/-!
# Reports of reconciliation

A run reports, in order, the plans of the entities that it brought in line and
what it did on the way.  A run that fails reports how far it came.
-/

namespace SchemaStore

inductive RunStage where
  | lock
  | probe
  | create
  | update
  | done
deriving DecidableEq, Repr

def RunStage.label : RunStage → String
  | .lock => "lock"
  | .probe => "probe"
  | .create => "create"
  | .update => "update"
  | .done => "done"

/-- One entry of the report of a run; an entry about the whole run names no entity. -/
structure RunEntry where
  entity : Option String
  stage : RunStage
  level : LogLevel
  message : String
deriving DecidableEq, Repr

/-- How far a run has come. -/
structure Progress where
  plans : List ReconciliationPlan := []
  entries : List RunEntry := []
deriving DecidableEq, Repr

namespace Progress

/-- Add an entry. -/
def log (progress : Progress) (entity : Option String) (stage : RunStage) (level : LogLevel)
    (message : String) : Progress :=
  { progress with entries := progress.entries ++ [⟨entity, stage, level, message⟩] }

/-- Add the plan of an entity that is in line. -/
def finish (progress : Progress) (plan : ReconciliationPlan) : Progress :=
  { progress with plans := progress.plans ++ [plan] }

end Progress

/-- How a run ended. -/
inductive RunStatus where
  | completed
  | failed
deriving DecidableEq, Repr

def RunStatus.label : RunStatus → String
  | .completed => "completed"
  | .failed => "failed"

structure RunReport where
  status : RunStatus
  progress : Progress
deriving DecidableEq, Repr

/-- The number of changes that were planned for the entities that are in line. -/
def RunReport.totalActions (report : RunReport) : Nat :=
  (report.progress.plans.flatMap ReconciliationPlan.actions).length

/-- A run that failed, with the report of how far it came. -/
structure RunFailure where
  failure : Failure
  report : Option RunReport := none

end SchemaStore
