import SchemaStore.Reconciliation.Apply
import SchemaStore.Reconciliation.Report

/-!
# Runs of reconciliation

A `Reconciler` brings the tables of a schema in line with their declarations,
one entity after the other in the order of declaration.  Where the backend has
advisory locks, a run holds one.
-/

namespace SchemaStore

/-- A stage of a run: a program that keeps its progress also when it fails. -/
abbrev Run (α : Type) := ExceptT Failure (StateT Progress (Dialogue Request Request.Reply)) α

namespace Run

variable {α β : Type}

/-- A stage as a dialogue from one progress to the next. -/
def hold (run : Run α) (progress : Progress) : Session (Except Failure α × Progress) :=
  (ExceptT.run run).run progress

/-- The stage that is given by such a dialogue. -/
def ofDialogue (dialogue : Progress → Session (Except Failure α × Progress)) : Run α :=
  ExceptT.mk dialogue

/-- A program as a stage that changes no progress. -/
def ofProgram (program : Program α) : Run α :=
  ofDialogue fun progress => (fun result => (result, progress)) <$> program.session

def fail (failure : Failure) : Run α :=
  ofDialogue fun progress => return (.error failure, progress)

/-- Change the progress. -/
def advance (step : Progress → Progress) : Run Unit :=
  ofDialogue fun progress => return (.ok (), step progress)

/-- Add an entry to the report. -/
def log (entity : Option String) (stage : RunStage) (level : LogLevel) (message : String) :
    Run Unit :=
  advance (·.log entity stage level message)

/-- Go on after a failure. -/
def recover (run : Run α) (rescue : Failure → Run α) : Run α :=
  ofDialogue fun progress => do
    match ← run.hold progress with
    | (.ok result, progress) => return (.ok result, progress)
    | (.error failure, progress) => (rescue failure).hold progress

/-- Do something afterwards, also after a failure.  If that fails, its failure counts. -/
def ensuring (run : Run α) (cleanup : Run Unit) : Run α :=
  ofDialogue fun progress => do
    let (result, progress) ← run.hold progress
    match ← cleanup.hold progress with
    | (.ok (), progress) => return (result, progress)
    | (.error failure, progress) => return (.error failure, progress)

end Run

/-- Brings the tables of a schema in line. -/
structure Reconciler where
  schema : Schema
  traits : BackendTraits
  settings : Settings
  /-- The pool of connections that the tables are reached by. -/
  pool : Nat

namespace Reconciler

/-- How often the steps of a run are attempted. -/
def policy (reconciler : Reconciler) : RetryPolicy :=
  ⟨reconciler.settings.reconcileMaxAttempts, .real reconciler.settings.reconcileRetryDelay⟩

/-- The error of a table that cannot be inspected. -/
def probeError (entity : Entity) (failure : Failure) : StoreError :=
  let cause := failure.classify
  .reconciliation ("Failed to inspect table " ++ entity.tableName ++ ": " ++ cause.message)
    { entity := some entity.name, action := some "probe", cause := some cause }

/-- The live table of an entity. -/
def probe (reconciler : Reconciler) (entity : Entity) : Run TableState :=
  let inspection : Dialogue Request Request.Reply (Except Failure TableState) :=
    Dialogue.request (Request.inspect reconciler.pool entity.tableName)
  let attempts := Dialogue.retry reconciler.policy ("probe " ++ entity.tableName) inspection
  (Run.ofProgram (Program.ofSession attempts)).recover fun failure =>
    if failure.isAccess then do
      Run.log entity.name .probe .error failure.logText
      Run.fail (.own (probeError entity failure))
    else
      Run.fail failure

/-- Whether a failure is an error of reconciliation. -/
def isOwnError : Failure → Bool
  | .own error => error.family == .reconciliation
  | _ => false

/-- Make one change. -/
def applyAction (reconciler : Reconciler) (entity : Entity) (stage : RunStage)
    (action : DdlAction) : Run Unit := do
  let attempt := Run.ofProgram
    (action.apply reconciler.schema reconciler.pool entity.name reconciler.policy)
  let applied ← attempt.recover fun failure => do
    if isOwnError failure then
      Run.log entity.name stage .error (failure.text?.getD "")
    Run.fail failure
  let message := if applied then action.describe else action.describe ++ " (already present)"
  Run.log entity.name stage .info message

/-- Make changes in order. -/
def applyAll (reconciler : Reconciler) (entity : Entity) (stage : RunStage) :
    List DdlAction → Run Unit
  | [] => return ()
  | action :: rest => do
      reconciler.applyAction entity stage action
      reconciler.applyAll entity stage rest

/-- Bring the table of one entity in line. -/
def reconcileEntity (reconciler : Reconciler) (entity : Entity) : Run Unit := do
  let live ← reconciler.probe entity
  let found := if live.present then "exists" else "is missing"
  Run.log entity.name .probe .info ("table " ++ entity.tableName ++ " " ++ found)
  Run.ofProgram (Program.ofResult (entity.checkPlan live reconciler.traits))
  let plan := planEntity entity reconciler.schema live reconciler.traits
  let stage := if live.present then RunStage.update else .create
  Run.advance fun progress => plan.skipped.foldl (fun progress words =>
    progress.log entity.name stage .warning ("cannot " ++ words ++ " in place")) progress
  reconciler.applyAll entity stage plan.actions
  Run.log entity.name .done .info ("table " ++ entity.tableName ++ " reconciled (" ++
    toString plan.actions.length ++ " actions)")
  Run.advance (·.finish plan)

/-- Bring the tables of several entities in line, in order. -/
def reconcileAll (reconciler : Reconciler) : List Entity → Run Unit
  | [] => return ()
  | entity :: rest => do
      reconciler.reconcileEntity entity
      reconciler.reconcileAll rest

/-- What a run does while it holds the lock. -/
def body (reconciler : Reconciler) : Run Unit := do
  Run.log none .lock .info ("Reconciling " ++ toString reconciler.schema.entities.length ++
    " models on " ++ reconciler.traits.name)
  reconciler.reconcileAll reconciler.schema.entities

/-- Whether the answer to a request for a lock grants it. -/
def isGranted : Value → Bool
  | .scalar (.int n) => n == 1
  | .scalar (.bool b) => b
  | .scalar (.real x) => x.toInt? == some 1
  | _ => false

/-- Do something while holding the advisory lock, which is released in any case. -/
def withLock (reconciler : Reconciler) (body : Run Unit) : Run Unit := do
  if !reconciler.traits.advisoryLock then
    body
  else
    let name := reconciler.settings.reconcileLockName
    let lock : Dialogue Request Request.Reply (Except Failure LockAnswer) :=
      Dialogue.request
        (Request.lock reconciler.pool name reconciler.settings.reconcileLockTimeout)
    let answer ← Run.ofProgram (Program.ofSession lock)
    if isGranted answer.value then
      let unlock : Dialogue Request Request.Reply (Except Failure Unit) :=
        Dialogue.request (Request.unlock answer.connection name)
      body.ensuring (Run.ofProgram (Program.ofSession unlock))
    else
      Run.log none .lock .error ("lock " ++ name ++ " is held elsewhere")
      Run.fail (.own (.reconciliation ("Another reconciliation holds the lock " ++ name)
        { action := some "lock" }))

/-- The outcome that a run ends with.  Only errors of reconciliation carry a report. -/
def outcome : Except Failure Unit × Progress → Except RunFailure RunReport
  | (.ok (), progress) => .ok ⟨.completed, progress⟩
  | (.error failure, progress) =>
      .error ⟨failure, if isOwnError failure then some ⟨.failed, progress⟩ else none⟩

/-- Bring all tables of a schema in line. -/
def run (reconciler : Reconciler) : Session (Except RunFailure RunReport) :=
  outcome <$> (reconciler.withLock reconciler.body).hold {}

end Reconciler
end SchemaStore
