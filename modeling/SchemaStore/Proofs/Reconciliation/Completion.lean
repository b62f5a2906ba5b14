import SchemaStore.Proofs.Ddl.Prerequisite
import SchemaStore.Reconciliation.Run

/-!
# Completed runs

A run that completes has probed the table of every entity and tried all the
changes that it planned for it.  `Reconciled` says which changes may have been
made, and what tables they lead to.  `Reconciler.run_reconciled` says that of
every completed run whose backend shows the tables as they are and changes them
only by the changes that it reports as made.
-/

namespace SchemaStore

/-- The change that a backend made in an event. -/
def Event.change? : Event Request Request.Reply → Option DdlAction
  | .asked (.alter _ _ action) reply =>
      match (reply : Except Failure Unit) with
      | .ok () => some action
      | .error _ => none
  | _ => none

def changesMade (events : List (Event Request Request.Reply)) : List DdlAction :=
  events.filterMap Event.change?

@[simp] theorem changesMade_append (events others : List (Event Request Request.Reply)) :
    changesMade (events ++ others) = changesMade events ++ changesMade others :=
  List.filterMap_append

/-- A backend shows a run its tables as they are, and only the changes that it reports as made
change them. -/
structure Reconciler.Tracks {State : Type} (reconciler : Reconciler) (backend : Backend State)
    (tables : State → LiveTables) : Prop where
  shows : ∀ table state live next,
    backend (.inspect reconciler.pool table) state = (.ok live, next) →
      live = tables state table
  inspects : ∀ table state,
    tables (backend (.inspect reconciler.pool table) state).2 = tables state
  makes : ∀ action state next,
    backend (.alter reconciler.pool reconciler.schema action) state = (.ok (), next) →
      tables next = action.perform reconciler.schema reconciler.traits (tables state)
  refuses : ∀ action state failure next,
    backend (.alter reconciler.pool reconciler.schema action) state = (.error failure, next) →
      tables next = tables state
  locks : ∀ name timeout state,
    tables (backend (.lock reconciler.pool name timeout) state).2 = tables state
  unlocks : ∀ connection name state,
    tables (backend (.unlock connection name) state).2 = tables state

/-- The plans of a run for some entities, the changes that were made of them, and the tables that
these led to. -/
inductive Reconciled (schema : Schema) (traits : BackendTraits) :
    LiveTables → List Entity → List ReconciliationPlan → List DdlAction → LiveTables → Prop where
  | none (tables : LiveTables) : Reconciled schema traits tables [] [] [] tables
  | next {tables final : LiveTables} {entity : Entity} {others : List Entity}
      {plans : List ReconciliationPlan} {made later : List DdlAction}
      (planned : made.Sublist (planEntity entity schema (tables entity.tableName) traits).actions)
      (rest : Reconciled schema traits (tables.afterAll schema traits made) others plans later
        final) :
      Reconciled schema traits tables (entity :: others)
        (planEntity entity schema (tables entity.tableName) traits :: plans) (made ++ later) final

namespace Run

variable {State α β : Type} {backend : Backend State}

/-- A stage succeeds, and leads from a progress and a state of the backend to others. -/
def Completes (backend : Backend State) (run : Run α) (start : Progress × State) (result : α)
    (events : List (Event Request Request.Reply)) (final : Progress × State) : Prop :=
  (run.hold start.1).run backend start.2 = ⟨(.ok result, final.1), events, final.2⟩

namespace Completes

variable {start final : Progress × State} {events : List (Event Request Request.Reply)} {a : α}

theorem of_bind {run : Run α} {next : α → Run β} {b : β}
    (completes : (run >>= next).Completes backend start b events final) :
    ∃ a between first second, run.Completes backend start a first between ∧
      (next a).Completes backend between b second final ∧ events = first ++ second := by
  obtain ⟨⟨outcome, progress⟩, first, state, second, held, heldNext, split⟩ :=
    Dialogue.exists_of_run_bind completes
  cases outcome with
  | error failure => cases heldNext
  | ok a => exact ⟨a, (progress, state), first, second, held, heldNext, split⟩

theorem of_advance {step : Progress → Progress} {result : Unit}
    (completes : (advance step).Completes backend start result events final) :
    final = (step start.1, start.2) ∧ events = [] := by
  obtain ⟨progress, state⟩ := final
  cases completes
  exact ⟨rfl, rfl⟩

theorem of_ofProgram {program : Program α}
    (completes : (ofProgram program).Completes backend start a events final) :
    program.session.run backend start.2 = ⟨.ok a, events, final.2⟩ ∧ final.1 = start.1 := by
  obtain ⟨progress, state⟩ := final
  obtain ⟨outcome, first, between, second, held, heldNext, rfl⟩ :=
    Dialogue.exists_of_run_bind completes
  cases heldNext
  rw [held, List.append_nil]
  exact ⟨rfl, rfl⟩

theorem of_ofResult {result : Except Failure α}
    (completes : (ofProgram (Program.ofResult result)).Completes backend start a events final) :
    final = start ∧ events = [] := by
  obtain ⟨progress, state⟩ := final
  cases completes
  exact ⟨rfl, rfl⟩

theorem not_fail (failure : Failure) :
    ¬(fail failure : Run α).Completes backend start a events final := by
  intro completes
  cases congrArg (fun held : Transcript _ _ _ _ => held.result.1) completes

/-- A stage that fails, with or without telling about it, does not complete. -/
theorem not_tell_fail (told : Prop) [Decidable told] (tell : Run Unit) (failure other : Failure) :
    ¬(if told then do
        tell
        fail failure
      else fail other : Run α).Completes backend start a events final := by
  split
  · intro completes
    obtain ⟨_, _, _, _, -, failed, -⟩ := completes.of_bind
    exact not_fail failure failed
  · exact not_fail other

/-- If nothing completes after a failure, a stage completes by itself. -/
theorem of_recover {run : Run α} {rescue : Failure → Run α}
    (fails : ∀ failure progress others,
      ¬(rescue failure).Completes backend progress a others final)
    (completes : (run.recover rescue).Completes backend start a events final) :
    run.Completes backend start a events final := by
  obtain ⟨⟨outcome, progress⟩, first, state, second, held, heldNext, rfl⟩ :=
    Dialogue.exists_of_run_bind completes
  cases outcome with
  | error failure => exact absurd heldNext (fails failure (progress, state) second)
  | ok result =>
      obtain ⟨finalProgress, finalState⟩ := final
      cases heldNext
      rw [Completes, held, List.append_nil]

/-- A stage that is followed by a cleanup completes if both do. -/
theorem of_ensuring {run : Run α} {cleanup : Run Unit}
    (completes : (run.ensuring cleanup).Completes backend start a events final) :
    ∃ between first second, run.Completes backend start a first between ∧
      cleanup.Completes backend between () second final ∧ events = first ++ second := by
  obtain ⟨finalProgress, finalState⟩ := final
  obtain ⟨⟨outcome, progress⟩, first, state, rest, held, heldRest, rfl⟩ :=
    Dialogue.exists_of_run_bind completes
  obtain ⟨⟨ended, after⟩, second, last, third, cleaned, heldLast, rfl⟩ :=
    Dialogue.exists_of_run_bind heldRest
  cases ended with
  | error failure => cases heldLast
  | ok done =>
      cases heldLast
      exact ⟨(progress, state), first, second, held, cleaned, by rw [List.append_nil]⟩

end Completes
end Run

section Attempts

variable {State α : Type} {backend : Backend State} {tables : State → LiveTables}
  {operation : Session (Except Failure α)}

/-- How attempts of an operation end if failed ones change nothing: the tables are changed by the
one that succeeds, if any does. -/
inductive Attempted (backend : Backend State) (tables : State → LiveTables)
    (operation : Session (Except Failure α)) (state : State) :
    Except Failure α → List (Event Request Request.Reply) → State → Prop where
  | succeeded {a : α} {between final : State} {events last : List (Event Request Request.Reply)}
      (same : tables between = tables state)
      (held : operation.run backend between = ⟨.ok a, last, final⟩)
      (made : changesMade events = changesMade last) :
      Attempted backend tables operation state (.ok a) events final
  | failed {failure : Failure} {final : State} {events : List (Event Request Request.Reply)}
      (same : tables final = tables state) (made : changesMade events = []) :
      Attempted backend tables operation state (.error failure) events final

/-- Failed attempts change nothing. -/
def FailsUnchanged (backend : Backend State) (tables : State → LiveTables)
    (operation : Session (Except Failure α)) : Prop :=
  ∀ state failure events final, operation.run backend state = ⟨.error failure, events, final⟩ →
    tables final = tables state ∧ changesMade events = []

theorem attempted_of_run (unchanged : FailsUnchanged backend tables operation)
    {state final : State} {outcome : Except Failure α}
    {events : List (Event Request Request.Reply)}
    (held : operation.run backend state = ⟨outcome, events, final⟩) :
    Attempted backend tables operation state outcome events final := by
  cases outcome with
  | ok a => exact .succeeded rfl held rfl
  | error failure =>
      obtain ⟨same, made⟩ := unchanged state failure events final held
      exact .failed same made

/-- A failed attempt before other ones makes no difference. -/
theorem Attempted.after {state between final : State} {outcome : Except Failure α}
    {first events : List (Event Request Request.Reply)}
    (attempted : Attempted backend tables operation between outcome events final)
    (same : tables between = tables state) (made : changesMade first = []) :
    Attempted backend tables operation state outcome (first ++ events) final := by
  cases attempted with
  | succeeded sameLater held madeLater =>
      exact .succeeded (sameLater.trans same) held (by simp [made, madeLater])
  | failed sameLater madeLater =>
      exact .failed (sameLater.trans same) (by simp [made, madeLater])

theorem attempted_of_retry (unchanged : FailsUnchanged backend tables operation)
    {policy : RetryPolicy} {description : String} {state final : State}
    {outcome : Except Failure α} {events : List (Event Request Request.Reply)}
    (held : (Dialogue.retry policy description operation).run backend state =
      ⟨outcome, events, final⟩) :
    Attempted backend tables operation state outcome events final := by
  have fromAttempt (retries attempt : Nat) {state : State}
      {events : List (Event Request Request.Reply)}
      (held : (Dialogue.attemptFrom policy description operation attempt retries).run backend
        state = ⟨outcome, events, final⟩) :
      Attempted backend tables operation state outcome events final := by
    induction retries generalizing attempt state events with
    | zero => exact attempted_of_run unchanged held
    | succ retries induction =>
        obtain ⟨middle, first, between, rest, tried, heldRest, rfl⟩ :=
          Dialogue.exists_of_run_bind held
        cases middle with
        | ok a =>
            cases heldRest
            exact attempted_of_run unchanged (by rw [tried, List.append_nil])
        | error failure =>
            obtain ⟨same, made⟩ := unchanged _ _ _ _ tried
            refine Attempted.after ?_ same made
            dsimp only at heldRest
            split at heldRest
            · cases heldRest
              exact .failed rfl rfl
            · -- The warning and the pause before the next attempt are no changes.
              obtain ⟨_, _, _, _, logged, heldPause, rfl⟩ := Dialogue.exists_of_run_bind heldRest
              cases logged
              obtain ⟨_, _, _, _, paused, heldLater, rfl⟩ := Dialogue.exists_of_run_bind heldPause
              cases paused
              exact ((induction _ heldLater).after rfl rfl).after rfl rfl
  exact fromAttempt _ 1 held

end Attempts

section Tracking

variable {State : Type} {backend : Backend State} {tables : State → LiveTables}
  {reconciler : Reconciler}

theorem Run.Completes.of_log {entity : Option String} {stage : RunStage} {level : LogLevel}
    {message : String} {start final : Progress × State}
    {events : List (Event Request Request.Reply)}
    (completes : (Run.log entity stage level message).Completes backend start () events final) :
    final.1.plans = start.1.plans ∧ final.2 = start.2 ∧ events = [] := by
  obtain ⟨rfl, none⟩ := completes.of_advance
  exact ⟨rfl, rfl, none⟩

/-- A change that is applied was made, or it was refused and the tables are as before. -/
theorem DdlAction.apply_cases (tracks : reconciler.Tracks backend tables) {action : DdlAction}
    {entity : String} {applied : Bool} {state final : State}
    {events : List (Event Request Request.Reply)}
    (held : (action.apply reconciler.schema reconciler.pool entity reconciler.policy).session.run
      backend state = ⟨.ok applied, events, final⟩) :
    changesMade events = [action] ∧
        tables final = action.perform reconciler.schema reconciler.traits (tables state) ∨
      changesMade events = [] ∧ tables final = tables state := by
  let change : Session (Except Failure Unit) :=
    Dialogue.request (Request.alter reconciler.pool reconciler.schema action)
  have unchanged : FailsUnchanged backend tables change := by
    intro state failure events final asked
    obtain ⟨answered, rfl⟩ := Dialogue.answer_of_run_request asked
    exact ⟨tracks.refuses action state failure final answered, rfl⟩
  obtain ⟨outcome, first, between, rest, attempts, heldRest, rfl⟩ :=
    Dialogue.exists_of_run_bind held
  obtain ⟨reply, tried, middle, none, repeated, mapped, rfl⟩ :=
    Dialogue.exists_of_run_bind attempts
  have attempted := attempted_of_retry unchanged repeated
  cases attempted with
  | succeeded same made sameChanges =>
      obtain ⟨answered, rfl⟩ := Dialogue.answer_of_run_request made
      cases mapped
      cases heldRest
      refine .inl ⟨?_, ?_⟩
      · rw [List.append_nil, List.append_nil, sameChanges]
        rfl
      · rw [tracks.makes action _ _ answered, same]
  | failed same made =>
      cases mapped
      refine .inr ?_
      dsimp only at heldRest
      split at heldRest
      · cases heldRest
        simp [made, same]
      · cases heldRest

/-- The probe of a table shows it as it is and changes nothing. -/
theorem Reconciler.probe_completes (tracks : reconciler.Tracks backend tables) {entity : Entity}
    {live : TableState} {start final : Progress × State}
    {events : List (Event Request Request.Reply)}
    (completes : (reconciler.probe entity).Completes backend start live events final) :
    live = tables start.2 entity.tableName ∧ tables final.2 = tables start.2 ∧
      changesMade events = [] ∧ final.1.plans = start.1.plans := by
  have probed := Run.Completes.of_recover
    (fun failure _ _ => Run.Completes.not_tell_fail _ _ _ failure) completes
  obtain ⟨held, sameProgress⟩ := probed.of_ofProgram
  let inspection : Session (Except Failure TableState) :=
    Dialogue.request (Request.inspect reconciler.pool entity.tableName)
  have unchanged : FailsUnchanged backend tables inspection := by
    intro state failure events final asked
    obtain ⟨answered, rfl⟩ := Dialogue.answer_of_run_request asked
    have same := tracks.inspects entity.tableName state
    rw [answered] at same
    exact ⟨same, rfl⟩
  have attempted := attempted_of_retry unchanged held
  cases attempted with
  | succeeded same made sameChanges =>
      obtain ⟨answered, rfl⟩ := Dialogue.answer_of_run_request made
      have untouched := congrArg (tables ·.2) answered
      rw [tracks.inspects] at untouched
      refine ⟨?_, untouched.symm.trans same, sameChanges, by rw [sameProgress]⟩
      rw [tracks.shows _ _ _ _ answered, same]

namespace Reconciler

theorem applyAction_completes (tracks : reconciler.Tracks backend tables) {entity : Entity}
    {stage : RunStage} {action : DdlAction} {start final : Progress × State}
    {events : List (Event Request Request.Reply)}
    (completes : (reconciler.applyAction entity stage action).Completes backend start () events
      final) :
    (changesMade events = [action] ∧
        tables final.2 = action.perform reconciler.schema reconciler.traits (tables start.2) ∨
      changesMade events = [] ∧ tables final.2 = tables start.2) ∧
    final.1.plans = start.1.plans := by
  obtain ⟨applied, between, first, second, attempted, logged, rfl⟩ := completes.of_bind
  have changed := Run.Completes.of_recover
    (fun failure _ _ => Run.Completes.not_tell_fail _ _ failure failure) attempted
  obtain ⟨held, sameProgress⟩ := changed.of_ofProgram
  obtain ⟨samePlans, sameState, rfl⟩ := logged.of_log
  rw [List.append_nil, samePlans, sameProgress, sameState]
  exact ⟨DdlAction.apply_cases tracks held, rfl⟩

theorem applyAll_completes (tracks : reconciler.Tracks backend tables) {entity : Entity}
    {stage : RunStage} {actions : List DdlAction} {start final : Progress × State}
    {events : List (Event Request Request.Reply)}
    (completes : (reconciler.applyAll entity stage actions).Completes backend start () events
      final) :
    (changesMade events).Sublist actions ∧
      tables final.2 =
        (tables start.2).afterAll reconciler.schema reconciler.traits (changesMade events) ∧
      final.1.plans = start.1.plans := by
  induction actions generalizing start events with
  | nil =>
      obtain ⟨progress, state⟩ := final
      cases completes
      exact ⟨.slnil, rfl, rfl⟩
  | cons action rest induction =>
      obtain ⟨_, between, first, second, applied, others, rfl⟩ := completes.of_bind
      obtain ⟨changed, samePlans⟩ := applyAction_completes tracks applied
      obtain ⟨made, after, plans⟩ := induction others
      rw [changesMade_append, after, plans, samePlans]
      rcases changed with ⟨single, performed⟩ | ⟨none, same⟩
      · rw [single, performed]
        exact ⟨made.cons_cons action, rfl, rfl⟩
      · rw [none, same]
        exact ⟨made.cons action, rfl, rfl⟩

theorem plans_warnings (entity : Option String) (stage : RunStage) (skipped : List String)
    (progress : Progress) :
    (skipped.foldl (fun progress words =>
      progress.log entity stage .warning ("cannot " ++ words ++ " in place")) progress).plans =
        progress.plans := by
  induction skipped generalizing progress with
  | nil => rfl
  | cons words rest induction => exact induction _

/-- The run of one entity makes some of the changes that are planned for its live table. -/
theorem reconcileEntity_completes (tracks : reconciler.Tracks backend tables) {entity : Entity}
    {start final : Progress × State} {events : List (Event Request Request.Reply)}
    (completes : (reconciler.reconcileEntity entity).Completes backend start () events final) :
    let plan := planEntity entity reconciler.schema (tables start.2 entity.tableName)
      reconciler.traits
    (changesMade events).Sublist plan.actions ∧
      tables final.2 =
        (tables start.2).afterAll reconciler.schema reconciler.traits (changesMade events) ∧
      final.1.plans = start.1.plans ++ [plan] := by
  intro plan
  obtain ⟨live, _, _, _, probed, afterProbe, rfl⟩ := completes.of_bind
  obtain ⟨rfl, probedTables, probedChanges, probedPlans⟩ := probe_completes tracks probed
  obtain ⟨_, _, _, _, found, afterFound, rfl⟩ := afterProbe.of_bind
  obtain ⟨foundPlans, foundState, rfl⟩ := found.of_log
  obtain ⟨_, _, _, _, checked, afterCheck, rfl⟩ := afterFound.of_bind
  obtain ⟨rfl, rfl⟩ := checked.of_ofResult
  obtain ⟨_, _, _, _, warned, afterWarnings, rfl⟩ := afterCheck.of_bind
  obtain ⟨rfl, rfl⟩ := warned.of_advance
  obtain ⟨_, _, _, _, applied, afterChanges, rfl⟩ := afterWarnings.of_bind
  obtain ⟨made, appliedTables, appliedPlans⟩ := applyAll_completes tracks applied
  obtain ⟨_, _, _, _, told, finished, rfl⟩ := afterChanges.of_bind
  obtain ⟨toldPlans, toldState, rfl⟩ := told.of_log
  obtain ⟨rfl, rfl⟩ := finished.of_advance
  rw [changesMade_append, probedChanges]
  simp only [List.nil_append, List.append_nil]
  refine ⟨made, ?_, ?_⟩
  · rw [toldState, appliedTables, foundState, probedTables]
  · rw [Progress.finish, toldPlans, appliedPlans, plans_warnings, foundPlans, probedPlans]

theorem reconcileAll_completes (tracks : reconciler.Tracks backend tables)
    {entities : List Entity} {start final : Progress × State}
    {events : List (Event Request Request.Reply)}
    (completes : (reconciler.reconcileAll entities).Completes backend start () events final) :
    ∃ plans, final.1.plans = start.1.plans ++ plans ∧
      Reconciled reconciler.schema reconciler.traits (tables start.2) entities plans
        (changesMade events) (tables final.2) := by
  induction entities generalizing start events with
  | nil =>
      obtain ⟨progress, state⟩ := final
      cases completes
      exact ⟨[], (List.append_nil _).symm, .none _⟩
  | cons entity rest induction =>
      obtain ⟨_, between, first, second, reconciled, others, rfl⟩ := completes.of_bind
      obtain ⟨made, after, planned⟩ := reconcileEntity_completes tracks reconciled
      obtain ⟨plans, allPlans, later⟩ := induction others
      rw [planned, List.append_assoc] at allPlans
      rw [after] at later
      rw [changesMade_append]
      exact ⟨_, allPlans, .next made later⟩

theorem body_completes (tracks : reconciler.Tracks backend tables)
    {start final : Progress × State} {events : List (Event Request Request.Reply)}
    (completes : reconciler.body.Completes backend start () events final) :
    ∃ plans, final.1.plans = start.1.plans ++ plans ∧
      Reconciled reconciler.schema reconciler.traits (tables start.2) reconciler.schema.entities
        plans (changesMade events) (tables final.2) := by
  obtain ⟨_, _, _, _, told, reconciled, rfl⟩ := completes.of_bind
  obtain ⟨samePlans, sameState, rfl⟩ := told.of_log
  rw [← samePlans, ← sameState]
  exact reconcileAll_completes tracks reconciled

/-- Holding a lock changes no tables. -/
theorem withLock_completes (tracks : reconciler.Tracks backend tables)
    {start final : Progress × State} {events : List (Event Request Request.Reply)}
    (completes : (reconciler.withLock reconciler.body).Completes backend start () events final) :
    ∃ plans, final.1.plans = start.1.plans ++ plans ∧
      Reconciled reconciler.schema reconciler.traits (tables start.2) reconciler.schema.entities
        plans (changesMade events) (tables final.2) := by
  unfold withLock at completes
  split at completes
  · exact body_completes tracks completes
  · obtain ⟨answer, _, _, _, locked, held, rfl⟩ := completes.of_bind
    obtain ⟨asked, sameProgress⟩ := locked.of_ofProgram
    obtain ⟨answered, rfl⟩ := Dialogue.answer_of_run_request asked
    have sameTables := congrArg (tables ·.2) answered
    rw [tracks.locks] at sameTables
    split at held
    · obtain ⟨_, made, _, ran, released, rfl⟩ := held.of_ensuring
      obtain ⟨askedBack, sameAfter⟩ := released.of_ofProgram
      obtain ⟨answeredBack, rfl⟩ := Dialogue.answer_of_run_request askedBack
      have sameTablesAfter := congrArg (tables ·.2) answeredBack
      rw [tracks.unlocks] at sameTablesAfter
      obtain ⟨plans, allPlans, reconciled⟩ := body_completes tracks ran
      rw [sameProgress] at allPlans
      dsimp only at sameTables sameTablesAfter
      rw [← sameTables, sameTablesAfter] at reconciled
      refine ⟨plans, by rw [sameAfter, allPlans], ?_⟩
      rw [changesMade_append, changesMade_append]
      convert reconciled using 1
      exact List.append_nil (changesMade made)
    · obtain ⟨_, _, _, _, -, failed, -⟩ := held.of_bind
      exact absurd failed (Run.Completes.not_fail _)

/-- A completed run makes some of the changes that it plans for the entities of its schema, and
reports the plans. -/
theorem run_reconciled (tracks : reconciler.Tracks backend tables) {state final : State}
    {report : RunReport} {events : List (Event Request Request.Reply)}
    (completed : reconciler.run.run backend state = ⟨.ok report, events, final⟩) :
    Reconciled reconciler.schema reconciler.traits (tables state) reconciler.schema.entities
      report.progress.plans (changesMade events) (tables final) := by
  obtain ⟨⟨result, progress⟩, first, between, second, held, ended, rfl⟩ :=
    Dialogue.exists_of_run_bind completed
  cases result with
  | error failure => cases ended
  | ok done =>
      cases ended
      have completes : (reconciler.withLock reconciler.body).Completes backend ({}, state) () first
          (progress, final) := held
      obtain ⟨plans, allPlans, reconciled⟩ := withLock_completes tracks completes
      rw [List.append_nil]
      rw [List.nil_append] at allPlans
      exact allPlans ▸ reconciled

end Reconciler

end Tracking

end SchemaStore
