import SchemaStore.Proofs.Reconciliation.Ending

/-!
# The lock of a run

Where the backend has advisory locks, a run asks for one before anything else and
goes on only if it is granted; it gives the lock back after everything else, on
the connection that holds it, however the run ends.  `Reconciler.Held` lists the
ways in which a run is held under a lock, and `Dialogue.Only` says which requests
a dialogue can make at all.
-/

namespace SchemaStore

def Event.isLocking : Event Request Request.Reply → Bool
  | .asked (.lock ..) _ | .asked (.unlock ..) _ => true
  | _ => false

namespace Dialogue

variable {Request : Type} {Reply : Request → Type} {State α β : Type}

/-- Whatever it is answered, a dialogue only makes requests of some kind. -/
inductive Only (kind : Request → Prop) : Dialogue Request Reply α → Prop where
  | done (result : α) : Only kind (.done result)
  | ask {request : Request} {next : Reply request → Dialogue Request Reply α}
      (ofKind : kind request) (rest : ∀ reply, Only kind (next reply)) :
      Only kind (.ask request next)
  | pause {next : Dialogue Request Reply α} (delay : Scalar) (rest : Only kind next) :
      Only kind (.pause delay next)
  | note {next : Dialogue Request Reply α} (entry : LogEntry) (rest : Only kind next) :
      Only kind (.note entry next)

namespace Only

variable {kind : Request → Prop}

theorem request {request : Request} (ofKind : kind request) :
    Only kind (Dialogue.request request : Dialogue Request Reply _) :=
  .ask ofKind .done

theorem bind {dialogue : Dialogue Request Reply α} {next : α → Dialogue Request Reply β}
    (only : dialogue.Only kind) (goesOn : ∀ result, (next result).Only kind) :
    (dialogue.bind next).Only kind := by
  induction only with
  | done result => exact goesOn result
  | ask ofKind _ induction => exact .ask ofKind induction
  | pause delay _ induction => exact .pause delay induction
  | note entry _ induction => exact .note entry induction

theorem map {dialogue : Dialogue Request Reply α} (only : dialogue.Only kind) (f : α → β) :
    (f <$> dialogue).Only kind :=
  only.bind fun result => .done (f result)

theorem retry {operation : Dialogue Request Reply (Except Failure α)}
    (only : operation.Only kind) (policy : RetryPolicy) (description : String) :
    (Dialogue.retry policy description operation).Only kind := by
  have fromAttempt (retries attempt : Nat) :
      (Dialogue.attemptFrom policy description operation attempt retries).Only kind := by
    induction retries generalizing attempt with
    | zero => exact only
    | succ retries induction =>
        refine only.bind fun result => ?_
        cases result with
        | ok a => exact .done _
        | error failure =>
            dsimp only
            split
            · exact .done _
            · exact .note _ (.pause _ (induction _))
  exact fromAttempt _ 1

/-- The requests of a dialogue that was held are of its kind. -/
theorem of_run {dialogue : Dialogue Request Reply α} (only : dialogue.Only kind)
    {responder : Responder Request Reply State} {state : State} {request : Request}
    {reply : Reply request}
    (asked : .asked request reply ∈ (dialogue.run responder state).events) : kind request := by
  induction only generalizing state with
  | done => cases asked
  | ask ofKind _ induction =>
      rcases List.mem_cons.mp asked with same | later
      · cases same
        exact ofKind
      · exact induction _ later
  | pause delay _ induction | note entry _ induction =>
      rcases List.mem_cons.mp asked with same | later
      · cases same
      · exact induction later

end Only
end Dialogue

namespace Run

variable {α β : Type} {kind : Request → Prop}

/-- Whatever it is answered, a stage only makes requests of some kind. -/
def Only (kind : Request → Prop) (run : Run α) : Prop :=
  ∀ progress, (run.hold progress).Only kind

namespace Only

theorem pure (a : α) : (Pure.pure a : Run α).Only kind :=
  fun _ => .done _

theorem advance (step : Progress → Progress) : (Run.advance step).Only kind :=
  fun _ => .done _

theorem fail (failure : Failure) : (Run.fail failure : Run α).Only kind :=
  fun _ => .done _

theorem ofProgram {program : Program α} (only : program.session.Only kind) :
    (Run.ofProgram program).Only kind :=
  fun _ => only.map _

theorem bind {run : Run α} {next : α → Run β} (only : run.Only kind)
    (goesOn : ∀ a, (next a).Only kind) : (run >>= next).Only kind := by
  refine fun progress => (only progress).bind fun (result, progress) => ?_
  cases result with
  | error failure => exact .done _
  | ok a => exact goesOn a progress

theorem recover {run : Run α} {rescue : Failure → Run α} (only : run.Only kind)
    (rescues : ∀ failure, (rescue failure).Only kind) : (run.recover rescue).Only kind := by
  refine fun progress => (only progress).bind fun (result, progress) => ?_
  cases result with
  | error failure => exact rescues failure progress
  | ok a => exact .done _

theorem ite {condition : Prop} [Decidable condition] {run other : Run α} (only : run.Only kind)
    (otherOnly : other.Only kind) : (if condition then run else other).Only kind := by
  split
  · exact only
  · exact otherOnly

end Only
end Run

namespace Reconciler

variable {reconciler : Reconciler}

/-- A request for the description of a table, or for a change of one. -/
inductive IsWork (reconciler : Reconciler) : Request → Prop where
  | inspect (table : String) : IsWork reconciler (.inspect reconciler.pool table)
  | alter (action : DdlAction) :
      IsWork reconciler (.alter reconciler.pool reconciler.schema action)

theorem probe_only (entity : Entity) : (reconciler.probe entity).Only reconciler.IsWork := by
  refine .recover (.ofProgram ?_) fun failure => ?_
  · exact Dialogue.Only.retry (.request (.inspect entity.tableName)) _ _
  · exact .ite (.bind (.advance _) fun _ => .fail _) (.fail _)

theorem applyAction_only (entity : Entity) (stage : RunStage) (action : DdlAction) :
    (reconciler.applyAction entity stage action).Only reconciler.IsWork := by
  refine .bind (.recover (.ofProgram ?_) fun failure => ?_) fun applied => .advance _
  · let change : Session (Except Failure Unit) :=
      Dialogue.request (Request.alter reconciler.pool reconciler.schema action)
    have attempts : (Dialogue.retry reconciler.policy action.describe change).Only
        reconciler.IsWork := .retry (.request (.alter action)) _ _
    refine (attempts.bind fun result => ?_).bind fun result => ?_
    · cases result <;> exact .done _
    · cases result with
      | ok => exact .done _
      | error failure =>
          dsimp only
          split <;> exact .done _
  · exact .ite (.bind (.advance _) fun _ => .fail _) (.fail _)

theorem applyAll_only (entity : Entity) (stage : RunStage) (actions : List DdlAction) :
    (reconciler.applyAll entity stage actions).Only reconciler.IsWork := by
  induction actions with
  | nil => exact .pure ()
  | cons action rest induction => exact (applyAction_only entity stage action).bind fun _ => induction

theorem reconcileEntity_only (entity : Entity) :
    (reconciler.reconcileEntity entity).Only reconciler.IsWork := by
  refine (probe_only entity).bind fun live => ?_
  refine .bind (.advance _) fun _ => .bind (.ofProgram (.done _)) fun _ => ?_
  refine .bind (.advance _) fun _ => .bind (applyAll_only entity _ _) fun _ => ?_
  exact .bind (.advance _) fun _ => .advance _

/-- While it holds the lock, a run only asks for tables and changes of them. -/
theorem body_only (reconciler : Reconciler) : reconciler.body.Only reconciler.IsWork := by
  have all (entities : List Entity) :
      (reconciler.reconcileAll entities).Only reconciler.IsWork := by
    induction entities with
    | nil => exact .pure ()
    | cons entity rest induction => exact (reconcileEntity_only entity).bind fun _ => induction
  exact .bind (.advance _) fun _ => all _

def lockError (reconciler : Reconciler) : StoreError :=
  .reconciliation
    ("Another reconciliation holds the lock " ++ reconciler.settings.reconcileLockName)
    { action := some "lock" }

def lockRequest (reconciler : Reconciler) : Request :=
  .lock reconciler.pool reconciler.settings.reconcileLockName
    reconciler.settings.reconcileLockTimeout

/-- The request that gives the lock back on the connection that holds it. -/
def unlockRequest (reconciler : Reconciler) (answer : LockAnswer) : Request :=
  .unlock answer.connection reconciler.settings.reconcileLockName

section Ends

variable {State : Type} {backend : Backend State}

/-- How a run goes that may need a lock: what it ends with, what happens, and how far it comes. -/
inductive Held (reconciler : Reconciler) (backend : Backend State) (state : State) :
    Except Failure Unit → List (Event Request Request.Reply) → Progress → Prop where
  /-- The backend has no locks. -/
  | free {outcome : Except Failure Unit} {events : List (Event Request Request.Reply)}
      {final : Progress × State} (noLocks : reconciler.traits.advisoryLock = false)
      (work : reconciler.body.Ends backend ({}, state) outcome events final) :
      Held reconciler backend state outcome events final.1
  /-- The backend fails to answer whether the lock is granted. -/
  | unanswered {failure : Failure} (locks : reconciler.traits.advisoryLock = true) :
      Held reconciler backend state (.error failure)
        [.asked reconciler.lockRequest (.error failure : Except Failure LockAnswer)] {}
  | refused {answer : LockAnswer} {final : Progress}
      (locks : reconciler.traits.advisoryLock = true) (refused : isGranted answer.value = false)
      (noPlans : final.plans = []) :
      Held reconciler backend state (.error (.own reconciler.lockError))
        [.asked reconciler.lockRequest (.ok answer : Except Failure LockAnswer)] final
  /-- The lock is given back after the work. -/
  | granted {answer : LockAnswer} {outcome : Except Failure Unit}
      {events : List (Event Request Request.Reply)} {start : State} {final : Progress × State}
      {released : Except Failure Unit} (locks : reconciler.traits.advisoryLock = true)
      (granted : isGranted answer.value = true)
      (work : reconciler.body.Ends backend ({}, start) outcome events final) :
      Held reconciler backend state (released >>= fun _ => outcome)
        (.asked reconciler.lockRequest (.ok answer : Except Failure LockAnswer) ::
          (events ++ [.asked (reconciler.unlockRequest answer) released])) final.1

theorem held_of_withLock {state : State} {outcome : Except Failure Unit}
    {events : List (Event Request Request.Reply)} {final : Progress × State}
    (ends : (reconciler.withLock reconciler.body).Ends backend ({}, state) outcome events final) :
    reconciler.Held backend state outcome events final.1 := by
  unfold withLock at ends
  cases locks : reconciler.traits.advisoryLock with
  | false =>
      rw [locks] at ends
      exact .free locks ends
  | true =>
      rw [locks] at ends
      rcases ends.bind_cases with
        ⟨failure, rfl, locked⟩ | ⟨answer, ⟨progress, start⟩, _, _, locked, rest, rfl⟩
      · obtain ⟨asked, sameProgress⟩ := locked.of_ofProgram
        obtain ⟨answered, rfl⟩ := Dialogue.answer_of_run_request asked
        rw [sameProgress]
        exact .unanswered locks
      · obtain ⟨asked, rfl⟩ := locked.of_ofProgram
        obtain ⟨answered, rfl⟩ := Dialogue.answer_of_run_request asked
        dsimp only at rest
        split at rest
        · next isGranted =>
          obtain ⟨ended, middle, work, _, cleaned, worked, released, rfl, gives⟩ :=
            rest.ensuring_cases
          obtain ⟨askedBack, sameAfter⟩ := released.of_ofProgram
          obtain ⟨answeredBack, rfl⟩ := Dialogue.answer_of_run_request askedBack
          -- A failure to give the lock back replaces what the work ended with.
          have outcomes : outcome = cleaned >>= fun _ => ended := by
            rcases gives with ⟨rfl, rfl⟩ | ⟨failure, rfl, rfl⟩ <;> rfl
          rw [outcomes, sameAfter]
          exact .granted locks isGranted worked
        · next notGranted =>
          obtain ⟨rfl, rfl, rfl⟩ := (Run.Ends.of_advance_bind rest).of_fail
          exact .refused locks (Bool.eq_false_iff.mpr notGranted) rfl

theorem held_of_run {state final : State} {result : Except RunFailure RunReport}
    {events : List (Event Request Request.Reply)}
    (ran : reconciler.run.run backend state = ⟨result, events, final⟩) :
    ∃ ended progress, reconciler.Held backend state ended events progress ∧
      result = outcome (ended, progress) := by
  obtain ⟨⟨ended, progress⟩, first, between, second, held, given, rfl⟩ :=
    Dialogue.exists_of_run_bind ran
  cases given
  have ends : (reconciler.withLock reconciler.body).Ends backend ({}, state) ended first
      (progress, final) := held
  rw [List.append_nil]
  exact ⟨ended, progress, held_of_withLock ends, rfl⟩

/-- While it works, a run neither asks for a lock nor gives one back. -/
theorem not_isLocking_of_body {start final : Progress × State} {ended : Except Failure Unit}
    {events : List (Event Request Request.Reply)}
    (work : reconciler.body.Ends backend start ended events final) :
    ∀ event ∈ events, event.isLocking = false := by
  intro event member
  cases event with
  | paused | noted => rfl
  | asked request reply =>
      have same : ((reconciler.body.hold start.1).run backend start.2).events = events :=
        congrArg Transcript.events work
      rw [← same] at member
      cases (reconciler.body_only start.1).of_run member <;> rfl

/-- A run asks for the lock before anything else.  Unless it is granted, nothing else happens; if it
is granted, the run gives it back once, on the connection that holds it, after everything else. -/
theorem run_bracketed (reconciler : Reconciler) (backend : Backend State) (state : State) :
    let held := reconciler.run.run backend state
    (reconciler.traits.advisoryLock = false →
      ∀ event ∈ held.events, event.isLocking = false) ∧
    (reconciler.traits.advisoryLock = true →
      ∃ (reply : Except Failure LockAnswer) (rest : List (Event Request Request.Reply)),
        held.events = .asked reconciler.lockRequest reply :: rest ∧
        match reply with
        | .error _ => rest = []
        | .ok answer =>
            if isGranted answer.value then
              ∃ work released,
                rest = work ++ [.asked (reconciler.unlockRequest answer) released] ∧
                  ∀ event ∈ work, event.isLocking = false
            else
              rest = [] ∧ ∃ error report, held.result = .error ⟨.own error, some report⟩ ∧
                error.family = .reconciliation ∧ error.context.action = some "lock" ∧
                report.status = .failed) := by
  dsimp only
  generalize ran : reconciler.run.run backend state = transcript
  obtain ⟨result, events, final⟩ := transcript
  obtain ⟨ended, progress, held, rfl⟩ := held_of_run ran
  refine ⟨fun noLocks => ?_, fun locks => ?_⟩
  · cases held with
    | free _ work => exact not_isLocking_of_body work
    | unanswered locks | refused locks | granted locks => cases noLocks.symm.trans locks
  · cases held with
    | free noLocks => cases noLocks.symm.trans locks
    | @unanswered failure => exact ⟨.error failure, [], rfl, rfl⟩
    | @refused answer _ _ notGranted =>
        refine ⟨.ok answer, [], rfl, ?_⟩
        simp only [notGranted, Bool.false_eq_true, if_false, true_and]
        exact ⟨_, _, rfl, rfl, rfl, rfl⟩
    | @granted answer _ work _ _ released _ granted worked =>
        refine ⟨.ok answer, _, rfl, ?_⟩
        simp only [granted, if_true]
        exact ⟨work, released, rfl, not_isLocking_of_body worked⟩

end Ends

end Reconciler
end SchemaStore
