import SchemaStore.Proofs.Reconciliation.Attempt

/-!
# How probes and changes end

A probe and a change are a series of attempts each.  The last attempt decides how
they end: with what it gave, or with the error that is made of its failure.
-/

namespace SchemaStore

variable {State α : Type} {backend : Backend State} {start final : Progress × State}
  {events : List (Event Request Request.Reply)}

/-- A stage that fails, with or without an entry in the report. -/
theorem Run.Ends.of_tell_fail {told : Prop} [Decidable told] {entity : Option String}
    {stage : RunStage} {level : LogLevel} {message : String} {failure other : Failure}
    {outcome : Except Failure α}
    (ends : (if told then do
        Run.log entity stage level message
        Run.fail failure
      else Run.fail other : Run α).Ends backend start outcome events final) :
    outcome = .error (if told then failure else other) ∧ final.1.plans = start.1.plans ∧
      events = [] := by
  split at ends
  · next tells =>
    obtain ⟨rfl, rfl, none⟩ := ends.of_advance_bind.of_fail
    exact ⟨by rw [if_pos tells], rfl, none⟩
  · next silent =>
    obtain ⟨rfl, rfl, none⟩ := ends.of_fail
    exact ⟨by rw [if_neg silent], rfl, none⟩

namespace Reconciler

variable {reconciler : Reconciler}

def probeFailure (entity : Entity) (failure : Failure) : Failure :=
  if failure.isAccess then .own (probeError entity failure) else failure

theorem probe_ends {entity : Entity} {outcome : Except Failure TableState}
    (ends : (reconciler.probe entity).Ends backend start outcome events final) :
    Series reconciler.policy.limit (.probe entity.tableName) (attempts events) ∧
      final.1.plans = start.1.plans ∧
      ∃ last ended, (attempts events).getLast? = some (.probe entity.tableName last) ∧
        Concluded ((attempts events).length == reconciler.policy.limit) last ended ∧
        outcome = ended.mapError (probeFailure entity) := by
  have series {ended : Except Failure TableState} {events : List (Event Request Request.Reply)}
      {final : State}
      (held : (Dialogue.retry reconciler.policy ("probe " ++ entity.tableName)
        (Dialogue.request (Request.inspect reconciler.pool entity.tableName) :
          Session (Except Failure TableState))).run backend start.2 = ⟨ended, events, final⟩) :=
    series_of_retry (.probe entity.tableName) (fun state => ⟨_, _, _, rfl, rfl⟩)
      (fun _ => rfl) (fun _ => rfl) held
  rcases ends.recover_cases with
    ⟨live, rfl, tried⟩ | ⟨failure, between, first, second, tried, rescued, rfl⟩
  · obtain ⟨held, sameProgress⟩ := tried.of_ofProgram
    obtain ⟨isSeries, last, atEnd, concluded⟩ := series held
    exact ⟨isSeries, by rw [sameProgress], last, _, atEnd, concluded, rfl⟩
  · obtain ⟨held, sameProgress⟩ := tried.of_ofProgram
    obtain ⟨isSeries, last, atEnd, concluded⟩ := series held
    obtain ⟨rfl, samePlans, rfl⟩ := rescued.of_tell_fail
    rw [List.append_nil]
    exact ⟨isSeries, by rw [samePlans, sameProgress], last, _, atEnd, concluded, rfl⟩

def changeOutcome (action : DdlAction) (entity : String) :
    Except Failure Unit → Except Failure Unit
  | .ok () => .ok ()
  | .error failure =>
      match action.refusal entity failure with
      | .present => .ok ()
      | .failed failure => .error failure

theorem isOk_changeOutcome (action : DdlAction) (entity : String) (failure : Failure) :
    (changeOutcome action entity (.error failure)).isOk =
      (action.isAbsorbable && DdlAction.isRefusal failure &&
        failure.isDuplicate? == some true) := by
  simp only [changeOutcome, DdlAction.refusal]
  rcases failure.isDuplicate? with - | - | - <;> cases action.isAbsorbable <;>
    cases DdlAction.isRefusal failure <;> rfl

/-- What the backend says when it cannot add a constraint is not that the name is taken. -/
theorem isDuplicate?_constraintUnsupported :
    Failure.constraintUnsupported.isDuplicate? = some false := by
  decide +kernel

/-- The last attempt at a change did it exactly if the change ends well. -/
theorem isDone_of_concluded {action : DdlAction} {entity : String} {exhausted : Bool}
    {last ended : Except Failure Unit} (concluded : Concluded exhausted last ended) :
    (Attempt.change action last).isDone exhausted = (changeOutcome action entity ended).isOk := by
  cases concluded with
  | succeeded => rfl
  | exhausted failure none => simp [isOk_changeOutcome, Attempt.isDone, none]
  | gaveUp failure other left gives =>
      rw [isOk_changeOutcome, left]
      rcases Failure.giveUp_cases gives with ⟨foreign, rfl⟩ | ⟨-, ⟨steady, rfl⟩ | ⟨undecided, rfl⟩⟩
      · cases other with
        | access => cases foreign
        | constraintUnsupported => simp [Attempt.isDone, isDuplicate?_constraintUnsupported]
        | _ => simp [Attempt.isDone, DdlAction.isRefusal]
      · simp [Attempt.isDone, steady]
      · simp [Attempt.isDone, undecided, DdlAction.isRefusal]

theorem apply_ends {action : DdlAction} {entity : String} {state final : State}
    {outcome : Except Failure Bool}
    (held : (action.apply reconciler.schema reconciler.pool entity reconciler.policy).session.run
      backend state = ⟨outcome, events, final⟩) :
    Series reconciler.policy.limit (.change action) (attempts events) ∧
      ∃ last ended, (attempts events).getLast? = some (.change action last) ∧
        Concluded ((attempts events).length == reconciler.policy.limit) last ended ∧
        (fun _ => ()) <$> outcome = changeOutcome action entity ended := by
  obtain ⟨middle, first, between, rest, tried, heldRest, rfl⟩ := Dialogue.exists_of_run_bind held
  obtain ⟨ended, repeated, after, none, attempted, mapped, rfl⟩ :=
    Dialogue.exists_of_run_bind tried
  obtain ⟨isSeries, last, atEnd, concluded⟩ :=
    series_of_retry (.change action) (fun state => ⟨_, _, _, rfl, rfl⟩) (fun _ => rfl)
      (fun _ => rfl) attempted
  cases ended with
  | ok done =>
      cases mapped
      cases heldRest
      simp only [List.append_nil]
      exact ⟨isSeries, last, _, atEnd, concluded, rfl⟩
  | error failure =>
      cases mapped
      dsimp only at heldRest
      split at heldRest
      · next present =>
        cases heldRest
        simp only [List.append_nil]
        exact ⟨isSeries, last, _, atEnd, concluded, by simp only [changeOutcome, present]; rfl⟩
      · next fails =>
        cases heldRest
        simp only [List.append_nil]
        exact ⟨isSeries, last, _, atEnd, concluded, by simp only [changeOutcome, fails]; rfl⟩

theorem applyAction_ends {entity : Entity} {stage : RunStage} {action : DdlAction}
    {outcome : Except Failure Unit}
    (ends : (reconciler.applyAction entity stage action).Ends backend start outcome events final) :
    Series reconciler.policy.limit (.change action) (attempts events) ∧
      final.1.plans = start.1.plans ∧
      ∃ last ended, (attempts events).getLast? = some (.change action last) ∧
        Concluded ((attempts events).length == reconciler.policy.limit) last ended ∧
        outcome = changeOutcome action entity.name ended := by
  rcases ends.bind_cases with
    ⟨failure, rfl, failed⟩ | ⟨applied, between, first, second, succeeded, logged, rfl⟩
  · rcases failed.recover_cases with
      ⟨_, given, -⟩ | ⟨other, between, first, second, tried, rescued, rfl⟩
    · cases given
    · obtain ⟨held, sameProgress⟩ := tried.of_ofProgram
      obtain ⟨isSeries, last, ended, atEnd, concluded, outcomes⟩ := apply_ends held
      obtain ⟨same, samePlans, rfl⟩ := rescued.of_tell_fail
      rw [ite_self] at same
      cases same
      rw [List.append_nil]
      exact ⟨isSeries, by rw [samePlans, sameProgress], last, ended, atEnd, concluded, outcomes⟩
  · obtain ⟨rfl, rfl, rfl⟩ := logged.of_advance
    rw [List.append_nil]
    rcases succeeded.recover_cases with
      ⟨_, given, tried⟩ | ⟨other, between, first, second, tried, rescued, rfl⟩
    · cases given
      obtain ⟨held, sameProgress⟩ := tried.of_ofProgram
      obtain ⟨isSeries, last, ended, atEnd, concluded, outcomes⟩ := apply_ends held
      have samePlans : between.1.plans = start.1.plans := by rw [sameProgress]
      exact ⟨isSeries, samePlans, last, ended, atEnd, concluded, outcomes⟩
    · obtain ⟨same, -⟩ := rescued.of_tell_fail
      cases same

end Reconciler
end SchemaStore
