import SchemaStore.Reconciliation.Run

/-!
# How stages end

A stage of a run ends with a result or with a failure.  The lemmas below take a
stage that has ended apart into the stages that it was made of, whichever way
they ended.
-/

namespace SchemaStore

namespace Run

variable {State α β : Type} {backend : Backend State}

/-- A stage ends with a result or a failure, and leads from a progress and a state of the backend
to others. -/
def Ends (backend : Backend State) (run : Run α) (start : Progress × State)
    (outcome : Except Failure α) (events : List (Event Request Request.Reply))
    (final : Progress × State) : Prop :=
  (run.hold start.1).run backend start.2 = ⟨(outcome, final.1), events, final.2⟩

namespace Ends

variable {start final : Progress × State} {events : List (Event Request Request.Reply)}

/-- Of two stages in a row, the first one failed, or the second one went on with its result. -/
theorem bind_cases {run : Run α} {next : α → Run β} {outcome : Except Failure β}
    (ends : (run >>= next).Ends backend start outcome events final) :
    (∃ failure, outcome = .error failure ∧
        run.Ends backend start (.error failure) events final) ∨
      ∃ a between first second, run.Ends backend start (.ok a) first between ∧
        (next a).Ends backend between outcome second final ∧ events = first ++ second := by
  obtain ⟨finalProgress, finalState⟩ := final
  obtain ⟨⟨middle, progress⟩, first, state, second, held, heldNext, rfl⟩ :=
    Dialogue.exists_of_run_bind ends
  cases middle with
  | error failure =>
      cases heldNext
      rw [List.append_nil]
      exact .inl ⟨failure, rfl, held⟩
  | ok a => exact .inr ⟨a, (progress, state), first, second, held, heldNext, rfl⟩

theorem of_advance {step : Progress → Progress} {outcome : Except Failure Unit}
    (ends : (advance step).Ends backend start outcome events final) :
    outcome = .ok () ∧ final = (step start.1, start.2) ∧ events = [] := by
  obtain ⟨progress, state⟩ := final
  cases ends
  exact ⟨rfl, rfl, rfl⟩

/-- A stage that starts with a change of the progress goes on from the changed progress. -/
theorem of_advance_bind {step : Progress → Progress} {next : Unit → Run β}
    {outcome : Except Failure β}
    (ends : (advance step >>= next).Ends backend start outcome events final) :
    (next ()).Ends backend (step start.1, start.2) outcome events final := by
  rcases ends.bind_cases with ⟨failure, -, failed⟩ | ⟨_, _, _, _, advanced, rest, rfl⟩
  · obtain ⟨succeeded, -⟩ := failed.of_advance
    cases succeeded
  · obtain ⟨-, rfl, rfl⟩ := advanced.of_advance
    exact rest

theorem of_fail {failure : Failure} {outcome : Except Failure α}
    (ends : (fail failure : Run α).Ends backend start outcome events final) :
    outcome = .error failure ∧ final = start ∧ events = [] := by
  obtain ⟨progress, state⟩ := final
  cases ends
  exact ⟨rfl, rfl, rfl⟩

theorem of_ofProgram {program : Program α} {outcome : Except Failure α}
    (ends : (ofProgram program).Ends backend start outcome events final) :
    program.session.run backend start.2 = ⟨outcome, events, final.2⟩ ∧ final.1 = start.1 := by
  obtain ⟨progress, state⟩ := final
  obtain ⟨result, first, between, second, held, heldNext, rfl⟩ :=
    Dialogue.exists_of_run_bind ends
  cases heldNext
  rw [held, List.append_nil]
  exact ⟨rfl, rfl⟩

theorem of_ofResult {result outcome : Except Failure α}
    (ends : (ofProgram (Program.ofResult result)).Ends backend start outcome events final) :
    outcome = result ∧ final = start ∧ events = [] := by
  obtain ⟨progress, state⟩ := final
  cases ends
  exact ⟨rfl, rfl, rfl⟩

/-- A stage that is rescued from failures gave a result, or was rescued from its failure. -/
theorem recover_cases {run : Run α} {rescue : Failure → Run α} {outcome : Except Failure α}
    (ends : (run.recover rescue).Ends backend start outcome events final) :
    (∃ a, outcome = .ok a ∧ run.Ends backend start (.ok a) events final) ∨
      ∃ failure between first second, run.Ends backend start (.error failure) first between ∧
        (rescue failure).Ends backend between outcome second final ∧ events = first ++ second := by
  obtain ⟨finalProgress, finalState⟩ := final
  obtain ⟨⟨middle, progress⟩, first, state, second, held, heldNext, rfl⟩ :=
    Dialogue.exists_of_run_bind ends
  cases middle with
  | error failure =>
      exact .inr ⟨failure, (progress, state), first, second, held, heldNext, rfl⟩
  | ok a =>
      cases heldNext
      rw [List.append_nil]
      exact .inl ⟨a, rfl, held⟩

/-- A stage that is followed by a cleanup ends as it did itself, unless the cleanup fails. -/
theorem ensuring_cases {run : Run α} {cleanup : Run Unit} {outcome : Except Failure α}
    (ends : (run.ensuring cleanup).Ends backend start outcome events final) :
    ∃ ended between first second cleaned, run.Ends backend start ended first between ∧
      cleanup.Ends backend between cleaned second final ∧ events = first ++ second ∧
      (cleaned = .ok () ∧ outcome = ended ∨
        ∃ failure, cleaned = .error failure ∧ outcome = .error failure) := by
  obtain ⟨finalProgress, finalState⟩ := final
  obtain ⟨⟨ended, progress⟩, first, state, rest, held, heldRest, rfl⟩ :=
    Dialogue.exists_of_run_bind ends
  obtain ⟨⟨cleaned, after⟩, second, last, third, heldCleanup, heldLast, rfl⟩ :=
    Dialogue.exists_of_run_bind heldRest
  cases cleaned with
  | error failure =>
      cases heldLast
      rw [List.append_nil]
      exact ⟨ended, (progress, state), first, second, _, held, heldCleanup, rfl,
        .inr ⟨failure, rfl, rfl⟩⟩
  | ok done =>
      cases heldLast
      rw [List.append_nil]
      exact ⟨_, (progress, state), first, second, _, held, heldCleanup, rfl, .inl ⟨rfl, rfl⟩⟩

end Ends
end Run
end SchemaStore
