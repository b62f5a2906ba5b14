import SchemaStore.Proofs.Backend.Program
import SchemaStore.Proofs.Backend.Retry
import SchemaStore.Query.Change

/-!
# How programs end

A program that was held with a backend ended with a result or a failure.  The lemmas
below take it apart into the programs that it was made of, whichever way they ended;
reads are taken apart into their attempts, writes into execution and commit.
-/

namespace SchemaStore

namespace Program

variable {State α β : Type} {backend : Backend State}

namespace Ends

variable {start final : State} {events : List (Event Request Request.Reply)}

/-- Of two programs in a row, the first one failed, or the second one went on with its result. -/
theorem bind_cases {program : Program α} {next : α → Program β} {outcome : Except Failure β}
    (ends : (program >>= next).Ends backend start outcome events final) :
    (∃ failure, outcome = .error failure ∧
        program.Ends backend start (.error failure) events final) ∨
      ∃ a between first second, program.Ends backend start (.ok a) first between ∧
        (next a).Ends backend between outcome second final ∧ events = first ++ second := by
  obtain ⟨middle, first, between, second, held, heldNext, rfl⟩ :=
    Dialogue.exists_of_run_bind ends
  cases middle with
  | error failure =>
      cases heldNext
      rw [List.append_nil]
      exact .inl ⟨failure, rfl, held⟩
  | ok a => exact .inr ⟨a, between, first, second, held, heldNext, rfl⟩

theorem of_ofResult {result outcome : Except Failure α}
    (ends : (ofResult result).Ends backend start outcome events final) :
    outcome = result ∧ final = start ∧ events = [] := by
  cases ends
  exact ⟨rfl, rfl, rfl⟩

/-- A program that starts with a known result goes on with it or fails. -/
theorem ofResult_bind_cases {result : Except Failure α} {next : α → Program β}
    {outcome : Except Failure β}
    (ends : (ofResult result >>= next).Ends backend start outcome events final) :
    (∃ failure, result = .error failure ∧ outcome = .error failure ∧ final = start ∧
        events = []) ∨
      ∃ a, result = .ok a ∧ (next a).Ends backend start outcome events final := by
  cases result with
  | error failure =>
      cases ends
      exact .inl ⟨failure, rfl, rfl, rfl, rfl⟩
  | ok a => exact .inr ⟨a, rfl, ends⟩

/-- A program that starts with a known value goes on with it. -/
theorem of_ok_bind {result : Except Failure α} {a : α} {next : α → Program β}
    {outcome : Except Failure β} (known : result = .ok a)
    (ends : (ofResult result >>= next).Ends backend start outcome events final) :
    (next a).Ends backend start outcome events final := by
  subst known
  exact ends

theorem ok_bind {result : Except Failure α} {a : α} {next : α → Program β}
    {outcome : Except Failure β} (known : result = .ok a)
    (rest : (next a).Ends backend start outcome events final) :
    (Program.ofResult result >>= next).Ends backend start outcome events final := by
  subst known
  exact rest

/-- A program whose result is only put into another form ends as it ends. -/
theorem exists_of_map {program : Program α} {f : α → β} {outcome : Except Failure β}
    (ends : (program >>= fun a => pure (f a)).Ends backend start outcome events final) :
    ∃ inner, program.Ends backend start inner events final ∧ outcome = f <$> inner := by
  rcases ends.bind_cases with ⟨failure, rfl, held⟩ | ⟨a, between, first, second, held, rest, rfl⟩
  · exact ⟨.error failure, held, rfl⟩
  · cases rest
    rw [List.append_nil]
    exact ⟨.ok a, held, rfl⟩

/-- A program that is rescued from failures gave a result, or was rescued from its failure. -/
theorem recover_cases {program : Program α} {rescue : Failure → Program α}
    {outcome : Except Failure α}
    (ends : (program.recover rescue).Ends backend start outcome events final) :
    (∃ a, outcome = .ok a ∧ program.Ends backend start (.ok a) events final) ∨
      ∃ failure between first second, program.Ends backend start (.error failure) first between ∧
        (rescue failure).Ends backend between outcome second final ∧ events = first ++ second := by
  obtain ⟨middle, first, between, second, held, heldNext, rfl⟩ :=
    Dialogue.exists_of_run_bind ends
  cases middle with
  | error failure => exact .inr ⟨failure, between, first, second, held, heldNext, rfl⟩
  | ok a =>
      cases heldNext
      rw [List.append_nil]
      exact .inl ⟨a, rfl, held⟩

end Ends

section Retrying

variable {operation : Program α} {policy : RetryPolicy} {description : String}

/-- What every attempt at an operation keeps, all of them keep, and they end as one of them
ended. -/
theorem Ends.of_attemptFrom {kept : State → Prop}
    {fits : Except Failure α → List (Event Request Request.Reply) → Prop}
    (attempt : ∀ start outcome events final, kept start →
      operation.Ends backend start outcome events final → kept final ∧ fits outcome events)
    (mono : ∀ outcome events others, events ⊆ others → fits outcome events →
      fits outcome others)
    (unreadable : ∀ failure events, fits (.error failure) events →
      fits (.error .unreadableText) events)
    (retries : Nat) {count : Nat} {start final : State} {outcome : Except Failure α}
    {events : List (Event Request Request.Reply)} (sound : kept start)
    (ends : (ofSession (Dialogue.attemptFrom policy description operation.session count
      retries)).Ends backend start outcome events final) :
    kept final ∧ fits outcome events := by
  induction retries generalizing start events count with
  | zero => exact attempt start outcome events final sound ends
  | succ retries induction =>
      obtain ⟨first, before, between, after, held, rest, rfl⟩ := Dialogue.exists_of_run_bind ends
      obtain ⟨keptFirst, fitting⟩ := attempt start first before between sound held
      have widened := mono first before (before ++ after) (List.subset_append_left ..) fitting
      cases first with
      | ok a =>
          cases rest
          exact ⟨keptFirst, widened⟩
      | error failure =>
          dsimp only at rest
          cases ended : failure.aftermath with
          | giveUp last =>
              rw [ended] at rest
              cases rest
              rcases Failure.giveUp_cases ended with ⟨-, rfl⟩ | ⟨-, ⟨-, rfl⟩ | ⟨-, rfl⟩⟩
              · exact ⟨keptFirst, widened⟩
              · exact ⟨keptFirst, widened⟩
              · exact ⟨keptFirst, unreadable _ _ widened⟩
          | retry =>
              rw [ended] at rest
              obtain ⟨_, _, _, later, logged, waiting, rfl⟩ := Dialogue.exists_of_run_bind rest
              obtain ⟨_, _, _, last, waited, again, rfl⟩ := Dialogue.exists_of_run_bind waiting
              cases logged
              cases waited
              obtain ⟨keptLast, fits⟩ := induction keptFirst again
              refine ⟨keptLast, mono _ last _ (fun event member => ?_) fits⟩
              simp [member]

end Retrying

end Program

namespace Model

variable {State α : Type} {backend : Backend State} {model : Model} {start final : State}
  {events : List (Event Request Request.Reply)}

theorem ends_of_execute {statement : Statement} {outcome : Except Failure Result}
    (ends : (model.execute statement).Ends backend start outcome events final) :
    backend (.execute model.pool statement) start = (outcome, final) ∧
      events = [.asked (.execute model.pool statement) outcome] :=
  Dialogue.answer_of_run_request ends

theorem ends_of_commit {outcome : Except Failure Unit}
    (ends : model.commit.Ends backend start outcome events final) :
    backend (.commit model.pool) start = (outcome, final) ∧
      events = [.asked (.commit model.pool) outcome] :=
  Dialogue.answer_of_run_request ends

theorem ends_of_rollback {outcome : Except Failure Unit}
    (ends : model.rollback.Ends backend start outcome events final) :
    (backend (.rollback model.pool) start).2 = final ∧
      events = [.asked (.rollback model.pool) ()] ∧ outcome = .ok () := by
  cases ends
  exact ⟨rfl, rfl, rfl⟩

theorem ends_of_giveUp {words : String} {failure : Failure} {outcome : Except Failure α}
    (ends : (giveUp words failure : Program α).Ends backend start outcome events final) :
    outcome = .error (.own failure.toStoreError) ∧ final = start ∧
      ∃ entry, events = [.noted entry] := by
  cases ends
  exact ⟨rfl, rfl, _, rfl⟩

section Reading

variable {query : Select} {includes : List Include} {outcome : Except Failure (List Row)}

/-- The outcome goes back to an answer of the backend to a query. -/
def AnswersTo (model : Model) (backend : Backend State) (query : Select) (kept : State → Prop)
    (includes : List Include) (outcome : Except Failure (List Row))
    (events : List (Event Request Request.Reply)) : Prop :=
  ∃ state reply next, kept state ∧
    backend (.execute model.pool (.select query)) state = (reply, next) ∧
    Event.asked (.execute model.pool (.select query)) reply ∈ events ∧
    match reply with
    | .ok result => outcome = .ok (result.rows.map (nestAll includes))
    | .error cause => outcome = .error cause ∨ outcome = .error .unreadableText ∨
        outcome = .error (.own cause.toStoreError)

theorem AnswersTo.mono {kept : State → Prop} {others : List (Event Request Request.Reply)}
    (subset : events ⊆ others)
    (answers : AnswersTo model backend query kept includes outcome events) :
    AnswersTo model backend query kept includes outcome others := by
  obtain ⟨state, reply, next, sound, answered, asked, ending⟩ := answers
  exact ⟨state, reply, next, sound, answered, subset asked, ending⟩

theorem answersTo_of_attempt {kept : State → Prop} (sound : kept start)
    (ends : Program.Ends backend
      (do
        let result ← model.execute (.select query)
        return result.rows.map (nestAll includes))
      start outcome events final) :
    final = (backend (.execute model.pool (.select query)) start).2 ∧
      AnswersTo model backend query kept includes outcome events := by
  rcases ends.bind_cases with
    ⟨failure, rfl, held⟩ | ⟨result, between, first, second, held, rest, rfl⟩
  · obtain ⟨answered, rfl⟩ := ends_of_execute held
    exact ⟨by rw [answered], start, _, final, sound, answered, List.mem_singleton_self _, .inl rfl⟩
  · obtain ⟨answered, rfl⟩ := ends_of_execute held
    cases rest
    exact ⟨by rw [answered], start, _, final, sound, answered, List.mem_cons_self, rfl⟩

/-- Rows are read from an answer of the backend, or an answer was a failure. -/
theorem answersTo_of_fetch {kept : State → Prop}
    (keeps : ∀ state, kept state → kept (backend (.execute model.pool (.select query)) state).2)
    (sound : kept start)
    (ends : (model.fetch query includes).Ends backend start outcome events final) :
    kept final ∧ AnswersTo model backend query kept includes outcome events := by
  have attempts {outcome : Except Failure (List Row)} {events : List (Event Request Request.Reply)}
      {final : State} (ends : Program.Ends backend
        (Program.ofSession (Dialogue.retry model.readPolicy ("read " ++ model.table.name)
          (Program.session do
            let result ← model.execute (.select query)
            return result.rows.map (nestAll includes))))
        start outcome events final) :
      kept final ∧ AnswersTo model backend query kept includes outcome events := by
    refine Program.Ends.of_attemptFrom ?_ ?_ ?_ _ sound ends
    · intro start outcome events final sound ends
      obtain ⟨rfl, answers⟩ := answersTo_of_attempt sound ends
      exact ⟨keeps start sound, answers⟩
    · intro outcome events others subset answers
      exact answers.mono subset
    · rintro failure events ⟨state, reply, next, sound, answered, asked, ending⟩
      refine ⟨state, reply, next, sound, answered, asked, ?_⟩
      cases reply with
      | ok result => cases ending
      | error cause => exact .inr (.inl rfl)
  rcases ends.recover_cases with
    ⟨rows, rfl, held⟩ | ⟨failure, between, first, second, held, rescued, rfl⟩
  · exact attempts held
  · obtain ⟨keptBetween, answers⟩ := attempts held
    have widened := answers.mono (List.subset_append_left first second)
    split at rescued
    · next access =>
      obtain ⟨rfl, rfl, -⟩ := ends_of_giveUp rescued
      refine ⟨keptBetween, ?_⟩
      obtain ⟨state, reply, next, sound, answered, asked, ending⟩ := widened
      refine ⟨state, reply, next, sound, answered, asked, ?_⟩
      cases reply with
      | ok result => cases ending
      | error cause =>
          rcases ending with same | same | same
          · cases same
            exact .inr (.inr rfl)
          · cases same
            cases access
          · cases same
            cases access
    · obtain ⟨rfl, rfl, rfl⟩ := rescued.of_ofResult
      exact ⟨keptBetween, widened⟩

end Reading

section Writing

variable {α : Type} {change : Write} {extract : Result → Except Failure α} {words : String}
  {outcome : Except Failure α}

/-- A write was executed and committed, or it failed and left what no failure changes. -/
theorem write_cases {kept : State → Prop}
    (executes : ∀ state, kept state → kept (backend (.execute model.pool (.write change)) state).2)
    (refuses : ∀ state cause next, kept state →
      backend (.commit model.pool) state = (.error cause, next) → kept next)
    (undoes : ∀ state, kept state → kept (backend (.rollback model.pool) state).2)
    (sound : kept start)
    (ends : (model.write change extract words).Ends backend start outcome events final) :
    ((∃ failure, outcome = .error failure) ∧ kept final) ∨
      ∃ result between value, backend (.execute model.pool (.write change)) start =
          (.ok result, between) ∧ extract result = .ok value ∧
        backend (.commit model.pool) between = (.ok (), final) ∧ outcome = .ok value := by
  have attempt {outcome : Except Failure α} {events : List (Event Request Request.Reply)}
      {final : State} (ends : Program.Ends backend
        (do
          let result ← model.execute (.write change)
          let value ← Program.ofResult (extract result)
          model.commit
          return value)
        start outcome events final) :
      ((∃ failure, outcome = .error failure) ∧ kept final) ∨
        ∃ result between value, backend (.execute model.pool (.write change)) start =
            (.ok result, between) ∧ extract result = .ok value ∧
          backend (.commit model.pool) between = (.ok (), final) ∧ outcome = .ok value := by
    rcases ends.bind_cases with
      ⟨failure, rfl, held⟩ | ⟨result, between, first, second, held, rest, -⟩
    · obtain ⟨answered, -⟩ := ends_of_execute held
      have keptFinal := executes start sound
      rw [answered] at keptFinal
      exact .inl ⟨⟨failure, rfl⟩, keptFinal⟩
    · obtain ⟨answered, -⟩ := ends_of_execute held
      have keptBetween := executes start sound
      rw [answered] at keptBetween
      rcases rest.ofResult_bind_cases with
        ⟨failure, -, rfl, rfl, -⟩ | ⟨value, extracted, committing⟩
      · exact .inl ⟨⟨failure, rfl⟩, keptBetween⟩
      · rcases committing.bind_cases with ⟨failure, rfl, held⟩ | ⟨⟨⟩, _, _, _, held, rest, -⟩
        · obtain ⟨refused, -⟩ := ends_of_commit held
          exact .inl ⟨⟨failure, rfl⟩, refuses between failure final keptBetween refused⟩
        · obtain ⟨committed, -⟩ := ends_of_commit held
          cases rest
          exact .inr ⟨result, between, value, answered, extracted, committed, rfl⟩
  rcases ends.recover_cases with ⟨value, rfl, held⟩ | ⟨failure, between, _, _, held, rescued, -⟩
  · exact attempt held
  · rcases attempt held with ⟨-, keptBetween⟩ | ⟨_, _, _, -, -, -, same⟩
    · refine .inl ?_
      split at rescued
      · rcases rescued.bind_cases with ⟨failure, rfl, held⟩ | ⟨⟨⟩, _, _, _, held, rest, -⟩
        · obtain ⟨-, -, same⟩ := ends_of_rollback held
          cases same
        · obtain ⟨rfl, -, -⟩ := ends_of_rollback held
          obtain ⟨rfl, rfl, -⟩ := ends_of_giveUp rest
          exact ⟨⟨_, rfl⟩, undoes between keptBetween⟩
      · obtain ⟨rfl, rfl, -⟩ := rescued.of_ofResult
        exact ⟨⟨_, rfl⟩, keptBetween⟩
    · cases same

/-- A write that gave a value was executed. -/
theorem executed_of_write {value : α}
    (ends : (model.write change extract words).Ends backend start (.ok value) events final) :
    ∃ result between, backend (.execute model.pool (.write change)) start = (.ok result, between) ∧
      extract result = .ok value ∧ backend (.commit model.pool) between = (.ok (), final) := by
  have executes : ∀ state, (fun _ : State => True) state →
      (fun _ : State => True) (backend (.execute model.pool (.write change)) state).2 :=
    fun _ _ => trivial
  rcases write_cases executes (fun _ _ _ _ _ => trivial) (fun _ _ => trivial) trivial ends with
    ⟨⟨_, same⟩, -⟩ | ⟨result, between, _, executed, extracted, committed, same⟩
  · cases same
  · cases same
    exact ⟨result, between, executed, extracted, committed⟩

end Writing

end Model
end SchemaStore
