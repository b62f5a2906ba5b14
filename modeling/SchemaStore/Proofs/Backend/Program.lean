import SchemaStore.Query.Model

/-!
# How programs run

`Ends` says how a program that is held with a backend ends.  `Gives` is about programs
that only read: they give a result and leave the state of the backend as it was.  A program
that is composed of such programs is one, too.
-/

namespace SchemaStore

namespace Program

variable {State α β : Type} {backend : Backend State}

/-- Held with a backend, a program ends with a result or a failure, and leads from a state of the
backend to another one. -/
def Ends (backend : Backend State) (program : Program α) (start : State)
    (outcome : Except Failure α) (events : List (Event Request Request.Reply))
    (final : State) : Prop :=
  program.session.run backend start = ⟨outcome, events, final⟩

namespace Ends

variable {start between final : State} {events first second : List (Event Request Request.Reply)}

theorem bind {program : Program α} {next : α → Program β} {a : α}
    {outcome : Except Failure β}
    (held : program.Ends backend start (.ok a) first between)
    (rest : (next a).Ends backend between outcome second final) :
    (program >>= next).Ends backend start outcome (first ++ second) final := by
  have split : (program >>= next).session = program.session.bind (ExceptT.bindCont next) := rfl
  rw [Ends, split, Dialogue.run_bind, show program.session.run backend start = _ from held]
  exact congrArg (fun done : Transcript _ _ State _ =>
    (⟨done.result, first ++ done.events, done.state⟩ : Transcript _ _ State _)) rest

theorem recover {program : Program α} {a : α}
    (held : program.Ends backend start (.ok a) events final) (rescue : Failure → Program α) :
    (program.recover rescue).Ends backend start (.ok a) events final := by
  refine (Dialogue.run_bind backend program.session _ start).trans ?_
  rw [show program.session.run backend start = _ from held]
  exact congrArg (Transcript.mk _ · final) (List.append_nil events)

/-- A program that fails does not go on. -/
theorem bind_error {program : Program α} {next : α → Program β} {failure : Failure}
    (held : program.Ends backend start (.error failure) events final) :
    (program >>= next).Ends backend start (.error failure) events final := by
  have split : (program >>= next).session = program.session.bind (ExceptT.bindCont next) := rfl
  rw [Ends, split, Dialogue.run_bind, show program.session.run backend start = _ from held]
  exact congrArg (Transcript.mk _ · final) (List.append_nil events)

theorem map_error {program : Program α} {failure : Failure}
    (held : program.Ends backend start (.error failure) events final) (f : α → β) :
    (f <$> program).Ends backend start (.error failure) events final := by
  refine (Dialogue.run_bind backend program.session _ start).trans ?_
  rw [show program.session.run backend start = _ from held]
  exact congrArg (Transcript.mk _ · final) (List.append_nil events)

theorem recover_error {program : Program α} {rescue : Failure → Program α} {failure : Failure}
    {outcome : Except Failure α}
    (held : program.Ends backend start (.error failure) first between)
    (rescued : (rescue failure).Ends backend between outcome second final) :
    (program.recover rescue).Ends backend start outcome (first ++ second) final := by
  refine (Dialogue.run_bind backend program.session _ start).trans ?_
  rw [show program.session.run backend start = _ from held]
  exact congrArg (fun done : Transcript _ _ State _ =>
    (⟨done.result, first ++ done.events, done.state⟩ : Transcript _ _ State _)) rescued

/-- An operation that gives a result is attempted once. -/
theorem retry {operation : Program α} {a : α}
    (held : operation.Ends backend start (.ok a) events final) (policy : RetryPolicy)
    (description : String) :
    (Program.ofSession (Dialogue.retry policy description operation.session)).Ends backend start
      (.ok a) events final := by
  unfold Dialogue.retry
  cases policy.attempts.toNat - 1 with
  | zero => exact held
  | succ retries =>
      refine (Dialogue.run_bind backend operation.session _ start).trans ?_
      rw [show operation.session.run backend start = _ from held]
      exact congrArg (Transcript.mk _ · final) (List.append_nil events)

/-- A failure that no further attempt could mend is the failure of the first one. -/
theorem retry_error {operation : Program α} {failure : Failure}
    (held : operation.Ends backend start (.error failure) events final)
    (lasting : failure.aftermath = .giveUp failure) (policy : RetryPolicy)
    (description : String) :
    (Program.ofSession (Dialogue.retry policy description operation.session)).Ends backend start
      (.error failure) events final := by
  unfold Dialogue.retry
  cases policy.attempts.toNat - 1 with
  | zero => exact held
  | succ retries =>
      refine (Dialogue.run_bind backend operation.session _ start).trans ?_
      rw [show operation.session.run backend start = _ from held]
      dsimp only
      rw [lasting]
      exact congrArg (Transcript.mk _ · final) (List.append_nil events)

end Ends

/-- Held with a backend, a program gives a result and leaves the state as it was. -/
def Gives {State α : Type} (backend : Backend State) (state : State) (program : Program α)
    (result : α) : Prop :=
  ∃ events, program.session.run backend state = ⟨.ok result, events, state⟩

namespace Gives

variable {state : State}

theorem unique {program : Program α} {a other : α} (gives : program.Gives backend state a)
    (givesAgain : program.Gives backend state other) : a = other := by
  obtain ⟨events, ran⟩ := gives
  obtain ⟨others, ranAgain⟩ := givesAgain
  rw [ran] at ranAgain
  cases ranAgain
  rfl

theorem ofResult (a : α) : Gives backend state (Program.ofResult (.ok a)) a :=
  ⟨[], rfl⟩

theorem bind {program : Program α} {next : α → Program β} {a : α} {b : β}
    (gives : program.Gives backend state a) (goesOn : (next a).Gives backend state b) :
    Gives backend state (program >>= next) b := by
  obtain ⟨events, ran⟩ := gives
  obtain ⟨others, ranOn⟩ := goesOn
  exact ⟨events ++ others, Ends.bind ran ranOn⟩

end Gives
end Program

namespace Model

variable {State : Type} {backend : Backend State} {state start final : State} {model : Model}

theorem execute_ends {statement : Statement} {outcome : Except Failure Result}
    (answered : backend (.execute model.pool statement) start = (outcome, final)) :
    (model.execute statement).Ends backend start outcome
      [.asked (.execute model.pool statement) outcome] final := by
  simp only [Program.Ends, execute, Program.ofSession, Program.session, ExceptT.run, ExceptT.mk,
    Dialogue.request, Dialogue.run, answered]

theorem commit_ends {outcome : Except Failure Unit}
    (answered : backend (.commit model.pool) start = (outcome, final)) :
    model.commit.Ends backend start outcome [.asked (.commit model.pool) outcome] final := by
  simp only [Program.Ends, commit, Program.ofSession, Program.session, ExceptT.run, ExceptT.mk,
    Dialogue.request, Dialogue.run, answered]

/-- A model reads the rows that the backend answers with, and nests the included ones. -/
theorem fetch_nested_ends {query : Select} {result : Result}
    (answered : backend (.execute model.pool (.select query)) start = (.ok result, final))
    (includes : List Include) :
    (model.fetch query includes).Ends backend start (.ok (result.rows.map (nestAll includes)))
      [.asked (.execute model.pool (.select query)) (.ok result)] final := by
  have attempt : Program.Ends backend
      (do
        let result ← model.execute (.select query)
        return result.rows.map (nestAll includes))
      start (.ok (result.rows.map (nestAll includes))) _ final :=
    (execute_ends answered).bind rfl
  exact (attempt.retry model.readPolicy ("read " ++ model.table.name)).recover _

theorem fetch_ends {query : Select} {result : Result}
    (answered : backend (.execute model.pool (.select query)) start = (.ok result, final)) :
    (model.fetch query []).Ends backend start (.ok result.rows)
      [.asked (.execute model.pool (.select query)) (.ok result)] final := by
  have unnested : result.rows.map (nestAll []) = result.rows := List.map_id' result.rows
  have ends := fetch_nested_ends answered []
  rwa [unnested] at ends

theorem fetch_gives {query : Select} {rows : List Row}
    (answers : backend (.execute model.pool (.select query)) state = (.ok { rows }, state)) :
    (model.fetch query []).Gives backend state rows :=
  ⟨_, fetch_ends answers⟩

/-- A write that is executed and committed gives what is extracted from its result. -/
theorem write_ends {α : Type} {change : Write} {extract : Result → Except Failure α}
    {words : String} {result : Result} {value : α}
    (executed : backend (.execute model.pool (.write change)) start = (.ok result, state))
    (extracted : extract result = .ok value)
    (committed : backend (.commit model.pool) state = (.ok (), final)) :
    (model.write change extract words).Ends backend start (.ok value)
      [.asked (.execute model.pool (.write change)) (.ok result),
        .asked (.commit model.pool) (.ok ())] final := by
  have finishing : Program.Ends backend
      (do
        let value ← Program.ofResult (extract result)
        model.commit
        return value)
      state (.ok value) [.asked (.commit model.pool) (.ok ())] final := by
    rw [extracted]
    exact (commit_ends committed).bind rfl
  have attempt : Program.Ends backend
      (do
        let result ← model.execute (.write change)
        let value ← Program.ofResult (extract result)
        model.commit
        return value)
      start (.ok value) _ final :=
    (execute_ends executed).bind finishing
  exact attempt.recover _

/-- A model fails to read when the backend does, unless reading again may help. -/
theorem fetch_fails {query : Select} {includes : List Include} {failure : Failure}
    (answered : backend (.execute model.pool (.select query)) start = (.error failure, final))
    (foreign : failure.isAccess = false) :
    (model.fetch query includes).Ends backend start (.error failure)
      [.asked (.execute model.pool (.select query)) (.error failure)] final := by
  have lasting : failure.aftermath = .giveUp failure := by
    rw [Failure.aftermath, foreign]
    rfl
  have attempt : Program.Ends backend
      (do
        let result ← model.execute (.select query)
        return result.rows.map (nestAll includes))
      start (.error failure) _ final :=
    (execute_ends answered).bind_error
  have attempts := attempt.retry_error lasting model.readPolicy ("read " ++ model.table.name)
  have goesOn {words : String} : Program.Ends backend
      (if failure.isAccess then giveUp words failure
        else Program.ofResult (.error failure) : Program (List Row))
      final (.error failure) [] final := by
    rw [foreign]
    rfl
  exact attempts.recover_error goesOn

end Model
end SchemaStore
