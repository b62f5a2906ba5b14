import SchemaStore.Proofs.Backend.Ending
import SchemaStore.Proofs.Backend.Retry
import SchemaStore.Proofs.Database.Service

/-!
# Databases with other clients

Between two statements of a program, other clients may commit what they like.  A backend `Shares`
a database if it answers a statement as the database does that the statement comes across; how that
database is related to the one that the statement before it left is not said.  `Takes` lists the
statements of a run that were carried out, each with the states of the backend before and after it.
-/

namespace SchemaStore

/-- A statement that was carried out, a write up to its commit. -/
structure Step (State : Type) where
  statement : Statement
  before : State
  result : Result
  after : State

def Step.written {State : Type} (steps : List (Step State)) : Int :=
  (steps.map fun step =>
    match step.statement with
    | .write _ => step.result.rowCount
    | _ => 0).sum

namespace Step

variable {State : Type} {step : Step State} {steps : List (Step State)}

theorem written_of_read {query : Select} (reads : step.statement = .select query) :
    written (step :: steps) = written steps := by
  rw [written, List.map_cons, List.sum_cons, reads]
  exact Int.zero_add _

theorem written_of_write {change : Write} (writes : step.statement = .write change) :
    written (step :: steps) = step.result.rowCount + written steps := by
  rw [written, List.map_cons, List.sum_cons, writes]
  rfl

end Step

section

variable {State : Type} {backend : Backend State} {pool : Nat}

/-- From a state, statements are carried out in turn; those that failed are left out. -/
inductive Takes (backend : Backend State) (pool : Nat) :
    State → List (Step State) → State → Prop where
  | done (state : State) : Takes backend pool state [] state
  | failed {state next final : State} {statement : Statement} {failure : Failure}
      {steps : List (Step State)}
      (refused : backend (.execute pool statement) state = (.error failure, next))
      (rest : Takes backend pool next steps final) : Takes backend pool state steps final
  | read {state next final : State} {query : Select} {result : Result} {steps : List (Step State)}
      (answered : backend (.execute pool (.select query)) state = (.ok result, next))
      (rest : Takes backend pool next steps final) :
      Takes backend pool state (⟨.select query, state, result, next⟩ :: steps) final
  | written {state between next final : State} {change : Write} {result : Result}
      {steps : List (Step State)}
      (executed : backend (.execute pool (.write change)) state = (.ok result, between))
      (committed : backend (.commit pool) between = (.ok (), next))
      (rest : Takes backend pool next steps final) :
      Takes backend pool state (⟨.write change, state, result, next⟩ :: steps) final

theorem Takes.append {start between final : State} {steps others : List (Step State)}
    (first : Takes backend pool start steps between)
    (second : Takes backend pool between others final) :
    Takes backend pool start (steps ++ others) final := by
  induction first with
  | done => exact second
  | failed refused _ induction => exact .failed refused (induction second)
  | read answered _ induction => exact .read answered (induction second)
  | written executed committed _ induction => exact .written executed committed (induction second)

/-- Statements are answered by a database that is seen when the statement arrives; `left` is the
database that the last statement left. -/
structure Shares (backend : Backend State) (pool : Nat) (seen left : State → Database) : Prop where
  executes : ∀ statement state result next,
    backend (.execute pool statement) state = (.ok result, next) →
      ((seen state).execute statement).1 = .ok result ∧
        left next = ((seen state).execute statement).2
  refuses : ∀ statement state failure next,
    backend (.execute pool statement) state = (.error failure, next) →
      (left next).tables = (seen state).tables
  commits : ∀ state next, backend (.commit pool) state = (.ok (), next) →
    left next = (left state).commit

namespace Shares

variable {seen left : State → Database} (shares : Shares backend pool seen left)
include shares

theorem rows_of_read {query : Select} {result : Result} {state next : State}
    (answered : backend (.execute pool (.select query)) state = (.ok result, next)) :
    query.rows (seen state).tables = .ok result.rows ∧ left next = seen state := by
  obtain ⟨given, leaves⟩ := shares.executes _ _ _ _ answered
  obtain ⟨rows, read, rfl⟩ := Except.map_eq_ok.mp (Database.execute_select.symm.trans given)
  exact ⟨read, leaves⟩

theorem performed_of_written {change : Write} {result : Result} {state between next : State}
    (executed : backend (.execute pool (.write change)) state = (.ok result, between))
    (committed : backend (.commit pool) between = (.ok (), next)) :
    ∃ after, change.perform (seen state).tables (seen state).now = .ok (after, result) ∧
      left next = { seen state with tables := after, pending := none } := by
  obtain ⟨given, leaves⟩ := shares.executes _ _ _ _ executed
  obtain ⟨after, performed, pending⟩ := Database.perform_of_execute given
  refine ⟨after, performed, ?_⟩
  rw [shares.commits _ _ committed, leaves, pending]
  rfl

end Shares

/-- Before every statement, other clients change the state of a backend. -/
def interleaved (backend : Backend State) (others : Nat → State → State) : Backend (Nat × State)
  | .execute pool statement, (turn, state) =>
      let (reply, next) := backend (.execute pool statement) (others turn state)
      (reply, (turn + 1, next))
  | request, (turn, state) =>
      let (reply, next) := backend request state
      (reply, (turn, next))

/-- Other clients that act once, before the statement of a turn. -/
def once (turn : Nat) (after : State) (now : Nat) (before : State) : State :=
  if now = turn then after else before

namespace Serves

variable {database? : State → Option Database} {others : Nat → State → State} {turn : Nat}
  {state : State} {database : Database} (serves : Serves backend pool database?)
include serves

theorem executes_interleaved (statement : Statement)
    (leads : database? (others turn state) = some database) :
    ∃ next, interleaved backend others (.execute pool statement) (turn, state) =
        ((database.execute statement).1, (turn + 1, next)) ∧
      database? next = some (database.execute statement).2 := by
  obtain ⟨next, answered, leadsNext⟩ := serves.executes statement _ database leads
  exact ⟨next, congrArg (fun answer => (answer.1, (turn + 1, answer.2))) answered, leadsNext⟩

theorem reads_interleaved {query : Select} {rows : List Row}
    (leads : database? (others turn state) = some database)
    (read : query.rows database.tables = .ok rows) :
    ∃ next, interleaved backend others (.execute pool (.select query)) (turn, state) =
        (.ok { rows }, (turn + 1, next)) ∧ database? next = some database := by
  obtain ⟨next, answered, leadsNext⟩ := serves.executes_interleaved (.select query) leads
  rw [Database.execute_select, read] at answered
  exact ⟨next, answered, leadsNext⟩

/-- No other client acts between a write and its commit. -/
theorem writes_interleaved {change : Write} {after : List StoredTable} {result : Result}
    (leads : database? (others turn state) = some database)
    (performed : change.perform database.tables database.now = .ok (after, result)) :
    ∃ between final, interleaved backend others (.execute pool (.write change)) (turn, state) =
        (.ok result, between) ∧
      interleaved backend others (.commit pool) between = (.ok (), (turn + 1, final)) ∧
      database? final = some { database with tables := after, pending := none } := by
  obtain ⟨next, executed, leadsNext⟩ := serves.executes_interleaved (.write change) leads
  rw [Database.execute, performed] at executed leadsNext
  obtain ⟨final, committed, leadsFinal⟩ := serves.commits next _ leadsNext
  exact ⟨_, final, executed,
    congrArg (fun answer => (answer.1, (turn + 1, answer.2))) committed, leadsFinal⟩

end Serves

end

namespace Host

/-- The database that a pool leads to, or an empty one. -/
def databaseOf (pool : Nat) (host : Host) : Database :=
  (host.database? pool).getD { clock := host.clock }

theorem databaseOf_of_some {host : Host} {pool : Nat} {database : Database}
    (leads : host.database? pool = some database) : databaseOf pool host = database := by
  rw [databaseOf, leads, Option.getD_some]

/-- What a statement leaves in the database of a host, and that it is not answered without one. -/
theorem execute_cases (host : Host) (pool : Nat) (statement : Statement) :
    (∃ next, backend (.execute pool statement) host =
        (((databaseOf pool host).execute statement).1, next) ∧
        databaseOf pool next = ((databaseOf pool host).execute statement).2) ∨
      ∃ failure, backend (.execute pool statement) host = (.error failure, host) := by
  cases leads : host.database? pool with
  | none =>
      obtain ⟨⟨failure, -, refuses⟩, -⟩ := idle_of_none leads
      exact .inr ⟨failure, refuses statement⟩
  | some database =>
      obtain ⟨next, answered, leadsNext⟩ := (serves pool).executes statement host database leads
      refine .inl ⟨next, ?_, ?_⟩
      · rw [databaseOf_of_some leads, answered]
      · rw [databaseOf_of_some leads, databaseOf_of_some leadsNext]

/-- Whatever other clients do, they and a client share the database of a host. -/
theorem shares_interleaved (others : Nat → Host → Host) (pool : Nat) :
    Shares (interleaved backend others) pool
      (fun state => databaseOf pool (others state.1 state.2))
      (fun state => databaseOf pool state.2) where
  executes := by
    rintro statement ⟨turn, host⟩ result ⟨after, left⟩ answered
    dsimp only [interleaved] at answered
    rcases execute_cases (others turn host) pool statement with
      ⟨next, replied, leaves⟩ | ⟨failure, refused⟩
    · rw [replied] at answered
      obtain ⟨given, same⟩ := Prod.mk.inj answered
      cases same
      exact ⟨given, leaves⟩
    · rw [refused] at answered
      cases (Prod.mk.inj answered).1
  refuses := by
    rintro statement ⟨turn, host⟩ failure ⟨after, left⟩ answered
    dsimp only [interleaved] at answered
    rcases execute_cases (others turn host) pool statement with
      ⟨next, replied, leaves⟩ | ⟨other, refused⟩
    · rw [replied] at answered
      cases (Prod.mk.inj answered).2
      exact (congrArg Database.tables leaves).trans (Database.tables_execute _ _)
    · rw [refused] at answered
      cases (Prod.mk.inj answered).2
      rfl
  commits := by
    rintro ⟨turn, host⟩ ⟨after, left⟩ answered
    dsimp only [interleaved] at answered
    cases leads : host.database? pool with
    | none =>
        obtain ⟨failure, -, refuses⟩ := onDatabase_of_none (α := Unit) leads
        have refused : backend (.commit pool) host = (.error failure, host) :=
          refuses fun database => (.ok (), database.commit)
        rw [refused] at answered
        cases (Prod.mk.inj answered).1
    | some database =>
        obtain ⟨next, committed, leadsNext⟩ := (serves pool).commits host database leads
        rw [committed] at answered
        cases (Prod.mk.inj answered).2
        exact (databaseOf_of_some leadsNext).trans
          (congrArg Database.commit (databaseOf_of_some leads).symm)

end Host

namespace Model

variable {State : Type} {backend : Backend State} {model : Model} {start final : State}
  {events : List (Event Request Request.Reply)}

section Runs

variable {query : Select} {rows : List Row}

theorem takes_of_repeats {retries : Nat} {outcome : Except Failure (List Row)}
    (repeats : Repeats backend
      (Program.session do
        let result ← model.execute (.select query)
        return result.rows.map (nestAll []))
      retries start outcome events final) (gave : outcome = .ok rows) :
    ∃ asked result, Takes backend model.pool start [⟨.select query, asked, result, final⟩] final ∧
      backend (.execute model.pool (.select query)) asked = (.ok result, final) ∧
      rows = result.rows := by
  induction repeats with
  | last held concluded =>
      subst gave
      cases concluded
      rcases Program.Ends.bind_cases held with ⟨_, same, -⟩ | ⟨result, _, _, _, asked, rest, -⟩
      · cases same
      · obtain ⟨answered, -⟩ := ends_of_execute asked
        cases rest
        exact ⟨_, result, .read answered (.done _), answered, List.map_id' _⟩
  | again held _ _ induction =>
      obtain ⟨asked, result, takes, answered, same⟩ := induction gave
      rcases Program.Ends.bind_cases held with ⟨_, -, failed⟩ | ⟨_, _, _, _, -, rest, -⟩
      · obtain ⟨refused, -⟩ := ends_of_execute failed
        exact ⟨asked, result, .failed refused takes, answered, same⟩
      · cases rest

/-- A query that gave rows was carried out, perhaps after attempts that failed. -/
theorem takes_of_fetch
    (ends : (model.fetch query []).Ends backend start (.ok rows) events final) :
    ∃ asked result, Takes backend model.pool start [⟨.select query, asked, result, final⟩] final ∧
      backend (.execute model.pool (.select query)) asked = (.ok result, final) ∧
      rows = result.rows := by
  rcases ends.recover_cases with ⟨_, same, held⟩ | ⟨failure, between, _, _, -, rescued, -⟩
  · cases same
    obtain ⟨_, repeats, -⟩ := repeats_of_retry held
    exact takes_of_repeats repeats rfl
  · split at rescued
    · obtain ⟨same, -⟩ := ends_of_giveUp rescued
      cases same
    · obtain ⟨same, -⟩ := rescued.of_ofResult
      cases same

theorem takes_of_write {α : Type} {change : Write} {extract : Result → Except Failure α}
    {words : String} {value : α}
    (ends : (model.write change extract words).Ends backend start (.ok value) events final) :
    ∃ result between, Takes backend model.pool start [⟨.write change, start, result, final⟩] final ∧
      backend (.execute model.pool (.write change)) start = (.ok result, between) ∧
      backend (.commit model.pool) between = (.ok (), final) ∧ extract result = .ok value := by
  obtain ⟨result, between, executed, extracted, committed⟩ := executed_of_write ends
  exact ⟨result, between, .written executed committed (.done final), executed, committed, extracted⟩

end Runs

end Model
end SchemaStore
