import SchemaStore.Proofs.Backend.Ending
import SchemaStore.Proofs.Database.Service
import SchemaStore.Proofs.Query.Lookup

/-!
# Programs on a served database

If nothing that is asked of a backend fails, a model reads what its database gives, and
the database has what a write leads to.
-/

namespace SchemaStore

/-- Whether a statement or a commit failed. -/
def Event.hasFailed : Event Request Request.Reply → Bool
  | .asked (.execute ..) (.error _) | .asked (.commit _) (.error _) => true
  | _ => false

namespace Program

variable {State α β : Type} {backend : Backend State} {database? : State → Option Database}
  {before between after : Database}

/-- Without a failure, a program gives a result and leads from one database to another. -/
def Leads (backend : Backend State) (database? : State → Option Database) (program : Program α)
    (before : Database) (a : α) (after : Database) : Prop :=
  ∀ start, database? start = some before → ∃ events final,
    program.Ends backend start (.ok a) events final ∧ database? final = some after ∧
      ∀ event ∈ events, event.hasFailed = false

theorem Leads.ofResult {result : Except Failure α} {a : α} (known : result = .ok a) :
    (ofResult result).Leads backend database? before a before := by
  subst known
  exact fun start leads => ⟨[], start, rfl, leads, by simp⟩

theorem Leads.bind {program : Program α} {next : α → Program β} {a : α} {b : β}
    (first : program.Leads backend database? before a between)
    (second : (next a).Leads backend database? between b after) :
    (program >>= next).Leads backend database? before b after := by
  intro start leads
  obtain ⟨events, middle, held, leadsMiddle, unfailing⟩ := first start leads
  obtain ⟨others, final, rest, leadsFinal, othersUnfailing⟩ := second middle leadsMiddle
  exact ⟨events ++ others, final, held.bind rest, leadsFinal,
    List.forall_mem_append.mpr ⟨unfailing, othersUnfailing⟩⟩

end Program

variable {State : Type} {backend : Backend State} {database? : State → Option Database}
  {model : Model} {database : Database} {start final : State}
  {events : List (Event Request Request.Reply)}

/-- A write whose result can be used fails only if the backend does. -/
theorem Model.exists_failed_of_write {α : Type} {change : Write}
    {extract : Result → Except Failure α} {words : String} {failure : Failure}
    (total : ∀ result, Except.Succeeds (extract result))
    (ends : (model.write change extract words).Ends backend start (.error failure) events final) :
    ∃ event ∈ events, event.hasFailed = true := by
  rcases ends.recover_cases with ⟨_, same, -⟩ | ⟨cause, _, first, second, held, -, rfl⟩
  · cases same
  suffices failed : ∃ event ∈ first, event.hasFailed = true by
    obtain ⟨event, member, itself⟩ := failed
    exact ⟨event, List.mem_append_left second member, itself⟩
  rcases held.bind_cases with ⟨_, -, held⟩ | ⟨result, _, before, _, -, rest, rfl⟩
  · obtain ⟨-, rfl⟩ := ends_of_execute held
    exact ⟨_, List.mem_singleton_self _, rfl⟩
  rcases rest.ofResult_bind_cases with ⟨_, refused, -⟩ | ⟨value, -, committing⟩
  · exact absurd (refused ▸ total result) (Except.not_succeeds_error _)
  rcases committing.bind_cases with ⟨_, -, held⟩ | ⟨⟨⟩, _, _, _, -, rest, -⟩
  · obtain ⟨-, rfl⟩ := ends_of_commit held
    exact ⟨_, List.mem_append_right before (List.mem_singleton_self _), rfl⟩
  · cases rest

namespace Serves

variable (serves : Serves backend model.pool database?) (leads : database? start = some database)
include serves leads

theorem fetch {query : Select} {outcome : Except Failure (List Row)}
    (ends : (model.fetch query []).Ends backend start outcome events final)
    (unfailing : ∀ event ∈ events, event.hasFailed = false) :
    database? final = some database ∧
      ∃ rows, query.rows database.tables = .ok rows ∧ outcome = .ok rows := by
  have keeps : ∀ state, database? state = some database →
      database? (backend (.execute model.pool (.select query)) state).2 = some database := by
    intro state leads
    obtain ⟨next, answered, there⟩ := serves.executes (.select query) state database leads
    rw [answered]
    exact there
  obtain ⟨same, state, reply, next, leadsThen, answered, asked, ending⟩ :=
    Model.answersTo_of_fetch keeps leads ends
  refine ⟨same, ?_⟩
  cases reply with
  | error cause => cases unfailing _ asked
  | ok result =>
      obtain ⟨_, executed, -⟩ := serves.executes (.select query) state database leadsThen
      have given := congrArg Prod.fst (answered.symm.trans executed)
      obtain ⟨rows, read, rfl⟩ := Except.map_eq_ok.mp given.symm
      have unnested : rows.map (nestAll []) = rows := List.map_id' rows
      exact ⟨rows, read, ending.trans (congrArg Except.ok unnested)⟩

theorem write {α : Type} {change : Write} {f : Result → α} {words : String}
    {outcome : Except Failure α}
    (ends : (model.write change (fun result => .ok (f result)) words).Ends backend start outcome
      events final)
    (unfailing : ∀ event ∈ events, event.hasFailed = false) :
    ∃ after result, change.perform database.tables database.now = .ok (after, result) ∧
      database? final = some { database with tables := after, pending := none } ∧
      outcome = .ok (f result) := by
  cases outcome with
  | error failure =>
      obtain ⟨event, member, failed⟩ :=
        Model.exists_failed_of_write (fun result => Except.succeeds_ok (f result)) ends
      rw [unfailing event member] at failed
      cases failed
  | ok value =>
      obtain ⟨result, between, executed, extracted, committed⟩ := Model.executed_of_write ends
      cases extracted
      obtain ⟨_, answered, leadsBetween⟩ := serves.executes (.write change) start database leads
      cases congrArg Prod.snd (answered.symm.trans executed)
      have given := congrArg Prod.fst (answered.symm.trans executed)
      obtain ⟨after, performed, pending⟩ := Database.perform_of_execute given
      rw [pending] at leadsBetween
      obtain ⟨_, done, leadsFinal⟩ := serves.commits between _ leadsBetween
      cases congrArg Prod.snd (done.symm.trans committed)
      exact ⟨after, result, performed, leadsFinal, rfl⟩

section Forward

omit leads

theorem leads_fetch {query : Select} {rows : List Row}
    (read : query.rows database.tables = .ok rows) :
    (model.fetch query []).Leads backend database? database rows database := by
  intro start leads
  obtain ⟨next, answered, leadsNext⟩ := serves.executes (.select query) start database leads
  rw [Database.execute_select, read] at answered
  exact ⟨_, next, Model.fetch_ends answered, leadsNext, List.forall_mem_singleton.mpr rfl⟩

theorem leads_write {α : Type} {change : Write} {f : Result → α} {words : String}
    {after : List StoredTable} {result : Result}
    (performed : change.perform database.tables database.now = .ok (after, result)) :
    (model.write change (fun result => .ok (f result)) words).Leads backend database? database
      (f result) { database with tables := after, pending := none } := by
  intro start leads
  obtain ⟨between, answered, leadsBetween⟩ :=
    serves.executes (.write change) start database leads
  rw [Database.execute, performed] at answered leadsBetween
  obtain ⟨final, committed, leadsFinal⟩ := serves.commits between _ leadsBetween
  exact ⟨_, final, Model.write_ends answered rfl committed, leadsFinal, by simp [Event.hasFailed]⟩

end Forward

section Lookups

variable {filter : Value} {conditions : List Clause} (valid : model.entity.Valid)
  (stated : model.condition filter = .ok conditions)
include valid stated

theorem findOne {outcome : Except Failure (Option Row)} (given : filter.truthy = true)
    (ends : (model.findOne filter).Ends backend start outcome events final)
    (unfailing : ∀ event ∈ events, event.hasFailed = false) :
    database? final = some database ∧
      ∃ items, (model.lookup conditions false (some 1)).rows database.tables = .ok items ∧
        outcome = .ok items.head? := by
  rw [Model.findOne_eq valid given stated] at ends
  obtain ⟨inner, fetched, rfl⟩ := ends.exists_of_map
  obtain ⟨leadsFinal, items, read, rfl⟩ := serves.fetch leads fetched unfailing
  exact ⟨leadsFinal, items, read, rfl⟩

theorem findAllById {outcome : Except Failure (List Row)}
    (ends : (model.findAllById filter).Ends backend start outcome events final)
    (unfailing : ∀ event ∈ events, event.hasFailed = false) :
    database? final = some database ∧
      ∃ items, (model.lookup conditions true none).rows database.tables = .ok items ∧
        outcome = .ok items := by
  rw [Model.findAllById_eq valid stated] at ends
  exact serves.fetch leads ends unfailing

theorem matchingIds {outcome : Except Failure (List Value)}
    (ends : (model.matchingIds filter).Ends backend start outcome events final)
    (unfailing : ∀ event ∈ events, event.hasFailed = false) :
    database? final = some database ∧
      ∃ items, (model.idQuery conditions).rows database.tables = .ok items ∧
        outcome = items.mapM (Model.valueIn model.idField) := by
  have querying := (ends.of_ok_bind (Model.idColumn_eq valid)).of_ok_bind stated
  rcases querying.bind_cases with
    ⟨failure, rfl, held⟩ | ⟨rows, _, first, second, held, read, rfl⟩
  · obtain ⟨-, _, -, same⟩ := serves.fetch leads held unfailing
    cases same
  · obtain ⟨leadsFinal, items, given, same⟩ := serves.fetch leads held fun event member =>
      unfailing event (List.mem_append_left second member)
    cases same
    obtain ⟨rfl, rfl, -⟩ := read.of_ofResult
    exact ⟨leadsFinal, rows, given, rfl⟩

end Lookups

end Serves
end SchemaStore
