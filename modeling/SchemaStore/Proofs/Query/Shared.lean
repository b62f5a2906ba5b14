import SchemaStore.Proofs.Database.Sharing
import SchemaStore.Proofs.Query.Update

/-!
# Lookups on a shared database

A lookup that gave rows read them from the database that it came across.  As long as other clients
keep the rows of a model in their table, a run that has read can still rely on it.
-/

namespace SchemaStore.Model

def Present (model : Model) (database : Database) : Prop :=
  ∃ stored, model.Holds database.tables stored

variable {State : Type} {backend : Backend State} {seen left : State → Database} {model : Model}
  {start final : State} {events : List (Event Request Request.Reply)} {filter : Value}
  {conditions : List Clause}

theorem present_congr {database other : Database} (same : database.tables = other.tables) :
    model.Present database ↔ model.Present other := by
  rw [Present, Present, same]

/-- Clients that act once keep the rows of a model if they leave them. -/
theorem present_once {pool turn : Nat} {after : Host}
    (present : model.Present (after.databaseOf pool)) (state : Nat × Host)
    (before : model.Present (state.2.databaseOf pool)) :
    model.Present ((once turn after state.1 state.2).databaseOf pool) := by
  unfold once
  split
  · exact present
  · exact before

section Stated

theorem of_requireFilter {operation : String}
    (ends : (model.requireFilter operation filter).Ends backend start (.ok ()) events final) :
    filter.truthy = true ∧ final = start := by
  unfold requireFilter at ends
  split at ends
  · next given =>
    cases ends
    exact ⟨given, rfl⟩
  · cases (ends.of_ofResult).1

theorem stated_of_findOne {item : Option Row}
    (ends : (model.findOne filter).Ends backend start (.ok item) events final) :
    filter.truthy = true ∧ ∃ conditions, model.condition filter = .ok conditions := by
  have given : filter.truthy = true := by
    rcases ends.bind_cases with ⟨_, same, -⟩ | ⟨_, _, _, _, held, -, -⟩
    · cases same
    · exact (of_requireFilter held).1
  cases stated : model.condition filter with
  | ok conditions => exact ⟨given, conditions, rfl⟩
  | error failure =>
      rw [findOne_refused given stated] at ends
      cases (ends.of_ofResult).1

theorem stated_of_findAllById {items : List Row}
    (ends : (model.findAllById filter).Ends backend start (.ok items) events final) :
    ∃ conditions, model.condition filter = .ok conditions := by
  cases stated : model.condition filter with
  | ok conditions => exact ⟨conditions, rfl⟩
  | error failure =>
      rw [findAllById_refused stated] at ends
      cases (ends.of_ofResult).1

/-- A row was looked up by its id, which is no filter under the name of a combinator. -/
theorem condition_of_findOne_id (valid : model.entity.Valid) {id : Scalar} {item : Option Row}
    (ends : (model.findOne (.object [(model.idField, .scalar id)])).Ends backend start (.ok item)
      events final) :
    model.condition (.object [(model.idField, .scalar id)]) =
      .ok [.compare .equal model.key (.scalar id)] := by
  obtain ⟨-, conditions, stated⟩ := stated_of_findOne ends
  cases combined : Filter.isCombinator model.idField with
  | false => exact condition_id valid combined id
  | true =>
      rw [condition_combined combined (.inl ⟨id, rfl⟩)] at stated
      cases stated

end Stated

/-- A row that was looked up is the first one that the query gave. -/
theorem fetch_of_findOne (valid : model.entity.Valid) {item : Option Row}
    (ends : (model.findOne filter).Ends backend start (.ok item) events final) :
    ∃ conditions rows, model.condition filter = .ok conditions ∧
      (model.fetch (model.lookup conditions false (some 1)) []).Ends backend start (.ok rows) events
        final ∧
      item = rows.head? := by
  obtain ⟨given, conditions, stated⟩ := stated_of_findOne ends
  rw [findOne_eq valid given stated] at ends
  obtain ⟨inner, fetched, same⟩ := ends.exists_of_map
  obtain ⟨rows, rfl, rfl⟩ := Except.map_eq_ok.mp same.symm
  exact ⟨conditions, rows, stated, fetched, rfl⟩

theorem findOne_ends (valid : model.entity.Valid) (given : filter.truthy = true)
    (stated : model.condition filter = .ok conditions) {result : Result}
    (answered : backend (.execute model.pool (.select (model.lookup conditions false (some 1))))
      start = (.ok result, final)) :
    ∃ events, (model.findOne filter).Ends backend start (.ok result.rows.head?) events final := by
  rw [findOne_eq valid given stated]
  exact ⟨_, (fetch_ends answered).bind rfl⟩

theorem takes_of_findById (valid : model.entity.Valid) {id : Value} {item : Option Row}
    (ends : (model.findById id).Ends backend start (.ok item) events final) :
    ∃ step query, Takes backend model.pool start [step] final ∧ step.statement = .select query ∧
      item = step.result.rows.head? := by
  unfold findById at ends
  split at ends
  · cases (ends.of_ofResult).1
  · obtain ⟨conditions, rows, -, fetched, rfl⟩ := fetch_of_findOne valid ends
    obtain ⟨asked, result, takes, -, rfl⟩ := takes_of_fetch fetched
    exact ⟨_, _, takes, rfl, rfl⟩

section Lookups

variable (shares : Shares backend model.pool seen left)
  (others : ∀ state, model.Present (left state) → model.Present (seen state))
include shares others

/-- Reading leaves the rows of a model where they are, and so do the other clients. -/
theorem present_of_takes {steps : List (Step State)}
    (takes : Takes backend model.pool start steps final)
    (reads : ∀ step ∈ steps, ∃ query, step.statement = .select query)
    (present : model.Present (left start)) :
    (∀ step ∈ steps, model.Present (seen step.before)) ∧ model.Present (left final) := by
  -- What is kept is that the database which the last statement left has the rows.
  induction takes with
  | done => exact ⟨List.forall_mem_nil _, present⟩
  | failed refused _ induction =>
      refine induction reads ((present_congr (shares.refuses _ _ _ _ refused)).mpr ?_)
      exact others _ present
  | read answered _ induction =>
      obtain ⟨-, restReads⟩ := List.forall_mem_cons.mp reads
      have before := others _ present
      have after := (shares.rows_of_read answered).2 ▸ before
      obtain ⟨rest, last⟩ := induction restReads after
      exact ⟨List.forall_mem_cons.mpr ⟨before, rest⟩, last⟩
  | written =>
      obtain ⟨⟨_, same⟩, -⟩ := List.forall_mem_cons.mp reads
      cases same

theorem exists_step_of_fetch {query : Select} {rows : List Row}
    (present : model.Present (left start))
    (ends : (model.fetch query []).Ends backend start (.ok rows) events final) :
    ∃ step stored, Takes backend model.pool start [step] final ∧ step.statement = .select query ∧
      model.Holds (seen step.before).tables stored ∧
      query.rows (seen step.before).tables = .ok rows ∧ model.Present (left final) := by
  obtain ⟨asked, result, takes, answered, rfl⟩ := takes_of_fetch ends
  obtain ⟨before, after⟩ := present_of_takes shares others takes
    (List.forall_mem_singleton.mpr ⟨query, rfl⟩) present
  obtain ⟨stored, holds⟩ := before _ List.mem_cons_self
  exact ⟨_, stored, takes, rfl, holds, (shares.rows_of_read answered).1, after⟩

variable (valid : model.entity.Valid)
include valid

/-- A row that was looked up fulfilled the conditions where it was read; if there was none, no row
fulfilled them. -/
theorem exists_step_of_findOne {item : Option Row} (present : model.Present (left start))
    (ends : (model.findOne filter).Ends backend start (.ok item) events final) :
    ∃ step stored conditions, Takes backend model.pool start [step] final ∧
      model.condition filter = .ok conditions ∧
      step.statement = .select (model.lookup conditions false (some 1)) ∧
      model.Holds (seen step.before).tables stored ∧ model.Present (left final) ∧
      (∀ parameter ∈ Clause.boundParameters conditions, Except.Succeeds parameter.cell) ∧
      ((item = none ∧ ∀ row ∈ stored.rows, model.fulfils conditions row = false) ∨
        ∃ row found, item = some found ∧ row ∈ stored.rows ∧
          model.fulfils conditions row = true ∧ model.readRow row = .ok found) := by
  obtain ⟨conditions, rows, stated, fetched, rfl⟩ := fetch_of_findOne valid ends
  obtain ⟨step, stored, takes, asks, holds, read, after⟩ :=
    exists_step_of_fetch shares others present fetched
  refine ⟨step, stored, conditions, takes, stated, asks, holds, after, ?_, ?_⟩
  · obtain ⟨⟨⟩, checked, -⟩ := Except.bind_eq_ok.mp read
    obtain ⟨-, bound⟩ := Select.check_eq_ok.mp checked
    exact fun parameter member =>
      bound parameter (List.mem_append_left _ (List.mem_append_left _ member))
  · rcases holds.read_first read with ⟨none, same⟩ | ⟨row, found, member, fulfilled, rowRead, same⟩
    · refine .inl ⟨by rw [same]; rfl, fun row member => ?_⟩
      simpa using List.filter_eq_nil_iff.mp none row member
    · exact .inr ⟨row, found, by rw [same]; rfl, member, fulfilled, rowRead⟩

/-- A row that was looked up by its id was there where it was read. -/
theorem exists_step_of_findOne_id {key : Int} {item : Option Row}
    (present : model.Present (left start))
    (ends : (model.findOne (.object [(model.idField, .int key)])).Ends backend start (.ok item)
      events final) :
    ∃ step stored, Takes backend model.pool start [step] final ∧
      step.statement =
        .select (model.lookup [.compare .equal model.key (.int key)] false (some 1)) ∧
      model.Holds (seen step.before).tables stored ∧ model.Present (left final) ∧
      ((item = none ∧ ∀ row ∈ stored.rows, stored.keyOf row ≠ key) ∨
        ∃ row found, item = some found ∧ row ∈ stored.rows ∧ stored.keyOf row = key ∧
          model.readRow row = .ok found) := by
  have stated : model.condition (.object [(model.idField, .int key)]) =
      .ok [.compare .equal model.key (.int key)] := condition_of_findOne_id valid ends
  obtain ⟨step, stored, conditions, takes, same, asks, holds, after, bound, found⟩ :=
    exists_step_of_findOne shares others valid present ends
  cases stated.symm.trans same
  have storable : Cell.isStorable key = true :=
    Parameter.isStorable_of_cell rfl (bound _ (List.mem_singleton_self _))
  refine ⟨step, stored, takes, asks, holds, after, ?_⟩
  rcases found with ⟨nothing, missing⟩ | ⟨row, found, same, member, fulfilled, rowRead⟩
  · refine .inl ⟨nothing, fun row member keyed => ?_⟩
    have unfulfilled := missing row member
    rw [fulfils_id storable (holds.cell_idField valid member), keyed, beq_self_eq_true]
      at unfulfilled
    cases unfulfilled
  · rw [fulfils_id storable (holds.cell_idField valid member), beq_iff_eq] at fulfilled
    exact .inr ⟨row, found, same, member, fulfilled, rowRead⟩

end Lookups

end SchemaStore.Model
