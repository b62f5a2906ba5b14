import SchemaStore.Proofs.Backend.Ending
import SchemaStore.Proofs.Database.Service
import SchemaStore.Proofs.Query.Assignment

/-!
# Refused input and written rows

Bad input of a caller is reported while data, columns and filters are read, before
anything is written.  But a row that was written is read again by its id, and this lookup
is refused, too, if the id was given as null or if the id field has the name of a
combinator.  So a change that is refused has left the tables as they were, except exactly
in these two cases.
-/

namespace SchemaStore

def Failure.isBadInput : Failure → Bool
  | .own error => error.family == .validation
  | _ => false

/-- The operation failed with bad input of its caller. -/
def Refused {α : Type} : Except Failure α → Prop
  | .error failure => failure.isBadInput = true
  | .ok _ => False

instance {α : Type} (outcome : Except Failure α) : Decidable (Refused outcome) :=
  match outcome with
  | .error failure => inferInstanceAs (Decidable (failure.isBadInput = true))
  | .ok _ => inferInstanceAs (Decidable False)

theorem refused_map {α β : Type} (f : α → β) (outcome : Except Failure α) :
    Refused (f <$> outcome) ↔ Refused outcome := by
  cases outcome <;> exact Iff.rfl

/-- Whether the rows that were read have an id. -/
def Event.isKeyed (idField : String) : Event Request Request.Reply → Bool
  | .asked (.execute _ (.select _)) (.ok result) =>
      result.rows.all fun row => !(row.get? idField).any Value.isNull
  | _ => true

namespace Model

/-- A backend changes tables only by commits.  What it executes has single values as ids, and it
does not report stored values as bad input. -/
structure Transacts {State Tables : Type} (model : Model) (backend : Backend State)
    (tables : State → Tables) : Prop where
  executes : ∀ statement state,
    tables (backend (.execute model.pool statement) state).2 = tables state
  refuses : ∀ state cause next, backend (.commit model.pool) state = (.error cause, next) →
    tables next = tables state
  undoes : ∀ state, tables (backend (.rollback model.pool) state).2 = tables state
  reads : ∀ query state cause next,
    backend (.execute model.pool (.select query)) state = (.error cause, next) →
      cause.toStoreError.family ≠ .validation
  cells : ∀ query state result next,
    backend (.execute model.pool (.select query)) state = (.ok result, next) →
      ∀ row ∈ result.rows, ∀ entry ∈ row, ∃ s, entry.2 = Value.scalar s
  inserts : ∀ values state result next,
    backend (.execute model.pool (.write (.insert model.table values))) state =
        (.ok result, next) →
      ∃ s, (values.get? model.idField).getD result.key = Value.scalar s ∧
        (s = .null → values.get? model.idField = some .null)
  updates : ∀ values condition state result next,
    backend (.execute model.pool (.write (.update model.table values condition))) state =
        (.ok result, next) →
      ∀ id, values.get? model.idField = some id → ∃ s, id = Value.scalar s

/-- The tables that a pool of a host leads to. -/
def tablesOf (pool : Nat) (host : Host) : Option (List StoredTable) :=
  (host.database? pool).map (·.tables)

/-- A statement that a host executed was executed by the database of the pool. -/
theorem executed_by_host {pool : Nat} {statement : Statement} {host next : Host} {result : Result}
    (done : Host.backend (.execute pool statement) host = (.ok result, next)) :
    ∃ database : Database, (database.execute statement).1 = .ok result := by
  cases leads : host.database? pool with
  | none =>
      obtain ⟨⟨failure, -, executes⟩, -⟩ := Host.idle_of_none leads
      rw [executes] at done
      cases done
  | some database =>
      obtain ⟨_, answered, -⟩ := (Host.serves pool).executes statement host database leads
      rw [answered] at done
      exact ⟨database, congrArg Prod.fst done⟩

/-- A host is such a backend. -/
theorem Transacts.host {model : Model} (valid : model.entity.Valid) :
    model.Transacts Host.backend (tablesOf model.pool) where
  executes statement host := by
    cases leads : host.database? model.pool with
    | none =>
        obtain ⟨⟨failure, -, executes⟩, -⟩ := Host.idle_of_none leads
        rw [executes]
    | some database =>
        obtain ⟨next, answered, there⟩ :=
          (Host.serves model.pool).executes statement host database leads
        rw [answered, tablesOf, tablesOf, there, leads]
        exact congrArg some (database.tables_execute statement)
  refuses host cause next refused := by
    cases leads : host.database? model.pool with
    | none =>
        obtain ⟨-, commits, -⟩ := Host.idle_of_none leads
        rw [refused] at commits
        rw [← commits]
    | some database =>
        obtain ⟨_, answered, -⟩ := (Host.serves model.pool).commits host database leads
        rw [answered] at refused
        cases refused
  undoes host := by
    cases leads : host.database? model.pool with
    | none => rw [(Host.idle_of_none leads).2.2]
    | some database =>
        rw [tablesOf, tablesOf, (Host.serves model.pool).undoes host database leads, leads]
        rfl
  reads query host cause next failed := by
    cases leads : host.database? model.pool with
    | none =>
        obtain ⟨⟨failure, impersonal, executes⟩, -⟩ := Host.idle_of_none leads
        rw [executes] at failed
        cases failed
        exact impersonal.family
    | some database =>
        obtain ⟨_, answered, -⟩ := (Host.serves model.pool).executes _ host database leads
        rw [answered, Database.execute_select] at failed
        cases read : query.rows database.tables with
        | ok rows =>
            rw [read] at failed
            cases failed
        | error failure =>
            rw [read] at failed
            cases failed
            exact (Select.impersonal_rows read).family
  cells query host result next done := by
    obtain ⟨database, executed⟩ := executed_by_host done
    obtain ⟨rows, read, rfl⟩ := Except.map_eq_ok.mp executed
    exact Select.scalar_of_rows read
  inserts values host result next done := by
    obtain ⟨database, executed⟩ := executed_by_host done
    obtain ⟨after, performed, -⟩ := Database.perform_of_execute executed
    obtain ⟨stored, changed, key, -, bound, -, -, rfl⟩ := Write.perform_insert performed
    cases given : values.get? model.idField with
    | none => exact ⟨.int key, rfl, by rintro ⟨⟩⟩
    | some id =>
        obtain ⟨s, rfl⟩ := scalar_of_bound valid bound given
        exact ⟨s, rfl, fun missing => missing ▸ rfl⟩
  updates values condition host result next done id given := by
    obtain ⟨database, executed⟩ := executed_by_host done
    obtain ⟨after, performed, -⟩ := Database.perform_of_execute executed
    obtain ⟨stored, changed, -, bound, -⟩ := Write.perform_update performed
    exact scalar_of_bound valid (fun parameter member =>
      bound parameter (List.mem_append_left _ member)) given

/-- The changes that a caller can ask for. -/
inductive Change where
  | create (data : Value)
  | updateOne (filter data : Value)
  | updateMany (filter data : Value)
  | delete (filter : Value)
  | upsert (filter data : Value)

namespace Change

def program (model : Model) : Change → Program Unit
  | create data => do let _ ← model.create data
  | updateOne filter data => do let _ ← model.updateOne filter data
  | updateMany filter data => do let _ ← model.updateMany filter data
  | delete filter => do let _ ← model.delete filter
  | upsert filter data => do let _ ← model.upsert filter data

/-- A change whose rows are not found again: the id field has the name of a combinator, or null
is given as the id. -/
def Misread (model : Model) : Change → Prop
  | create data | updateOne _ data | updateMany _ data | upsert _ data =>
      Filter.isCombinator model.idField = true ∨ data.item? model.idField = some .null
  | delete _ => False

end Change

variable {State Tables : Type} {backend : Backend State} {tables : State → Tables} {model : Model}
  {start final : State} {events : List (Event Request Request.Reply)} {filter data : Value}

section Reading

theorem isBadInput_eq_false {failure : Failure}
    (other : failure.toStoreError.family ≠ .validation) :
    failure.isBadInput = false := by
  cases failure with
  | own error => exact beq_eq_false_iff_ne.mpr other
  | _ => rfl

/-- Reading rows keeps the tables and is not refused; the rows hold single values. -/
theorem Transacts.fetch (transacts : model.Transacts backend tables) {query : Select}
    {outcome : Except Failure (List Row)}
    (ends : (model.fetch query []).Ends backend start outcome events final) :
    tables final = tables start ∧ ¬Refused outcome ∧
      ∀ rows, outcome = .ok rows → ∀ row ∈ rows, (∀ entry ∈ row, ∃ s, entry.2 = Value.scalar s) ∧
        ((∀ event ∈ events, event.isKeyed model.idField) →
          (row.get? model.idField).any Value.isNull = false) := by
  have keeps : ∀ state, tables state = tables start →
      tables (backend (.execute model.pool (.select query)) state).2 = tables start :=
    fun state same => (transacts.executes _ state).trans same
  obtain ⟨same, state, reply, next, -, answered, asked, ending⟩ := answersTo_of_fetch keeps rfl ends
  refine ⟨same, ?_, ?_⟩
  · cases reply with
    | ok result =>
        rw [ending]
        exact id
    | error cause =>
        have sound := transacts.reads query state cause next answered
        have plain : ∀ failure, outcome = .error failure → failure.isBadInput = false := by
          rintro failure rfl
          rcases ending with same | same | same
          · cases same
            exact isBadInput_eq_false sound
          · cases same
            rfl
          · cases same
            exact beq_eq_false_iff_ne.mpr sound
        cases outcome with
        | ok rows => exact id
        | error failure =>
            intro refused
            rw [Refused, plain failure rfl] at refused
            cases refused
  · rintro rows rfl row member
    cases reply with
    | error cause => rcases ending with same | same | same <;> cases same
    | ok result =>
        cases ending
        have unnested : nestAll [] = (id : Row → Row) := rfl
        rw [unnested, List.map_id] at member
        refine ⟨transacts.cells query state result next answered row member, fun keyed => ?_⟩
        simpa using List.all_eq_true.mp (keyed _ asked) row member

theorem exists_scalar_of_valueIn {name : String} {row : Row} {value : Value}
    (cells : ∀ entry ∈ row, ∃ s, entry.2 = Value.scalar s)
    (read : valueIn name row = .ok value) :
    row.get? name = some value ∧ ∃ s, value = Value.scalar s := by
  unfold valueIn at read
  split at read
  · next found =>
    cases read
    obtain ⟨entry, there, rfl⟩ := Option.map_eq_some_iff.mp found
    exact ⟨found, cells entry (List.mem_of_find?_eq_some there)⟩
  · cases read

/-- Finding a row keeps the tables, and its id is a single value. -/
theorem Transacts.findOne (transacts : model.Transacts backend tables)
    (valid : model.entity.Valid) {outcome : Except Failure (Option Row)}
    (ends : (model.findOne filter).Ends backend start outcome events final) :
    tables final = tables start ∧ ∀ row id, outcome = .ok (some row) →
      valueIn model.idField row = .ok id → ∃ s, id = Value.scalar s ∧
        ((∀ event ∈ events, event.isKeyed model.idField) → s ≠ .null) := by
  cases given : filter.truthy with
  | false =>
      obtain ⟨failure, refused⟩ : ∃ failure, model.findOne filter = Program.fail failure := by
        unfold Model.findOne requireFilter
        rw [given]
        exact ⟨_, rfl⟩
      rw [refused] at ends
      obtain ⟨rfl, rfl, -⟩ := ends.of_ofResult
      exact ⟨rfl, by rintro row id ⟨⟩⟩
  | true =>
      cases accepted : model.condition filter with
      | error failure =>
          rw [findOne_refused given accepted] at ends
          obtain ⟨rfl, rfl, -⟩ := ends.of_ofResult
          exact ⟨rfl, by rintro row id ⟨⟩⟩
      | ok conditions =>
          rw [findOne_eq valid given accepted] at ends
          rcases ends.bind_cases with
            ⟨failure, rfl, held⟩ | ⟨rows, _, first, second, held, rest, rfl⟩
          · exact ⟨(transacts.fetch held).1, by rintro row id ⟨⟩⟩
          · obtain ⟨same, -, cells⟩ := transacts.fetch held
            cases rest
            refine ⟨same, fun row id found read => ?_⟩
            have member : row ∈ rows := List.mem_of_head? (Except.ok.inj found)
            obtain ⟨single, keyed⟩ := cells rows rfl row member
            obtain ⟨stands, s, rfl⟩ := exists_scalar_of_valueIn single read
            refine ⟨s, rfl, fun sound missing => ?_⟩
            have notNull := keyed fun event among => sound event (List.mem_append_left _ among)
            rw [stands, missing] at notNull
            cases notNull

/-- A row is not found again by its id exactly if the id is null or is read as a branch. -/
theorem Transacts.findById_refused_iff (transacts : model.Transacts backend tables)
    (valid : model.entity.Valid) {id : Scalar} {outcome : Except Failure (Option Row)}
    (ends : (model.findById (.scalar id)).Ends backend start outcome events final) :
    Refused outcome ↔ Filter.isCombinator model.idField = true ∨ id = .null := by
  by_cases missing : id = .null
  · subst missing
    obtain ⟨rfl, -, -⟩ := Program.Ends.of_ofResult ends
    exact iff_of_true rfl (.inr rfl)
  · have there : (Value.scalar id).isNull = false := by
      cases id <;> first | rfl | exact absurd rfl missing
    have looked : model.findById (.scalar id) =
        model.findOne (.object [(model.idField, .scalar id)]) := by
      rw [Model.findById, there]
      rfl
    rw [looked] at ends
    cases combined : Filter.isCombinator model.idField with
    | true =>
        rw [findOne_refused rfl (condition_combined combined (.inl ⟨id, rfl⟩))] at ends
        obtain ⟨rfl, -, -⟩ := ends.of_ofResult
        exact iff_of_true rfl (.inl rfl)
    | false =>
        rw [findOne_eq valid rfl (condition_id valid combined id)] at ends
        refine iff_of_false ?_ (by simp [missing])
        rcases ends.bind_cases with ⟨failure, rfl, held⟩ | ⟨rows, _, _, _, held, rest, -⟩
        · exact (transacts.fetch held).2.1
        · cases rest
          exact fun refused => refused

/-- A row with an id of its own is found again by the id that it was given, if it was given
one. -/
theorem Transacts.reread_refused_iff (transacts : model.Transacts backend tables)
    (valid : model.entity.Valid) {values : Record Value} {id : Scalar} (notNull : id ≠ .null)
    (single : ∀ value, values.get? model.idField = some value → ∃ s, value = Value.scalar s)
    {outcome : Except Failure (Option Row)}
    (ends : (model.findById ((values.get? model.idField).getD (.scalar id))).Ends backend start
      outcome events final) :
    Refused outcome ↔ Filter.isCombinator model.idField = true ∨
      values.get? model.idField = some .null := by
  cases given : values.get? model.idField with
  | none =>
      rw [given] at ends
      simpa [notNull] using transacts.findById_refused_iff valid ends
  | some value =>
      obtain ⟨s, rfl⟩ := single value given
      rw [given] at ends
      simpa [Value.null] using transacts.findById_refused_iff valid ends

theorem Transacts.findAllById_refused_iff (transacts : model.Transacts backend tables)
    (valid : model.entity.Valid) {ids : List Value} (given : ids ≠ [])
    (single : ∀ id ∈ ids, ∃ s, id = Value.scalar s) {outcome : Except Failure (List Row)}
    (ends : (model.findAllById (.object [(model.idField, .sequence .list ids)])).Ends backend start
      outcome events final) :
    Refused outcome ↔ Filter.isCombinator model.idField = true := by
  cases combined : Filter.isCombinator model.idField with
  | true =>
      cases ids with
      | nil => exact absurd rfl given
      | cons first rest =>
          obtain ⟨s, rfl⟩ := single first List.mem_cons_self
          rw [findAllById_refused (condition_combined combined (.inr ⟨_, s, rest, rfl⟩))] at ends
          obtain ⟨rfl, -, -⟩ := ends.of_ofResult
          exact iff_of_true rfl rfl
  | false =>
      rw [findAllById_eq valid (condition_ids valid combined .list ids)] at ends
      exact iff_of_false (transacts.fetch ends).2.1 (by simp)

theorem Transacts.findAllById (transacts : model.Transacts backend tables)
    (valid : model.entity.Valid) {outcome : Except Failure (List Row)}
    (ends : (model.findAllById filter).Ends backend start outcome events final) :
    tables final = tables start := by
  cases accepted : model.condition filter with
  | error failure =>
      rw [findAllById_refused accepted] at ends
      obtain ⟨-, rfl, -⟩ := ends.of_ofResult
      rfl
  | ok conditions =>
      rw [findAllById_eq valid accepted] at ends
      exact (transacts.fetch ends).1

/-- Looking up the ids of matching rows keeps the tables. -/
theorem Transacts.matchingIds (transacts : model.Transacts backend tables)
    {outcome : Except Failure (List Value)}
    (ends : (model.matchingIds filter).Ends backend start outcome events final) :
    tables final = tables start ∧ ∀ ids, outcome = .ok ids →
      ∀ id ∈ ids, ∃ s, id = Value.scalar s := by
  rcases ends.ofResult_bind_cases with ⟨_, -, rfl, rfl, -⟩ | ⟨column, -, rest⟩
  · exact ⟨rfl, by rintro ids ⟨⟩⟩
  rcases rest.ofResult_bind_cases with ⟨_, -, rfl, rfl, -⟩ | ⟨conditions, -, rest⟩
  · exact ⟨rfl, by rintro ids ⟨⟩⟩
  rcases rest.bind_cases with ⟨failure, rfl, held⟩ | ⟨rows, _, _, _, held, rest, -⟩
  · exact ⟨(transacts.fetch held).1, by rintro ids ⟨⟩⟩
  · obtain ⟨same, -, cells⟩ := transacts.fetch held
    obtain ⟨rfl, rfl, -⟩ := rest.of_ofResult
    refine ⟨same, fun ids given id member => ?_⟩
    have stepped : Except.ok id ∈ rows.map (valueIn model.idField) := by
      rw [Except.mapM_eq_ok.mp given]
      exact List.mem_map_of_mem member
    obtain ⟨row, rowMember, read⟩ := List.mem_map.mp stepped
    exact (exists_scalar_of_valueIn (cells rows rfl row rowMember).1 read).2

end Reading

section Writing

theorem valuesOf_eq {values : Record Value} (accepted : model.valuesOf data = .ok values) :
    data = .object values := by
  cases data with
  | object entries =>
      obtain ⟨-, -, same⟩ := Except.bind_eq_ok.mp accepted
      cases same
      rfl
  | scalar s => cases accepted
  | sequence kind items => cases accepted

theorem someValuesOf_eq {values : Record Value} (accepted : model.someValuesOf data = .ok values) :
    data = .object values := by
  unfold someValuesOf at accepted
  split at accepted
  · cases accepted
  · exact valuesOf_eq accepted

theorem Transacts.write_error {α : Type} (transacts : model.Transacts backend tables)
    {change : Write} {extract : Result → Except Failure α} {words : String} {failure : Failure}
    (ends : (model.write change extract words).Ends backend start (.error failure) events final) :
    tables final = tables start := by
  have executes : ∀ state, tables state = tables start →
      tables (backend (.execute model.pool (.write change)) state).2 = tables start :=
    fun state same => (transacts.executes _ state).trans same
  rcases write_cases executes
      (fun state cause next same refused => (transacts.refuses state cause next refused).trans same)
      (fun state same => (transacts.undoes state).trans same) rfl ends with
    ⟨-, same⟩ | ⟨_, _, _, -, -, -, same⟩
  · exact same
  · cases same

variable (transacts : model.Transacts backend tables) (valid : model.entity.Valid)
include transacts valid

theorem Transacts.create_refused_iff {outcome : Except Failure (Option Row)}
    (ends : (model.create data).Ends backend start outcome events final)
    (changed : tables final ≠ tables start) :
    Refused outcome ↔ (Change.create data).Misread model := by
  rcases ends.ofResult_bind_cases with ⟨_, -, -, rfl, -⟩ | ⟨values, accepted, rest⟩
  · exact absurd rfl changed
  cases valuesOf_eq accepted
  rcases rest.bind_cases with ⟨failure, rfl, held⟩ | ⟨key, between, _, _, held, rest, -⟩
  · exact absurd (transacts.write_error held) changed
  · obtain ⟨result, next, executed, extracted, -⟩ := executed_of_write held
    cases extracted
    obtain ⟨s, id, missing⟩ := transacts.inserts values start result next executed
    rw [id] at rest
    rw [transacts.findById_refused_iff valid rest]
    refine or_congr_right ⟨missing, fun given => ?_⟩
    rw [show values.get? model.idField = some .null from given] at id
    cases id
    rfl

theorem Transacts.updateOne_refused_iff {outcome : Except Failure (Updated (Option Row))}
    (ends : (model.updateOne filter data).Ends backend start outcome events final)
    (keyed : ∀ event ∈ events, event.isKeyed model.idField)
    (changed : tables final ≠ tables start) :
    Refused outcome ↔ (Change.updateOne filter data).Misread model := by
  rcases ends.ofResult_bind_cases with ⟨_, -, -, rfl, -⟩ | ⟨values, accepted, rest⟩
  · exact absurd rfl changed
  cases someValuesOf_eq accepted
  rcases rest.bind_cases with ⟨failure, rfl, held⟩ | ⟨found, between, first, _, held, rest, rfl⟩
  · exact absurd (transacts.findOne valid held).1 changed
  obtain ⟨same, cells⟩ := transacts.findOne valid held
  rw [← same] at changed
  cases found with
  | none =>
      cases rest
      exact absurd rfl changed
  | some row =>
      rcases rest.ofResult_bind_cases with ⟨_, -, -, rfl, -⟩ | ⟨id, read, rest⟩
      · exact absurd rfl changed
      obtain ⟨s, rfl, sound⟩ := cells row id rfl read
      have notNull := sound fun event among => keyed event (List.mem_append_left _ among)
      rcases rest.ofResult_bind_cases with ⟨_, -, -, rfl, -⟩ | ⟨column, -, rest⟩
      · exact absurd rfl changed
      rcases rest.bind_cases with ⟨failure, rfl, held⟩ | ⟨count, _, _, _, held, rest, -⟩
      · exact absurd (transacts.write_error held) changed
      obtain ⟨result, next, executed, -⟩ := executed_of_write held
      obtain ⟨inner, again, rfl⟩ := rest.exists_of_map
      rw [refused_map]
      exact transacts.reread_refused_iff valid notNull
        (transacts.updates values _ _ result next executed) again

theorem Transacts.updateMany_refused_iff {outcome : Except Failure (Updated (List Row))}
    (ends : (model.updateMany filter data).Ends backend start outcome events final)
    (changed : tables final ≠ tables start) :
    Refused outcome ↔ (Change.updateMany filter data).Misread model := by
  rcases ends.ofResult_bind_cases with ⟨_, -, -, rfl, -⟩ | ⟨values, accepted, rest⟩
  · exact absurd rfl changed
  cases someValuesOf_eq accepted
  cases given : values.has model.idField with
  | true =>
      simp only [given, if_true] at rest
      rcases rest.bind_cases with ⟨failure, -, held⟩ | ⟨⟨⟩, _, _, _, held, -, -⟩
      · obtain ⟨-, rfl, -⟩ := held.of_ofResult
        exact absurd rfl changed
      · cases held
  | false =>
      have absent : values.get? model.idField = none := by
        rwa [Record.has_eq_isSome_get?, Option.isSome_eq_false_iff, Option.isNone_iff_eq_none]
          at given
      simp only [given] at rest
      rcases rest.bind_cases with ⟨failure, rfl, held⟩ | ⟨ids, between, _, _, held, rest, -⟩
      · exact absurd (transacts.matchingIds held).1 changed
      obtain ⟨same, single⟩ := transacts.matchingIds held
      rw [← same] at changed
      cases empty : ids.isEmpty with
      | true =>
          rw [empty] at rest
          cases rest
          exact absurd rfl changed
      | false =>
          simp only [empty] at rest
          rcases rest.ofResult_bind_cases with ⟨_, -, -, rfl, -⟩ | ⟨column, -, rest⟩
          · exact absurd rfl changed
          rcases rest.bind_cases with ⟨failure, rfl, held⟩ | ⟨count, _, _, _, held, rest, -⟩
          · exact absurd (transacts.write_error held) changed
          obtain ⟨inner, again, rfl⟩ := rest.exists_of_map
          rw [refused_map, transacts.findAllById_refused_iff valid
            (by simpa using empty) (single ids rfl) again]
          have misread : (Change.updateMany filter (.object values)).Misread model ↔
              Filter.isCombinator model.idField = true ∨
                values.get? model.idField = some .null := Iff.rfl
          rw [misread, absent]
          simp

theorem Transacts.not_refused_delete {outcome : Except Failure Deleted}
    (ends : (model.delete filter).Ends backend start outcome events final)
    (changed : tables final ≠ tables start) : ¬Refused outcome := by
  rcases ends.bind_cases with ⟨_, -, held⟩ | ⟨⟨⟩, between, _, _, held, rest, -⟩
  · unfold requireFilter at held
    split at held
    · cases held
    · obtain ⟨-, rfl, -⟩ := held.of_ofResult
      exact absurd rfl changed
  · have same : between = start := by
      unfold requireFilter at held
      split at held <;> cases held
      rfl
    subst same
    rcases rest.bind_cases with ⟨failure, rfl, held⟩ | ⟨rows, between, _, _, held, rest, -⟩
    · exact absurd (transacts.findAllById valid held) changed
    rw [← transacts.findAllById valid held] at changed
    cases empty : rows.isEmpty with
    | true =>
        rw [empty] at rest
        cases rest
        exact absurd rfl changed
    | false =>
        simp only [empty] at rest
        rcases rest.ofResult_bind_cases with ⟨_, -, -, rfl, -⟩ | ⟨ids, -, rest⟩
        · exact absurd rfl changed
        rcases rest.ofResult_bind_cases with ⟨_, -, -, rfl, -⟩ | ⟨column, -, rest⟩
        · exact absurd rfl changed
        rcases rest.bind_cases with ⟨failure, rfl, held⟩ | ⟨count, _, _, _, held, rest, -⟩
        · exact absurd (transacts.write_error held) changed
        · cases rest
          exact id

theorem Transacts.upsert_refused_iff {outcome : Except Failure Upserted}
    (ends : (model.upsert filter data).Ends backend start outcome events final)
    (keyed : ∀ event ∈ events, event.isKeyed model.idField)
    (changed : tables final ≠ tables start) :
    Refused outcome ↔ (Change.upsert filter data).Misread model := by
  rcases ends.bind_cases with ⟨failure, rfl, held⟩ | ⟨found, between, _, second, held, rest, rfl⟩
  · exact absurd (transacts.findOne valid held).1 changed
  rw [← (transacts.findOne valid held).1] at changed
  cases found with
  | none =>
      obtain ⟨inner, created, rfl⟩ := rest.exists_of_map
      rw [refused_map]
      exact transacts.create_refused_iff valid created changed
  | some row =>
      rcases rest.ofResult_bind_cases with ⟨_, -, -, rfl, -⟩ | ⟨id, -, rest⟩
      · exact absurd rfl changed
      obtain ⟨inner, updated, rfl⟩ := rest.exists_of_map
      rw [refused_map]
      exact transacts.updateOne_refused_iff valid updated
        (fun event among => keyed event (List.mem_append_right _ among)) changed

theorem Transacts.refused_iff {change : Change} {outcome : Except Failure Unit}
    (ends : (change.program model).Ends backend start outcome events final)
    (keyed : ∀ event ∈ events, event.isKeyed model.idField)
    (changed : tables final ≠ tables start) : Refused outcome ↔ change.Misread model := by
  cases change with
  | create data =>
      obtain ⟨inner, held, rfl⟩ := ends.exists_of_map
      rw [refused_map]
      exact transacts.create_refused_iff valid held changed
  | updateOne filter data =>
      obtain ⟨inner, held, rfl⟩ := ends.exists_of_map
      rw [refused_map]
      exact transacts.updateOne_refused_iff valid held keyed changed
  | updateMany filter data =>
      obtain ⟨inner, held, rfl⟩ := ends.exists_of_map
      rw [refused_map]
      exact transacts.updateMany_refused_iff valid held changed
  | delete filter =>
      obtain ⟨inner, held, rfl⟩ := ends.exists_of_map
      rw [refused_map]
      exact iff_of_false (transacts.not_refused_delete valid held changed) id
  | upsert filter data =>
      obtain ⟨inner, held, rfl⟩ := ends.exists_of_map
      rw [refused_map]
      exact transacts.upsert_refused_iff valid held keyed changed

end Writing

/-- A change that is refused has left the tables as they were, unless its rows are not found
again; and such a change is refused also if it has changed the tables. -/
theorem unchanged_of_refused (transacts : model.Transacts backend tables)
    (valid : model.entity.Valid) {change : Change} {outcome : Except Failure Unit}
    (ends : (change.program model).Ends backend start outcome events final)
    (keyed : ∀ event ∈ events, event.isKeyed model.idField) :
    (¬change.Misread model → Refused outcome → tables final = tables start) ∧
      (change.Misread model → tables final ≠ tables start → Refused outcome) := by
  refine ⟨fun found refused => ?_, fun misread changed => ?_⟩
  · by_contra changed
    exact found ((transacts.refused_iff valid ends keyed changed).mp refused)
  · exact (transacts.refused_iff valid ends keyed changed).mpr misread

set_option maxRecDepth 8000 in
/-- A user with an unknown field is refused and not stored; one whose id is given as null is
refused although it is stored. -/
theorem unchanged_of_refused_users :
    let entity : Entity :=
      ⟨"User", [("id", { type := .int, isId := true }), ("name", { type := .string }),
        ("age", { type := .int })]⟩
    let model : Model := {
      schema := ⟨⟨.sqlite, "file:./dev.db", none⟩, [entity]⟩
      entity
      dialect := .sqlite
      settings := {}
      pool := 0 }
    let clock : Moment := ⟨2020, 1, 1, 0, 0, 0, 0, none⟩
    let host : Host := {
      pools := [.memory { tables := [{ table := model.table }], clock }]
      clock }
    let unknown := Change.create (.object [("nickname", .text "Ann"), ("age", .int 30)])
    let null := Change.create (.object [("id", .null), ("name", .text "Ann"), ("age", .int 30)])
    (∃ outcome events final,
        (unknown.program model).Ends Host.backend host outcome events final ∧
        Refused outcome ∧ tablesOf 0 final = tablesOf 0 host) ∧
      ∃ outcome events final,
        (null.program model).Ends Host.backend host outcome events final ∧
        Refused outcome ∧ tablesOf 0 final ≠ tablesOf 0 host := by
  intro entity model clock host unknown null
  have valid : entity.Valid := by
    rw [Entity.valid_iff]
    decide
  have transacts : model.Transacts Host.backend (tablesOf 0) := Transacts.host valid
  let run (change : Change) := (change.program model).session.run Host.backend host
  have keyed : (∀ event ∈ (run unknown).events, event.isKeyed "id") ∧
      ∀ event ∈ (run null).events, event.isKeyed "id" := by decide +kernel
  have refused : Refused (run unknown).result := by decide +kernel
  have changed : tablesOf 0 (run null).state ≠ tablesOf 0 host := by decide +kernel
  constructor
  · obtain ⟨⟨outcome, events, final⟩, held⟩ : ∃ done, run unknown = done := ⟨_, rfl⟩
    rw [held] at keyed refused
    have found : ¬unknown.Misread model := by
      rintro (combined | given)
      · exact absurd combined (by decide)
      · cases given
    exact ⟨outcome, events, final, held, refused,
      (unchanged_of_refused transacts valid held keyed.1).1 found refused⟩
  · obtain ⟨⟨outcome, events, final⟩, held⟩ : ∃ done, run null = done := ⟨_, rfl⟩
    rw [held] at keyed changed
    exact ⟨outcome, events, final, held,
      (unchanged_of_refused transacts valid held keyed.2).2 (.inr rfl) changed, changed⟩

end Model
end SchemaStore
