import SchemaStore.Proofs.Database.Failure
import SchemaStore.Proofs.Database.Writing

/-!
# Backends that serve a database

A backend serves a pool from a database if it answers what is asked through the pool as
the database would.  A host serves every pool that leads to a database of its folder or
of its memory; any other pool only gives failures.
-/

namespace SchemaStore

/-- What is asked through a pool is answered by a database. -/
structure Serves {State : Type} (backend : Backend State) (pool : Nat)
    (database? : State → Option Database) : Prop where
  executes : ∀ statement state database, database? state = some database →
    ∃ next, backend (.execute pool statement) state = ((database.execute statement).1, next) ∧
      database? next = some (database.execute statement).2
  commits : ∀ state database, database? state = some database →
    ∃ next, backend (.commit pool) state = (.ok (), next) ∧ database? next = some database.commit
  undoes : ∀ state database, database? state = some database →
    database? (backend (.rollback pool) state).2 = some database.rollback

namespace Database

/-- Statements leave the tables as they are until a commit. -/
theorem tables_execute (database : Database) (statement : Statement) :
    (database.execute statement).2.tables = database.tables := by
  cases statement with
  | write change =>
      rw [execute]
      split <;> rfl
  | _ => rfl

theorem execute_select {database : Database} {query : Select} :
    (database.execute (.select query)).1 =
      (query.rows database.tables).map fun rows => { rows } := rfl

theorem perform_of_execute {database : Database} {change : Write} {result : Result}
    (done : (database.execute (.write change)).1 = .ok result) :
    ∃ after, change.perform database.tables database.now = .ok (after, result) ∧
      (database.execute (.write change)).2 = { database with pending := some after } := by
  rw [execute] at done ⊢
  split at done
  · next after given performed =>
    cases done
    rw [performed]
    exact ⟨after, rfl, rfl⟩
  · cases done

end Database

namespace Host

/-- The database that a pool leads to. -/
def database? (host : Host) (pool : Nat) : Option Database :=
  match host.pools[pool]? with
  | some (.memory database) => some database
  | some (.file path) =>
      if path.toList.contains '\x00' then none else (fileOf? path).map host.databaseAt
  | _ => none

variable {host : Host} {pool : Nat} {α : Type}

theorem onDatabase_of_some {database : Database} (leads : host.database? pool = some database)
    (step : Database → Except Failure α × Database) :
    ∃ next, host.onDatabase pool step = ((step database).1, next) ∧
      next.database? pool = some (step database).2 := by
  unfold database? at leads
  unfold onDatabase
  split at leads
  · next target =>
    cases leads
    obtain ⟨inside, -⟩ := List.getElem?_eq_some_iff.mp target
    rw [target]
    refine ⟨_, rfl, ?_⟩
    rw [database?, List.getElem?_set_self inside]
  · next path target =>
    split at leads
    · cases leads
    · next plain =>
      obtain ⟨file, named, rfl⟩ := Option.map_eq_some_iff.mp leads
      simp only [target, plain, named]
      refine ⟨_, rfl, ?_⟩
      simp only [database?, target, plain, named]
      simp [databaseAt, Record.get?_put]
  · cases leads

/-- A pool that leads nowhere gives failures that do not refuse any value. -/
theorem onDatabase_of_none (nowhere : host.database? pool = none) :
    ∃ failure : Failure, failure.Impersonal ∧
      ∀ step : Database → Except Failure α × Database,
        host.onDatabase pool step = (.error failure, host) := by
  unfold database? at nowhere
  unfold onDatabase
  split at nowhere
  · cases nowhere
  · next path target =>
    rw [target]
    dsimp only
    split at nowhere
    · next broken =>
      refine ⟨.unreadableFile .broken, ?_, fun _ => if_pos broken⟩
      exact Failure.impersonal_uncoded (by rintro error ⟨⟩) rfl
    · next plain =>
      refine ⟨cannotOpen, ?_, fun step => ?_⟩
      · exact Failure.impersonal_of_code (by rintro error ⟨⟩) rfl
          (show ∀ code ∈ some "SQLITE_CANTOPEN", code ∉ valueCodes by decide)
      · rw [if_neg plain, Option.map_eq_none_iff.mp nowhere]
  · next noMemory noFile =>
    refine ⟨unreachableServer, ?_, fun step => ?_⟩
    · exact Failure.impersonal_of_code (by rintro error ⟨⟩) rfl
        (show ∀ code ∈ some "2003", code ∉ valueCodes by decide)
    · split
      · rfl
      · rfl
      · next database target => exact absurd target (noMemory database)
      · next path target => exact absurd target (noFile path)

/-- Nothing is done through a pool that leads nowhere. -/
theorem idle_of_none (nowhere : host.database? pool = none) :
    (∃ failure : Failure, failure.Impersonal ∧
        ∀ statement, backend (.execute pool statement) host = (.error failure, host)) ∧
      (backend (.commit pool) host).2 = host ∧ (backend (.rollback pool) host).2 = host := by
  obtain ⟨failure, impersonal, executes⟩ := onDatabase_of_none (α := Result) nowhere
  obtain ⟨_, -, changes⟩ := onDatabase_of_none (α := Unit) nowhere
  refine ⟨⟨failure, impersonal, fun statement => executes _⟩, ?_, ?_⟩
  · exact congrArg Prod.snd (changes _)
  · exact congrArg Prod.snd (changes _)

theorem serves (pool : Nat) : Serves backend pool (database? · pool) where
  executes statement _ _ leads := onDatabase_of_some leads (Database.execute · statement)
  commits _ _ leads := onDatabase_of_some leads fun database => (.ok (), database.commit)
  undoes state database leads := by
    obtain ⟨next, done, there⟩ :=
      onDatabase_of_some leads fun database => (Except.ok (), database.rollback)
    have same : (backend (.rollback pool) state).2 = next := congrArg Prod.snd done
    rw [same]
    exact there

end Host

namespace Record

variable {β : Type} {record : Record β} {key : String} {value : β} {entry : String × β}

theorem mem_put (member : entry ∈ record.put key value) :
    entry ∈ record ∨ entry = (key, value) := by
  unfold put at member
  split at member
  · obtain ⟨old, oldMember, made⟩ := List.mem_map.mp member
    split at made
    · exact .inr made.symm
    · exact .inl (made ▸ oldMember)
  · simpa using member

theorem mem_putAll {entries : Record β} (member : entry ∈ record.putAll entries) :
    entry ∈ record ∨ entry ∈ entries := by
  induction entries generalizing record with
  | nil => exact .inl member
  | cons first rest induction =>
      rcases induction member with known | later
      · rcases mem_put known with before | rfl
        · exact .inl before
        · exact .inr List.mem_cons_self
      · exact .inr (List.mem_cons_of_mem _ later)

end Record

theorem ColumnType.scalar_of_read {type : ColumnType} {cell : Cell} {value : Value}
    (read : type.read cell = .ok value) : ∃ s, value = .scalar s := by
  unfold ColumnType.read at read
  split at read
  case h_2 =>
    split at read <;> cases read
    exact ⟨_, rfl⟩
  all_goals
    cases read
    try exact ⟨_, rfl⟩

namespace Select

/-- Rows of a result hold single values. -/
theorem scalar_of_rows {query : Select} {tables : List StoredTable} {rows : List Row}
    (read : query.rows tables = .ok rows) :
    ∀ row ∈ rows, ∀ entry ∈ row, ∃ s, entry.2 = Value.scalar s := by
  obtain ⟨⟨⟩, -, scopes⟩ := Except.bind_eq_ok.mp read
  intro row member entry entryMember
  have made : Except.ok row ∈ (query.scopes tables).map query.rowOf := by
    rw [Except.mapM_eq_ok.mp scopes]
    exact List.mem_map_of_mem member
  obtain ⟨scope, -, rowMade⟩ := List.mem_map.mp made
  obtain ⟨values, valuesRead, same⟩ := Except.bind_eq_ok.mp rowMade
  cases same
  have zipped := (Record.mem_putAll entryMember).resolve_left List.not_mem_nil
  have valueMember : entry.2 ∈ values := (List.of_mem_zip zipped).2
  have valueMade : Except.ok entry.2 ∈
      query.outputs.map fun output => output.column.type.read (scope.cell output.column) := by
    rw [Except.mapM_eq_ok.mp valuesRead]
    exact List.mem_map_of_mem valueMember
  obtain ⟨output, -, cellRead⟩ := List.mem_map.mp valueMade
  exact ColumnType.scalar_of_read cellRead

end Select
end SchemaStore
