import SchemaStore.Proofs.Query.Shared

/-!
# Upserts among other clients

An upsert looks for a row twice and writes in a statement of its own.
-/

namespace SchemaStore.Model

/-- A row has what is given for its columns; only an id that is null is another one. -/
def Carries (model : Model) (values : Record Value) (row : CellRow) : Prop :=
  ∀ column ∈ model.table.columns, ∀ value, values.get? column.name = some value →
    (column.isKey = true → column.storedCell value ≠ .null) →
      CellRow.cell row column.name = column.storedCell value

variable {model : Model} {tables after : List StoredTable} {stored : StoredTable}
  {values : Record Value} {now : Cell} {result : Result}

namespace Holds

variable (holds : model.Holds tables stored) (valid : model.entity.Valid)
include holds valid

theorem perform_missing {key : Int}
    (performed : (Write.update model.table values (.compare .equal model.key (.int key))).perform
      tables now = .ok (after, result))
    (missing : ∀ row ∈ stored.rows, stored.keyOf row ≠ key) :
    after = Database.replace tables stored ∧ result.rowCount = 0 := by
  obtain ⟨_, changed, found, bound, changing, rfl, rfl⟩ := Write.perform_update performed
  cases holds.found.symm.trans found
  obtain ⟨-, idBound⟩ := List.forall_mem_append.mp bound
  have storable : Cell.isStorable key = true :=
    Parameter.isStorable_of_cell rfl (idBound _ (List.mem_singleton_self _))
  have unmatched : stored.matching (.compare .equal model.key (.int key)) = [] := by
    rw [holds.matching_eq]
    refine List.filter_eq_nil_iff.mpr fun row member => ?_
    rw [fulfils_id storable (holds.cell_idField valid member)]
    simpa using missing row member
  rw [unmatched] at changing ⊢
  cases changing
  exact ⟨rfl, rfl⟩

theorem perform_added
    (performed : (Write.insert model.table values).perform tables now = .ok (after, result)) :
    ∃ row, after = Database.replace tables
        { stored with rows := stored.insertRow row stored.rows } ∧ result.rowCount = 1 ∧
      model.Carries values row := by
  obtain ⟨_, next, key, found, -, adding, rfl, rfl⟩ := Write.perform_insert performed
  cases holds.found.symm.trans found
  obtain ⟨row, made, keyed, -, rfl⟩ := StoredTable.exists_of_add adding
  refine ⟨row, rfl, rfl, fun column member value given known => ?_⟩
  obtain ⟨own, knownOwn, sameType, sameKey⟩ := holds.fits.columns column member
  have named : own.name = column.name := by simpa using List.find?_some knownOwn
  have declared : model.table.column? column.name = some column :=
    find?_eq_some_of_nodup Column.name (columns_nodup valid) member
  have bound : (Write.givenCells model.table values).get? own.name =
      some (⟨.ofColumn column.type, value⟩ : Parameter).boundCell := by
    rw [Write.get?_givenCells (columns_nodup valid), named, given, declared]
    rfl
  have there : Record.get? row own.name =
      some (if own.isKey then .int key
        else StoredTable.newCell now (Write.givenCells model.table values) own) := by
    refine Record.get?_of_mem ?_ ?_
    · rw [made, Record.keys, List.map_map]
      exact holds.fits.distinct
    · rw [made]
      exact List.mem_map.mpr ⟨own, List.mem_of_find?_eq_some knownOwn, rfl⟩
  rw [CellRow.cell, ← named, there, sameKey]
  cases isKey : column.isKey with
  | false =>
      rw [if_neg Bool.false_ne_true, StoredTable.newCell, bound, sameType]
      rfl
  | true =>
      have name : column.name = model.idField := name_of_isKey valid member isKey
      rw [name] at declared
      rw [named, name, ← holds.fits.keyName valid] at bound
      cases declared.symm.trans (column?_idField valid)
      refine (keyed _ bound fun null => known isKey ?_).symm
      rw [Column.storedCell, null]
      rfl

end Holds

section Steps

variable {State : Type} (model : Model) (seen left : State → Database) (data : Value)

/-- A write that adds a row with the data. -/
inductive Adds (step : Step State) : Prop where
  | intro {values : Record Value} {here : StoredTable} {row : CellRow}
      (accepted : model.valuesOf data = .ok values)
      (writes : step.statement = .write (.insert model.table values))
      (counted : step.result.rowCount = 1)
      (there : model.Holds (seen step.before).tables here)
      (carries : model.Carries values row)
      (leaves : left step.after =
        (seen step.before).withRows here (here.insertRow row here.rows))

/-- A write that puts the data into the row with an id. -/
inductive Updates (key : Int) (step : Step State) : Prop where
  | intro {values : Record Value} {here : StoredTable} {old : CellRow}
      {before after rows : List CellRow}
      (accepted : model.someValuesOf data = .ok values)
      (writes : step.statement =
        .write (.update model.table values (.compare .equal model.key (.int key))))
      (counted : step.result.rowCount = 1)
      (there : model.Holds (seen step.before).tables here)
      (keyed : here.keyOf old = key) (split : here.rows = before ++ old :: after)
      (rearranged : rows.Perm
        (before ++ model.updatedRow values (seen step.before).now old :: after))
      (leaves : left step.after = (seen step.before).withRows here rows)

/-- A write that finds no row with an id. -/
inductive Misses (key : Int) (step : Step State) : Prop where
  | intro {values : Record Value} {here : StoredTable}
      (accepted : model.someValuesOf data = .ok values)
      (writes : step.statement =
        .write (.update model.table values (.compare .equal model.key (.int key))))
      (counted : step.result.rowCount = 0)
      (there : model.Holds (seen step.before).tables here)
      (missing : ∀ other ∈ here.rows, here.keyOf other ≠ key)
      (leaves : left step.after = (seen step.before).withRows here here.rows)

/-- What an update of the row with an id gave, and how many rows it wrote. -/
inductive UpdatesById (key : Int) : Option Row → Int → List (Step State) → Prop where
  | gone {again : Step State} {query : Select} {here : StoredTable}
      (asks : again.statement = .select query)
      (there : model.Holds (seen again.before).tables here)
      (missing : ∀ other ∈ here.rows, here.keyOf other ≠ key) :
      UpdatesById key none 0 [again]
  | missed {again updating rereading : Step State} {query reread : Select}
      (asks : again.statement = .select query)
      (misses : model.Misses seen left data key updating)
      (rereads : rereading.statement = .select reread) :
      UpdatesById key rereading.result.rows.head? 0 [again, updating, rereading]
  | updated {again updating rereading : Step State} {query reread : Select}
      (asks : again.statement = .select query)
      (updates : model.Updates seen left data key updating)
      (rereads : rereading.statement = .select reread) :
      UpdatesById key rereading.result.rows.head? 1 [again, updating, rereading]

/-- What an upsert gave, and how many rows it wrote.  It probes for a row that matches; if there is
one, it is looked up again by its id, and may be gone by then or when it should be updated. -/
inductive Upserts (filter : Value) : Upserted → Int → List (Step State) → Prop where
  | inserted {probing adding rereading : Step State} {query reread : Select} {stored : StoredTable}
      (probes : probing.statement = .select query)
      (found : model.Holds (seen probing.before).tables stored)
      (unmatched : ∀ row ∈ stored.rows, model.matchesRow filter row = false)
      (adds : model.Adds seen left data adding)
      (rereads : rereading.statement = .select reread) :
      Upserts filter ⟨true, rereading.result.rows.head?⟩ 1 [probing, adding, rereading]
  | matched {probing : Step State} {query : Select} {stored : StoredTable} {row : CellRow}
      {item : Option Row} {count : Int} {steps : List (Step State)}
      (probes : probing.statement = .select query)
      (found : model.Holds (seen probing.before).tables stored) (member : row ∈ stored.rows)
      (matched : model.matchesRow filter row = true)
      (goesOn : model.UpdatesById seen left data (stored.keyOf row) item count steps) :
      Upserts filter ⟨false, item⟩ count (probing :: steps)

variable {model seen left data} {filter : Value} {count : Int} {steps : List (Step State)}

theorem UpdatesById.written {key : Int} {item : Option Row}
    (updated : model.UpdatesById seen left data key item count steps) :
    Step.written steps = count := by
  cases updated with
  | gone asks => exact Step.written_of_read asks
  | missed asks misses rereads =>
      obtain ⟨-, writes, counted, -, -, -⟩ := misses
      rw [Step.written_of_read asks, Step.written_of_write writes, Step.written_of_read rereads,
        counted]
      rfl
  | updated asks updates rereads =>
      obtain ⟨-, writes, counted, -, -, -, -, -⟩ := updates
      rw [Step.written_of_read asks, Step.written_of_write writes, Step.written_of_read rereads,
        counted]
      rfl

theorem Upserts.written {upserted : Upserted}
    (upserts : model.Upserts seen left data filter upserted count steps) :
    Step.written steps = count := by
  cases upserts with
  | inserted probes _ _ adds rereads =>
      obtain ⟨-, writes, counted, -, -, -⟩ := adds
      rw [Step.written_of_read probes, Step.written_of_write writes, Step.written_of_read rereads,
        counted]
      rfl
  | matched probes _ _ _ goesOn => rw [Step.written_of_read probes, goesOn.written]

end Steps

section Runs

variable {State : Type} {backend : Backend State} {seen left : State → Database}
  {start final : State} {events : List (Event Request Request.Reply)} {filter data : Value}
  (shares : Shares backend model.pool seen left)
  (others : ∀ state, model.Present (left state) → model.Present (seen state))
  (valid : model.entity.Valid) (present : model.Present (left start))
include shares others valid present

theorem exists_steps_of_create {item : Option Row}
    (ends : (model.create data).Ends backend start (.ok item) events final) :
    ∃ adding rereading query, Takes backend model.pool start [adding, rereading] final ∧
      model.Adds seen left data adding ∧ rereading.statement = .select query ∧
      item = rereading.result.rows.head? := by
  rcases ends.ofResult_bind_cases with ⟨_, -, same, -⟩ | ⟨values, accepted, writing⟩
  · cases same
  rcases writing.bind_cases with ⟨_, same, -⟩ | ⟨key, between, _, _, held, rereading, -⟩
  · cases same
  obtain ⟨result, _, takes, executed, committed, -⟩ := takes_of_write held
  obtain ⟨here, there⟩ := others start present
  obtain ⟨_, performed, leaves⟩ := shares.performed_of_written executed committed
  obtain ⟨row, rfl, counted, carries⟩ := there.perform_added valid performed
  obtain ⟨step, query, takesRead, reads, rfl⟩ := takes_of_findById valid rereading
  exact ⟨_, step, query, takes.append takesRead,
    .intro accepted rfl counted there carries leaves, reads, rfl⟩

/-- An executed update of the row with an id put the data into it, or there was none. -/
theorem updates_or_misses {key : Int} {values : Record Value} {change : Write} {between : State}
    (accepted : model.someValuesOf data = .ok values)
    (changes : change = .update model.table values (.compare .equal model.key (.int key)))
    (executed : backend (.execute model.pool (.write change)) start = (.ok result, between))
    (committed : backend (.commit model.pool) between = (.ok (), final)) :
    model.Updates seen left data key ⟨.write change, start, result, final⟩ ∨
      model.Misses seen left data key ⟨.write change, start, result, final⟩ := by
  subst changes
  obtain ⟨here, there⟩ := others start present
  obtain ⟨_, performed, leaves⟩ := shares.performed_of_written executed committed
  by_cases missing : ∀ other ∈ here.rows, here.keyOf other ≠ key
  · obtain ⟨rfl, counted⟩ := there.perform_missing valid performed missing
    exact .inr (.intro accepted rfl counted there missing leaves)
  · push Not at missing
    obtain ⟨old, member, rfl⟩ := missing
    obtain ⟨rows, rfl, counted, -, ⟨before, rest, split, rearranged⟩, -⟩ :=
      there.perform_one valid (seen start).prefer_now member performed
    exact .inl (.intro accepted rfl counted there rfl split rearranged leaves)

theorem exists_steps_of_updateOne {key : Int} {updated : Updated (Option Row)}
    (ends : (model.updateOne (.object [(model.idField, .int key)]) data).Ends backend start
      (.ok updated) events final) :
    ∃ steps count, Takes backend model.pool start steps final ∧
      model.UpdatesById seen left data key updated.data count steps := by
  rcases ends.ofResult_bind_cases with ⟨_, -, same, -⟩ | ⟨values, accepted, finding⟩
  · cases same
  rcases finding.bind_cases with ⟨_, same, -⟩ | ⟨item, between, _, _, held, changing, -⟩
  · cases same
  obtain ⟨again, here, takes, asks, there, after, found⟩ :=
    exists_step_of_findOne_id shares others valid present held
  rcases found with ⟨rfl, missing⟩ | ⟨row, item, rfl, member, rfl, rowRead⟩
  · cases changing
    exact ⟨_, 0, takes, .gone asks there missing⟩
  have writing := (changing.of_ok_bind (there.valueIn_idField valid member rowRead)).of_ok_bind
    (idColumn_eq valid)
  rcases writing.bind_cases with ⟨_, same, -⟩ | ⟨_, middle, _, _, held, rereading, -⟩
  · cases same
  obtain ⟨result, _, takesWrite, executed, committed, -⟩ := takes_of_write held
  obtain ⟨inner, reread, same⟩ := rereading.exists_of_map
  obtain ⟨item, rfl, rfl⟩ := Except.map_eq_ok.mp same.symm
  obtain ⟨step, query, takesRead, reads, rfl⟩ := takes_of_findById valid reread
  have takesAll := takes.append (takesWrite.append takesRead)
  rcases updates_or_misses shares others valid after accepted rfl executed committed with
    updates | misses
  · exact ⟨_, 1, takesAll, .updated asks updates reads⟩
  · exact ⟨_, 0, takesAll, .missed asks misses reads⟩

/-- An upsert that ends normally has written one row, unless it found a row that another client
removed before it was looked up again or updated.  Then it has written nothing, and does not
tell. -/
theorem upsert_written {upserted : Upserted}
    (ends : (model.upsert filter data).Ends backend start (.ok upserted) events final) :
    ∃ steps, Takes backend model.pool start steps final ∧
      model.Upserts seen left data filter upserted (Step.written steps) steps := by
  suffices upserts : ∃ steps count, Takes backend model.pool start steps final ∧
      model.Upserts seen left data filter upserted count steps by
    obtain ⟨steps, count, takes, upserts⟩ := upserts
    exact ⟨steps, takes, upserts.written.symm ▸ upserts⟩
  rcases ends.bind_cases with ⟨_, same, -⟩ | ⟨item, between, _, _, held, writing, -⟩
  · cases same
  obtain ⟨probing, stored, conditions, takesProbe, stated, probes, holds, after, -, found⟩ :=
    exists_step_of_findOne shares others valid present held
  rw [fulfils_condition stated] at found
  rcases found with ⟨rfl, unmatched⟩ | ⟨row, item, rfl, member, matched, rowRead⟩
  · obtain ⟨inner, creating, same⟩ := writing.exists_of_map
    obtain ⟨item, rfl, rfl⟩ := Except.map_eq_ok.mp same.symm
    obtain ⟨adding, rereading, query, takes, adds, rereads, rfl⟩ :=
      exists_steps_of_create shares others valid after creating
    exact ⟨_, 1, takesProbe.append takes, .inserted probes holds unmatched adds rereads⟩
  · have updating := writing.of_ok_bind (holds.valueIn_idField valid member rowRead)
    obtain ⟨inner, changing, same⟩ := updating.exists_of_map
    obtain ⟨updated, rfl, rfl⟩ := Except.map_eq_ok.mp same.symm
    obtain ⟨steps, count, takes, goesOn⟩ :=
      exists_steps_of_updateOne shares others valid after changing
    exact ⟨_, count, takesProbe.append takes, .matched probes holds member matched goesOn⟩

end Runs

/-- An upsert finds a user who is gone when it looks again.  It ends normally, and no user with the
data is there. -/
theorem upsert_written_gone :
    let entity : Entity :=
      ⟨"User", [("id", { type := .int, isId := true }), ("name", { type := .string })]⟩
    let model : Model := {
      schema := ⟨⟨.sqlite, "file:./dev.db", none⟩, [entity]⟩
      entity
      dialect := .sqlite
      settings := {}
      pool := 0 }
    let clock : Moment := ⟨2020, 1, 2, 0, 0, 0, 0, none⟩
    let database (rows : List CellRow) : Database :=
      { tables := [{ table := model.table, rows }], clock }
    let host (rows : List CellRow) : Host := { pools := [.memory (database rows)], clock }
    let others := once 1 (host [])
    let named (name : String) : Value := .object [("name", .text name)]
    let ann : CellRow := [("id", .int 1), ("name", .text "Ann")]
    ∃ events final,
      (model.upsert (named "Ann") (named "Bob")).Ends (interleaved Host.backend others)
        (0, host [ann]) (.ok ⟨false, none⟩) events final ∧
      final.2.database? 0 = some (database []) ∧
      ∃ steps, Takes (interleaved Host.backend others) 0 (0, host [ann]) steps final ∧
        model.Upserts (fun state => (others state.1 state.2).databaseOf 0)
          (fun state => state.2.databaseOf 0) (named "Bob") (named "Ann") ⟨false, none⟩
          (Step.written steps) steps := by
  intro entity model clock database host others named ann
  let name : ColumnRef := ⟨"users", "name", .varchar⟩
  have table : model.table = {
      name := "users"
      columns := [{ name := "id", type := .integer, isKey := true },
        { name := "name", type := .varchar }] } := by
    decide +kernel
  have valid : entity.Valid := by
    rw [Entity.valid_iff]
    decide
  have holds {rows : List CellRow} (sound : ∀ row ∈ rows, model.FitsRow model.table row)
      (ordered : rows.Pairwise fun first second =>
        (StoredTable.keyOf { table := model.table } first) <
          (StoredTable.keyOf { table := model.table } second)) :
      model.Holds (database rows).tables { table := model.table, rows } :=
    ⟨List.find?_cons_of_pos (beq_self_eq_true _), fits_table valid, sound, ordered⟩
  have there : model.Holds (database [ann]).tables { table := model.table, rows := [ann] } :=
    holds (List.forall_mem_singleton.mpr ⟨by rw [table]; rfl, 1, rfl⟩) (List.pairwise_singleton _ _)
  have gone : model.Holds (database []).tables { table := model.table, rows := [] } :=
    holds (List.forall_mem_nil _) List.Pairwise.nil
  have stated : model.condition (named "Ann") = .ok [.compare .equal name (.text "Ann")] :=
    condition_field (by rw [table]; rfl) (by decide) (.text "Ann")
  have accepted : ∃ values, model.someValuesOf (named "Bob") = .ok values := by
    unfold someValuesOf valuesOf Model.column
    rw [table]
    exact ⟨_, rfl⟩
  have serves : Serves Host.backend model.pool (·.database? 0) := Host.serves 0
  -- The first statement comes across the user, the second one across nobody.
  obtain ⟨_, read⟩ := there.lookup_succeeds
    (show Except.Succeeds ((model.lookup [.compare .equal name (.text "Ann")] false (some 1)).check
      (database [ann]).tables) by decide +kernel) (by decide +kernel)
  rcases there.read_first read with ⟨none, -⟩ | ⟨row, item, member, -, rowRead, rfl⟩
  · cases none.symm.trans
      (show [ann].filter (model.fulfils [.compare .equal name (.text "Ann")]) = [ann] by
        decide +kernel)
  have id := there.valueIn_idField valid member rowRead
  cases List.mem_singleton.mp member
  obtain ⟨between, answered, leads⟩ := serves.reads_interleaved
    (show (others 0 (host [ann])).database? 0 = some (database [ann]) from rfl) read
  obtain ⟨_, probes⟩ := findOne_ends valid rfl stated answered
  obtain ⟨_, again⟩ := gone.lookup_succeeds
    (show Except.Succeeds ((model.lookup [.compare .equal model.key (.int 1)] false (some 1)).check
      (database []).tables) by decide +kernel) (List.forall_mem_nil _)
  obtain ⟨-, rfl⟩ | ⟨_, _, member, -⟩ := gone.read_first again
  swap
  · cases member
  obtain ⟨final, unanswered, leadsFinal⟩ := serves.reads_interleaved
    (show (others 1 between).database? 0 = some (database []) from rfl) again
  obtain ⟨_, probesAgain⟩ := findOne_ends valid rfl (condition_id valid (by decide) (.int 1))
    unanswered
  obtain ⟨values, accepted⟩ := accepted
  have missed : ∃ events, (model.updateOne (.object [(model.idField, .int 1)]) (named "Bob")).Ends
      (interleaved Host.backend others) (1, between) (.ok ⟨0, none⟩) events (2, final) :=
    ⟨_, .ok_bind accepted (probesAgain.bind rfl)⟩
  obtain ⟨_, updates⟩ := missed
  have ends : ∃ events, (model.upsert (named "Ann") (named "Bob")).Ends
      (interleaved Host.backend others) (0, host [ann]) (.ok ⟨false, none⟩) events (2, final) :=
    ⟨_, probes.bind (.ok_bind id (updates.bind rfl))⟩
  have shares : Shares (interleaved Host.backend others) model.pool
      (fun state => (others state.1 state.2).databaseOf 0) (fun state => state.2.databaseOf 0) :=
    Host.shares_interleaved others 0
  have present : model.Present (Host.databaseOf 0 ((0, host [ann]) : ℕ × Host).2) := ⟨_, there⟩
  obtain ⟨events, ends⟩ := ends
  exact ⟨events, _, ends, leadsFinal,
    upsert_written shares (present_once ⟨_, gone⟩) valid present ends⟩

end SchemaStore.Model
