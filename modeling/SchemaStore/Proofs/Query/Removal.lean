import SchemaStore.Proofs.Query.Deletion
import SchemaStore.Proofs.Query.Operation

/-!
# Deletions without other clients

A deletion removes the rows for which its filter is true.  The rows for which it is false or
unknown stay as they are.  What is reported are the removed rows in the order of their ids, and
if there are none, no change is asked for.
-/

namespace SchemaStore

/-- The change of rows that is asked for. -/
def Event.write? : Event Request Request.Reply → Option Write
  | .asked (.execute _ (.write change)) _ => some change
  | _ => none

/-- Without writing statements, no change of rows is asked for. -/
theorem Course.write?_eq_none {α : Type} {model : Model} {outcome : Except Failure α}
    {events : List (Event Request Request.Reply)} {issues : List Issue}
    (course : Course model 0 outcome events issues) : ∀ event ∈ events, event.write? = none := by
  intro event member
  cases isAsked : event.isAsked with
  | false =>
      cases event with
      | asked request reply => cases isAsked
      | noted entry => rfl
      | paused duration => rfl
  | true =>
      have asked : event ∈ SchemaStore.asked events := List.mem_filter.mpr ⟨member, isAsked⟩
      rw [course.asked] at asked
      obtain ⟨issue, issued, requested⟩ := List.mem_flatMap.mp asked
      have reading := List.countP_eq_zero.mp (Nat.le_zero.mp course.once) issue issued
      have proper := course.proper issue issued
      cases issue with
      | read statement broken last =>
          obtain ⟨isQuery, -⟩ := proper
          have executes : ∃ reply, event = Issue.execution model.pool statement reply := by
            rcases List.mem_append.mp requested with attempt | final
            · obtain ⟨failure, -, rfl⟩ := List.mem_map.mp attempt
              exact ⟨_, rfl⟩
            · exact ⟨_, List.mem_singleton.mp final⟩
          obtain ⟨reply, rfl⟩ := executes
          cases statement with
          | write change => cases isQuery
          | _ => rfl
      | _ => exact absurd rfl reading

namespace Model

/-- What a deletion without other clients comes to: the database, the report and what was asked
for on the way. -/
inductive Clears (model : Model) (database : Database) (stored : StoredTable) (filter : Value) :
    Option Database → Except Failure Deleted → List (Event Request Request.Reply) → Prop where
  | nothing {events : List (Event Request Request.Reply)}
      (unmatched : ∀ row ∈ stored.rows, model.matchesRow filter row = false)
      (unasked : ∀ event ∈ events, event.write? = none) :
      Clears model database stored filter (some database) (.ok ⟨0, []⟩) events
  | matching {items : List Row} {events : List (Event Request Request.Reply)}
      (matched : ∃ row ∈ stored.rows, model.matchesRow filter row = true)
      (read : (stored.rows.filter (model.matchesRow filter)).mapM model.readRow = .ok items) :
      Clears model database stored filter
        (some (database.withRows stored (stored.rows.filter (!model.matchesRow filter ·))))
        (.ok ⟨items.length, items⟩) events

variable {model : Model} {filter : Value} {stored : StoredTable} {tables : List StoredTable}

theorem Holds.filter_not_selected (holds : model.Holds tables stored) :
    (stored.rows.filter fun row => decide (stored.keyOf row ∉ model.selectedIds filter stored)) =
      stored.rows.filter (!model.matchesRow filter ·) := by
  refine List.filter_congr fun row member => ?_
  rw [decide_not, selectedIds]
  congr 1
  rw [Bool.eq_iff_iff, decide_eq_true_iff, holds.keyOf_mem_iff member]

theorem Holds.keyed_selected (holds : model.Holds tables stored) :
    stored.keyed (model.selectedIds filter stored) =
      stored.rows.filter (model.matchesRow filter) := by
  refine List.filter_congr fun row member => ?_
  rw [Bool.eq_iff_iff, decide_eq_true_iff, selectedIds, holds.keyOf_mem_iff member]

section Runs

variable {State : Type} {backend : Backend State} {database? : State → Option Database}
  {database : Database} {start final : State} {events : List (Event Request Request.Reply)}
  {conditions : List Clause}

/-- If nothing fails, a deletion removes exactly the rows that match: the others stay as they
are, the report has the removed rows as they were, in the order of their ids, and without a
matching row no change is asked for. -/
theorem delete_clears (valid : model.entity.Valid) (serves : Serves backend model.pool database?)
    (unfailing : ∀ event ∈ events, event.hasFailed = false)
    (leads : database? start = some database) (holds : model.Holds database.tables stored)
    (stated : model.condition filter = .ok conditions) (given : filter.truthy = true)
    {outcome : Except Failure Deleted}
    (ends : (model.delete filter).Ends backend start outcome events final) :
    model.Clears database stored filter (database? final) outcome events := by
  rcases ends.bind_cases with ⟨failure, rfl, held⟩ | ⟨⟨⟩, _, _, _, held, finding, rfl⟩
  · rw [requireFilter, if_pos given] at held
    cases held
  rw [requireFilter, if_pos given] at held
  cases held
  rw [List.nil_append] at unfailing ⊢
  rcases finding.bind_cases with
    ⟨failure, rfl, held⟩ | ⟨rows, between, first, second, held, removing, rfl⟩
  · obtain ⟨-, _, -, same⟩ := serves.findAllById leads valid stated held unfailing
    cases same
  obtain ⟨unfailingFirst, unfailingSecond⟩ := List.forall_mem_append.mp unfailing
  obtain ⟨leadsBetween, _, read, same⟩ :=
    serves.findAllById leads valid stated held unfailingFirst
  cases same
  have reads := holds.read_all valid read
  rw [fulfils_condition stated] at reads
  split at removing
  · next nothing =>
    cases removing
    obtain ⟨issues, course⟩ := issues_findAllById model filter _ _ _ _ _ _ held
    rw [leadsBetween, List.append_nil]
    rw [List.isEmpty_iff.mp nothing, Except.mapM_eq_ok, List.map_nil, List.map_eq_nil_iff] at reads
    refine .nothing (fun row member => ?_) course.write?_eq_none
    simpa using List.filter_eq_nil_iff.mp reads row member
  · next some =>
    have matched : ∃ row ∈ stored.rows, model.matchesRow filter row = true := by
      by_contra none
      rw [List.filter_eq_nil_iff.mpr fun row member chosen => none ⟨row, member, chosen⟩] at reads
      cases reads
      exact some rfl
    have writing := (removing.of_ok_bind (holds.valueIn_rows valid reads)).of_ok_bind
      (idColumn_eq valid)
    rcases writing.bind_cases with ⟨failure, rfl, held⟩ | ⟨count, _, _, _, held, rest, rfl⟩
    · obtain ⟨_, _, -, -, same⟩ := serves.write leadsBetween held unfailingSecond
      cases same
    cases rest
    rw [List.append_nil] at unfailingSecond
    obtain ⟨_, result, performed, leadsFinal, same⟩ :=
      serves.write leadsBetween held unfailingSecond
    cases same
    obtain ⟨rfl, counted⟩ := holds.perform_removed valid performed
    have amount : (rows.length : Int) = result.rowCount := by
      rw [counted, holds.keyed_selected]
      simpa using (congrArg List.length (Except.mapM_eq_ok.mp reads)).symm
    rw [holds.filter_not_selected] at leadsFinal
    rw [leadsFinal, ← amount]
    exact .matching matched reads

end Runs

/-- Of three people, the one who is known to be at most thirty is deleted. -/
theorem delete_clears_people :
    let entity : Entity :=
      ⟨"Person", [("id", { type := .int, isId := true }),
        ("age", { type := .int, isOptional := true })]⟩
    let model : Model := {
      schema := ⟨⟨.sqlite, "file:./dev.db", none⟩, [entity]⟩
      entity
      dialect := .sqlite
      settings := {}
      pool := 0 }
    let person (id : Int) (age : Cell) : CellRow := [("id", .int id), ("age", age)]
    let stored (rows : List CellRow) : StoredTable := { table := model.table, rows }
    let clock : Moment := ⟨2020, 1, 2, 0, 0, 0, 0, none⟩
    let database (rows : List CellRow) : Database := { tables := [stored rows], clock }
    let host (rows : List CellRow) : Host := { pools := [.memory (database rows)], clock }
    let rows := [person 1 (.int 20), person 2 .null, person 3 (.int 40)]
    let filter : Value := .object [("age", .object [("lte", .int 30)])]
    ∃ outcome events final,
      (model.delete filter).Ends Host.backend (host rows) outcome events final ∧
      final.database? 0 = some (database [person 2 .null, person 3 (.int 40)]) ∧
      model.Clears (database rows) (stored rows) filter (final.database? 0) outcome events := by
  intro entity model person stored clock database host rows filter
  let age : ColumnRef := ⟨"persons", "age", .integer⟩
  have table : model.table = {
      name := "persons"
      columns := [{ name := "id", type := .integer, isKey := true },
        { name := "age", type := .integer, nullable := true }] } := by
    decide +kernel
  have valid : entity.Valid := by
    rw [Entity.valid_iff]
    decide
  have serves : Serves Host.backend model.pool (·.database? 0) := Host.serves 0
  have holds : model.Holds (database rows).tables (stored rows) := by
    refine ⟨List.find?_cons_of_pos (beq_self_eq_true _), fits_table valid, ?_, by decide +kernel⟩
    have sound (id : Int) (age : Cell) : model.FitsRow model.table (person id age) :=
      ⟨by rw [table]; rfl, id, rfl⟩
    simp [stored, rows, sound]
  have read : Filter.read model.table filter =
      .ok (.ofEntries [.test age (.comparisons [(.lessEqual, .int 30)])]) :=
    read_field (by rw [table]; rfl) (by decide) rfl
  have stated : model.condition filter = .ok [.compare .lessEqual age (.int 30)] :=
    condition_of_read read
  obtain ⟨items, given⟩ := holds.lookup_succeeds
    (show Except.Succeeds ((model.lookup [.compare .lessEqual age (.int 30)] true none).check
      (database rows).tables) by decide +kernel) (by decide +kernel)
  have reads := holds.read_all valid given
  rw [show rows.filter (model.fulfils [.compare .lessEqual age (.int 30)]) =
    [person 1 (.int 20)] by decide +kernel] at reads
  obtain ⟨item, rfl, rowRead⟩ := List.map_eq_singleton_iff.mp (Except.mapM_eq_ok.mp reads).symm
  have ids : [item].mapM (valueIn model.idField) = .ok [.int 1] := by
    rw [List.mapM_cons, holds.valueIn_idField valid List.mem_cons_self rowRead.symm]
    rfl
  obtain ⟨⟨_, result⟩, performed, rfl⟩ := Except.exists_of_toOption
    (show ((Write.delete model.table (.member false model.key [.int 1])).perform
      (database rows).tables (database rows).now).toOption.map Prod.fst =
        some [stored [person 2 .null, person 3 (.int 40)]] by decide +kernel)
  have clearing : (model.delete filter).Leads Host.backend (·.database? 0) (database rows)
      ⟨result.rowCount, [item]⟩ (database [person 2 .null, person 3 (.int 40)]) :=
    (Program.Leads.ofResult (show Except.ok () = .ok () from rfl)).bind
      ((findAllById_leads valid serves stated given).bind ((Program.Leads.ofResult ids).bind
        ((Program.Leads.ofResult (idColumn_eq valid)).bind ((serves.leads_write performed).bind
          (Program.Leads.ofResult rfl)))))
  obtain ⟨events, final, ends, leads, unfailing⟩ := clearing (host rows) rfl
  exact ⟨_, events, final, ends, leads,
    delete_clears valid serves unfailing rfl holds stated rfl ends⟩

end Model
end SchemaStore
