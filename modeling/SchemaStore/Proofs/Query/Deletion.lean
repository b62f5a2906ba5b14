import Mathlib.Data.List.Sort
import SchemaStore.Proofs.Query.Shared

/-!
# Deletions among other clients

A deletion selects the rows that match, and removes the rows with their ids in a statement of its
own.  It reports the rows as it selected them.
-/

namespace SchemaStore

def StoredTable.keyed (stored : StoredTable) (keys : List Int) : List CellRow :=
  stored.rows.filter fun row => decide (stored.keyOf row ∈ keys)

/-- What is equal wherever keys are equal is equal for items with equal keys. -/
private theorem map_eq_map_of_keys {α β κ γ : Type} {f : α → κ} {g : β → κ} {f' : α → γ}
    {g' : β → γ} {items : List α} {others : List β} (keys : items.map f = others.map g)
    (each : ∀ item ∈ items, ∀ other ∈ others, f item = g other → f' item = g' other) :
    items.map f' = others.map g' := by
  induction items generalizing others with
  | nil => rw [List.map_eq_nil_iff.mp keys.symm, List.map_nil, List.map_nil]
  | cons item rest induction =>
      obtain ⟨other, later, rfl, same, keys⟩ := List.map_eq_cons_iff.mp keys.symm
      rw [List.map_cons, List.map_cons, each item List.mem_cons_self other List.mem_cons_self
        same.symm, induction keys.symm fun item member other otherMember =>
          each item (List.mem_cons_of_mem _ member) other (List.mem_cons_of_mem _ otherMember)]

namespace Model

/-- A report of removed rows that all matched: as they were, and how many. -/
structure Reports (model : Model) (filter : Value) (deleted : Deleted) (removed : List CellRow) :
    Prop where
  matching : ∀ row ∈ removed, model.matchesRow filter row = true
  rows : removed.mapM model.readRow = .ok deleted.rows
  count : deleted.count = deleted.rows.length

def selectedIds (model : Model) (filter : Value) (stored : StoredTable) : List Int :=
  (stored.rows.filter (model.matchesRow filter)).map stored.keyOf

/-- Every row that matched is still there; it is read as before, and matches. -/
def Lasts (model : Model) (filter : Value) (stored here : StoredTable) : Prop :=
  ∀ row ∈ stored.rows, model.matchesRow filter row = true →
    ∃ other ∈ here.rows, here.keyOf other = stored.keyOf row ∧
      model.readRow other = model.readRow row ∧ model.matchesRow filter other = true

section Steps

variable {State : Type} (model : Model) (seen left : State → Database) (filter : Value)

/-- Rows were selected in one statement, and rows with their ids were removed in the next. -/
structure Removes (deleted : Deleted) (stored here : StoredTable)
    (selecting deleting : Step State) : Prop where
  selects : ∃ query, selecting.statement = .select query
  found : model.Holds (seen selecting.before).tables stored
  rows : (stored.rows.filter (model.matchesRow filter)).mapM model.readRow = .ok deleted.rows
  writes : deleting.statement = .write (.delete model.table
    (.member false model.key ((model.selectedIds filter stored).map .int)))
  there : model.Holds (seen deleting.before).tables here
  counts : deleted.count = (here.keyed (model.selectedIds filter stored)).length
  leaves : left deleting.after = (seen deleting.before).withRows here
    (here.rows.filter fun row => decide (here.keyOf row ∉ model.selectedIds filter stored))

/-- What a deletion gave.  What it reports is what it removed just if the selected rows were still
there, read as before, and matched. -/
inductive Deletes : Deleted → List (Step State) → Prop where
  | nothing {selecting : Step State} {query : Select} {stored : StoredTable}
      (selects : selecting.statement = .select query)
      (found : model.Holds (seen selecting.before).tables stored)
      (unmatched : ∀ row ∈ stored.rows, model.matchesRow filter row = false) :
      Deletes ⟨0, []⟩ [selecting]
  | removed {deleted : Deleted} {selecting deleting : Step State} {stored here : StoredTable}
      (removes : model.Removes seen left filter deleted stored here selecting deleting)
      (exact : model.Reports filter deleted (here.keyed (model.selectedIds filter stored)) ↔
        model.Lasts filter stored here) :
      Deletes deleted [selecting, deleting]

end Steps

section Rows

variable {model : Model} {tables after : List StoredTable} {stored : StoredTable} {now : Cell}
  {result : Result} {ids : List Int} {filter : Value}
  (holds : model.Holds tables stored)
include holds

theorem Holds.perform_removed (valid : model.entity.Valid)
    (performed : (Write.delete model.table (.member false model.key (ids.map .int))).perform
      tables now = .ok (after, result)) :
    after = Database.replace tables
        { stored with rows := stored.rows.filter fun row => decide (stored.keyOf row ∉ ids) } ∧
      result.rowCount = (stored.keyed ids).length := by
  obtain ⟨_, found, bound, rfl, rfl⟩ := Write.perform_delete performed
  cases holds.found.symm.trans found
  have asks : ∀ row ∈ stored.rows,
      model.fulfils [.member false model.key (ids.map .int)] row =
        decide (stored.keyOf row ∈ ids) := by
    intro row member
    rw [fulfils_single]
    exact eval_ids (storable_of_ids bound) (holds.cell_idField valid member)
  constructor
  · have others : stored.rows.filter (fun row =>
        !model.fulfils [.member false model.key (ids.map .int)] row) =
          stored.rows.filter fun row => decide (stored.keyOf row ∉ ids) :=
      List.filter_congr fun row member => by rw [asks row member, decide_not]
    rw [← others, StoredTable.remove]
    unfold StoredTable.scope
    rw [holds.named]
    rfl
  · rw [holds.matching_eq, List.filter_congr asks]
    rfl

theorem Holds.sorted_keys (chosen : CellRow → Bool) :
    ((stored.rows.filter chosen).map stored.keyOf).Pairwise fun key other => key < other :=
  List.pairwise_map.mpr (holds.ordered.filter chosen)

theorem Holds.valueIn_rows (valid : model.entity.Valid) {items : List Row}
    (read : (stored.rows.filter (model.matchesRow filter)).mapM model.readRow = .ok items) :
    items.mapM (valueIn model.idField) = .ok ((model.selectedIds filter stored).map .int) := by
  rw [selectedIds, List.map_map]
  exact Except.mapM_of_mapM read fun row member item rowRead =>
    holds.valueIn_idField valid (List.mem_of_mem_filter member) rowRead

end Rows

namespace Removes

variable {State : Type} {model : Model} {seen left : State → Database} {filter : Value}
  {deleted : Deleted} {stored here : StoredTable} {selecting deleting : Step State}
  (removes : model.Removes seen left filter deleted stored here selecting deleting)
include removes

/-- If the selected rows are still there, they are the ones that are removed. -/
theorem keys_of_lasts (lasts : model.Lasts filter stored here) :
    (here.keyed (model.selectedIds filter stored)).map here.keyOf =
      model.selectedIds filter stored := by
  refine (removes.there.sorted_keys _).eq_of_mem_iff (removes.found.sorted_keys _) fun key => ?_
  constructor
  · intro member
    obtain ⟨row, kept, rfl⟩ := List.mem_map.mp member
    simpa using (List.mem_filter.mp kept).2
  · intro member
    obtain ⟨row, chosen, rfl⟩ := List.mem_map.mp member
    obtain ⟨known, matched⟩ := List.mem_filter.mp chosen
    obtain ⟨other, otherMember, same, -⟩ := lasts row known matched
    refine List.mem_map.mpr ⟨other, List.mem_filter.mpr ⟨otherMember, ?_⟩, same⟩
    simpa [same] using member

/-- If the selected rows are still there, the report is about the rows that are removed. -/
theorem reports_of_lasts (lasts : model.Lasts filter stored here) :
    model.Reports filter deleted (here.keyed (model.selectedIds filter stored)) := by
  -- A removed row is the one that has lasted, since it has the same id.
  have lasted : ∀ other ∈ here.keyed (model.selectedIds filter stored),
      ∀ row ∈ stored.rows.filter (model.matchesRow filter), here.keyOf other = stored.keyOf row →
        model.readRow other = model.readRow row ∧ model.matchesRow filter other = true := by
    intro other removed row chosen same
    obtain ⟨known, matched⟩ := List.mem_filter.mp chosen
    obtain ⟨own, member, sameOwn, reads, matchesOwn⟩ := lasts row known matched
    cases StoredTable.eq_of_keyOf removes.there.ordered (List.mem_of_mem_filter removed) member
      (same.trans sameOwn.symm)
    exact ⟨reads, matchesOwn⟩
  have keys := removes.keys_of_lasts lasts
  have rows : (here.keyed (model.selectedIds filter stored)).mapM model.readRow =
      .ok deleted.rows := by
    rw [Except.mapM_eq_ok, ← Except.mapM_eq_ok.mp removes.rows]
    exact map_eq_map_of_keys keys fun other removed row chosen same =>
      (lasted other removed row chosen same).1
  refine ⟨fun other removed => ?_, rows, ?_⟩
  · have there : here.keyOf other ∈ model.selectedIds filter stored :=
      keys ▸ List.mem_map_of_mem removed
    obtain ⟨row, chosen, same⟩ := List.mem_map.mp there
    exact (lasted other removed row chosen same.symm).2
  · rw [removes.counts, Except.length_of_mapM rows]

theorem lasts_of_reports (valid : model.entity.Valid)
    (reports : model.Reports filter deleted (here.keyed (model.selectedIds filter stored))) :
    model.Lasts filter stored here := by
  intro row member matched
  have reads : (here.keyed (model.selectedIds filter stored)).map model.readRow =
      (stored.rows.filter (model.matchesRow filter)).map model.readRow :=
    (Except.mapM_eq_ok.mp reports.rows).trans (Except.mapM_eq_ok.mp removes.rows).symm
  have chosen : model.readRow row ∈
      (stored.rows.filter (model.matchesRow filter)).map model.readRow :=
    List.mem_map_of_mem (List.mem_filter.mpr ⟨member, matched⟩)
  obtain ⟨item, -, rowRead⟩ := List.mem_map.mp (Except.mapM_eq_ok.mp removes.rows ▸ chosen)
  obtain ⟨other, removed, same⟩ := List.mem_map.mp (reads ▸ chosen)
  have otherMember := List.mem_of_mem_filter removed
  -- Since both are read as the same item, they have the same id.
  have id := removes.found.valueIn_idField valid member rowRead.symm
  rw [removes.there.valueIn_idField valid otherMember (same.trans rowRead.symm)] at id
  exact ⟨other, otherMember, by simpa [Value.int] using id, same, reports.matching other removed⟩

theorem reports_iff_lasts (valid : model.entity.Valid) :
    model.Reports filter deleted (here.keyed (model.selectedIds filter stored)) ↔
      model.Lasts filter stored here :=
  ⟨removes.lasts_of_reports valid, removes.reports_of_lasts⟩

end Removes

section Runs

variable {State : Type} {backend : Backend State} {seen left : State → Database} {model : Model}
  {start final : State} {events : List (Event Request Request.Reply)} {filter : Value}

/-- A deletion that ends normally has selected rows, and then removed the rows with their ids, if
there were any.  Its report is right unless another client has changed or removed a selected row in
between. -/
theorem delete_reports_iff (shares : Shares backend model.pool seen left)
    (others : ∀ state, model.Present (left state) → model.Present (seen state))
    (valid : model.entity.Valid) (present : model.Present (left start)) {deleted : Deleted}
    (ends : (model.delete filter).Ends backend start (.ok deleted) events final) :
    ∃ steps, Takes backend model.pool start steps final ∧
      model.Deletes seen left filter deleted steps := by
  rcases ends.bind_cases with ⟨_, same, -⟩ | ⟨⟨⟩, _, _, _, held, rest, -⟩
  · cases same
  obtain ⟨-, rfl⟩ := of_requireFilter held
  rcases rest.bind_cases with ⟨_, same, -⟩ | ⟨rows, between, _, _, held, removing, -⟩
  · cases same
  obtain ⟨conditions, stated⟩ := stated_of_findAllById held
  rw [findAllById_eq valid stated] at held
  obtain ⟨selecting, stored, takes, selects, holds, read, after⟩ :=
    exists_step_of_fetch shares others present held
  have reads := holds.read_all valid read
  rw [fulfils_condition stated] at reads
  split at removing
  · next nothing =>
    cases removing
    rw [List.isEmpty_iff.mp nothing, Except.mapM_eq_ok, List.map_nil, List.map_eq_nil_iff] at reads
    exact ⟨_, takes, .nothing selects holds fun row member => by
      simpa using List.filter_eq_nil_iff.mp reads row member⟩
  · have writing := (removing.of_ok_bind (holds.valueIn_rows valid reads)).of_ok_bind
      (idColumn_eq valid)
    obtain ⟨inner, held, same⟩ := writing.exists_of_map
    obtain ⟨count, rfl, rfl⟩ := Except.map_eq_ok.mp same.symm
    obtain ⟨result, _, takesWrite, executed, committed, counted⟩ := takes_of_write held
    cases counted
    obtain ⟨here, there⟩ := others between after
    obtain ⟨_, performed, leaves⟩ := shares.performed_of_written executed committed
    obtain ⟨rfl, counts⟩ := there.perform_removed valid performed
    have removes : model.Removes seen left filter ⟨result.rowCount, rows⟩ stored here selecting
        ⟨_, between, result, final⟩ :=
      ⟨⟨_, selects⟩, holds, reads, rfl, there, counts, leaves⟩
    exact ⟨_, takes.append takesWrite, .removed removes (removes.reports_iff_lasts valid)⟩

theorem delete_ends (valid : model.entity.Valid) (given : filter.truthy = true) {item : Row}
    {rows : List Row} {ids : List Value} {between middle : State} {result : Result}
    (finds : (model.findAllById filter).Ends backend start (.ok (item :: rows)) events between)
    (known : (item :: rows).mapM (valueIn model.idField) = .ok ids)
    (executed : backend (.execute model.pool (.write (.delete model.table
      (.member false model.key ids)))) between = (.ok result, middle))
    (committed : backend (.commit model.pool) middle = (.ok (), final)) :
    ∃ events, (model.delete filter).Ends backend start (.ok ⟨result.rowCount, item :: rows⟩) events
      final := by
  have required : (model.requireFilter "delete" filter).Ends backend start (.ok ()) [] start := by
    rw [requireFilter, if_pos given]
    rfl
  have removes : Program.Ends backend
      (model.write (.delete model.table (.member false model.key ids))
        (fun result => .ok result.rowCount) ("Failed to delete " ++ model.entity.name ++ " rows"))
      between (.ok result.rowCount) _ final :=
    write_ends executed rfl committed
  exact ⟨_, required.bind (finds.bind (.ok_bind known (.ok_bind (idColumn_eq valid)
    (removes.bind rfl))))⟩

end Runs

/-- A user gets another name before it is deleted by its old one.  It is removed nevertheless, and
reported under the old name. -/
theorem delete_reports_renamed :
    let entity : Entity :=
      ⟨"User", [("id", { type := .int, isId := true }), ("name", { type := .string })]⟩
    let model : Model := {
      schema := ⟨⟨.sqlite, "file:./dev.db", none⟩, [entity]⟩
      entity
      dialect := .sqlite
      settings := {}
      pool := 0 }
    let clock : Moment := ⟨2020, 1, 2, 0, 0, 0, 0, none⟩
    let database (rows : List CellRow) : Database :=
      { tables := [{ table := model.table, rows }], clock }
    let host (rows : List CellRow) : Host := { pools := [.memory (database rows)], clock }
    let user (name : String) : CellRow := [("id", .int 1), ("name", .text name)]
    let others := once 1 (host [user "Bob"])
    let filter : Value := .object [("name", .text "Ann")]
    ∃ item events final, model.readRow (user "Ann") = .ok item ∧
      (model.delete filter).Ends (interleaved Host.backend others) (0, host [user "Ann"])
        (.ok ⟨1, [item]⟩) events final ∧
      final.2.database? 0 = some (database []) ∧
      ∃ steps, Takes (interleaved Host.backend others) 0 (0, host [user "Ann"]) steps final ∧
        model.Deletes (fun state => (others state.1 state.2).databaseOf 0)
          (fun state => state.2.databaseOf 0) filter ⟨1, [item]⟩ steps := by
  intro entity model clock database host user others filter
  let name : ColumnRef := ⟨"users", "name", .varchar⟩
  have table : model.table = {
      name := "users"
      columns := [{ name := "id", type := .integer, isKey := true },
        { name := "name", type := .varchar }] } := by
    decide +kernel
  have valid : entity.Valid := by
    rw [Entity.valid_iff]
    decide
  have serves : Serves Host.backend model.pool (·.database? 0) := Host.serves 0
  have there (name : String) :
      model.Holds (database [user name]).tables { table := model.table, rows := [user name] } :=
    ⟨List.find?_cons_of_pos (beq_self_eq_true _), fits_table valid,
      List.forall_mem_singleton.mpr ⟨by rw [table]; rfl, 1, rfl⟩, List.pairwise_singleton _ _⟩
  have stated : model.condition filter = .ok [.compare .equal name (.text "Ann")] :=
    condition_field (by rw [table]; rfl) (by decide) (.text "Ann")
  obtain ⟨items, read⟩ := (there "Ann").lookup_succeeds
    (show Except.Succeeds ((model.lookup [.compare .equal name (.text "Ann")] true none).check
      (database [user "Ann"]).tables) by decide +kernel) (by decide +kernel)
  have reads := (there "Ann").read_all valid read
  rw [show [user "Ann"].filter (model.fulfils [.compare .equal name (.text "Ann")]) =
    [user "Ann"] by decide +kernel] at reads
  obtain ⟨item, rfl, rowRead⟩ := List.map_eq_singleton_iff.mp (Except.mapM_eq_ok.mp reads).symm
  have id := (there "Ann").valueIn_idField valid (List.mem_singleton_self _) rowRead.symm
  obtain ⟨between, answered, -⟩ := serves.reads_interleaved
    (show (others 0 (host [user "Ann"])).database? 0 = some (database [user "Ann"]) from rfl) read
  obtain ⟨⟨_, result⟩, performed, same⟩ := Except.exists_of_toOption
    (show ((Write.delete model.table (.member false model.key [.int 1])).perform
      (database [user "Bob"]).tables (database [user "Bob"]).now).toOption.map
        (fun done => (done.1, done.2.rowCount)) = some ((database []).tables, 1) by decide +kernel)
  obtain ⟨rfl, counted⟩ := Prod.mk.inj same
  obtain ⟨middle, final, executed, committed, leads⟩ := serves.writes_interleaved
    (show (others 1 between).database? 0 = some (database [user "Bob"]) from rfl) performed
  have finding : ∃ events, (model.findAllById filter).Ends (interleaved Host.backend others)
      (0, host [user "Ann"]) (.ok [item]) events (1, between) := by
    rw [findAllById_eq valid stated]
    exact ⟨_, fetch_ends answered⟩
  obtain ⟨_, finds⟩ := finding
  have ids : [item].mapM (valueIn model.idField) = .ok [.int 1] := by
    rw [List.mapM_cons, id]
    rfl
  obtain ⟨events, ends⟩ := delete_ends valid rfl finds ids executed committed
  rw [show result.rowCount = 1 from counted] at ends
  have shares : Shares (interleaved Host.backend others) model.pool
      (fun state => (others state.1 state.2).databaseOf 0) (fun state => state.2.databaseOf 0) :=
    Host.shares_interleaved others 0
  have present : model.Present (Host.databaseOf 0 ((0, host [user "Ann"]) : ℕ × Host).2) :=
    ⟨_, there "Ann"⟩
  exact ⟨item, events, _, rowRead.symm, ends, leads,
    delete_reports_iff shares (present_once ⟨_, there "Bob"⟩) valid present ends⟩

end Model
end SchemaStore
