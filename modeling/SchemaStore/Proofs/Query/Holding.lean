import SchemaStore.Proofs.Query.Identity

/-!
# Tables that hold rows of a model

A table that has the columns of a model holds its rows in the order of their ids.  What a
lookup gives are the rows that fulfil its conditions, and the ids that are looked up are
those of these rows.
-/

namespace SchemaStore

namespace StoredTable

variable {stored : StoredTable}

theorem keyOf_with (rows : List CellRow) :
    ({ stored with rows } : StoredTable).keyOf = stored.keyOf := rfl

/-- A new row among others that it can be told apart from. -/
theorem pairwise_insertRow {row : CellRow} {rows : List CellRow}
    (ordered : rows.Pairwise fun first second => stored.keyOf first < stored.keyOf second)
    (fresh : ∀ other ∈ rows, stored.keyOf other ≠ stored.keyOf row) :
    (stored.insertRow row rows).Pairwise fun first second =>
      stored.keyOf first < stored.keyOf second := by
  induction rows with
  | nil => exact List.pairwise_singleton _ _
  | cons head rest induction =>
      obtain ⟨first, restOrdered⟩ := List.pairwise_cons.mp ordered
      obtain ⟨apart, restApart⟩ := List.forall_mem_cons.mp fresh
      rw [insertRow]
      split
      · next before =>
        refine List.pairwise_cons.mpr ⟨List.forall_mem_cons.mpr ⟨before, ?_⟩, ordered⟩
        exact fun other member => Int.lt_trans before (first other member)
      · next notBefore =>
        refine List.pairwise_cons.mpr ⟨fun other member => ?_, induction restOrdered restApart⟩
        rcases List.mem_cons.mp ((stored.insertRow_perm row rest).subset member) with rfl | later
        · omega
        · exact first other later

end StoredTable

namespace Database

/-- In place of a table stands the one that replaced it. -/
theorem find?_replace {tables : List StoredTable} {name : String} {stored changed : StoredTable}
    (found : find? tables name = some stored) (named : changed.table.name = name) :
    find? (replace tables changed) name = some changed := by
  induction tables with
  | nil => cases found
  | cons head rest induction =>
      by_cases here : head.table.name = name
      · simp [find?, replace, here, named]
      · have later : find? rest name = some stored := by simpa [find?, here] using found
        simpa [find?, replace, here, named] using induction later

end Database

namespace Model

/-- The tables hold rows of a model, which have different ids and stand in their order. -/
structure Holds (model : Model) (tables : List StoredTable) (stored : StoredTable) : Prop where
  found : Database.find? tables model.table.name = some stored
  fits : model.Fits stored.table
  sound : ∀ row ∈ stored.rows, model.FitsRow stored.table row
  ordered : stored.rows.Pairwise fun first second => stored.keyOf first < stored.keyOf second

/-- Whether a row fulfils conditions. -/
def fulfils (model : Model) (conditions : List Clause) (row : CellRow) : Bool :=
  Clause.holdAll (rowScope model.table row).cell conditions

section Conditions

variable {model : Model} {conditions : List Clause} {filter : Value} {row : CellRow}

theorem fulfils_single (condition : Clause) (row : CellRow) :
    model.fulfils [condition] row = (condition.eval (rowScope model.table row).cell).holds := by
  rw [fulfils, Clause.holdAll_eq_all]
  simp

/-- The conditions of a filter are fulfilled by the rows that match it. -/
theorem fulfils_condition (stated : model.condition filter = .ok conditions) :
    model.fulfils conditions = model.matchesRow filter := by
  funext row
  rw [fulfils, Clause.holdAll_eq_all, holds_conditions stated]

/-- The row with a stored id is asked for. -/
theorem fulfils_id {n key : Int} (storable : Cell.isStorable key = true)
    (id : CellRow.cell row model.idField = .int n) :
    model.fulfils [.compare .equal model.key (.int key)] row = (n == key) := by
  have stored : (⟨.plain, .int key⟩ : Parameter).boundCell.prefer .number = .int key := by
    rw [Parameter.boundCell_int storable]
    rfl
  rw [fulfils_single]
  exact eval_id (Parameter.operandCell_of_key rfl stored) id

end Conditions

namespace Holds

variable {model : Model} {tables : List StoredTable} {stored : StoredTable}
  {conditions : List Clause} {items : List Row}

section Rows

variable (holds : model.Holds tables stored)
include holds

theorem named : stored.table.name = model.table.name := by
  simpa using List.find?_some holds.found

theorem cell_idField (valid : model.entity.Valid) {row : CellRow} (member : row ∈ stored.rows) :
    CellRow.cell row model.idField = .int (stored.keyOf row) := by
  obtain ⟨n, id⟩ := (holds.sound row member).id
  rw [holds.fits.keyOf valid id, id]

theorem matching_eq (condition : Clause) :
    stored.matching condition = stored.rows.filter (model.fulfils [condition]) := by
  unfold StoredTable.matching StoredTable.scope
  rw [holds.named]
  rfl

/-- Other rows of the model in place of the old ones. -/
theorem replaced {rows : List CellRow} (sound : ∀ row ∈ rows, model.FitsRow stored.table row)
    (ordered : rows.Pairwise fun first second => stored.keyOf first < stored.keyOf second) :
    model.Holds (Database.replace tables { stored with rows }) { stored with rows } where
  found := Database.find?_replace holds.found holds.named
  fits := holds.fits
  sound
  ordered

end Rows

section Reading

variable (holds : model.Holds tables stored)
include holds

theorem visited_perm {query : Select} (own : query.table = model.table) :
    ((query.visited tables).filter (model.fulfils conditions)).Perm
      (stored.rows.filter (model.fulfils conditions)) :=
  (Select.visited_perm (own ▸ holds.found)).filter _

/-- What a lookup gives is read from rows that fulfil its conditions. -/
theorem rows_lookup {ordered : Bool} {limit : Option Nat}
    (read : (model.lookup conditions ordered limit).rows tables = .ok items) :
    ∃ visited, visited.Perm (stored.rows.filter (model.fulfils conditions)) ∧
      (Select.slice limit none
        (if ordered then sortedBy (CellRow.cell · model.idField) visited else visited)).mapM
          model.readRow = .ok items := by
  obtain ⟨⟨⟩, -, scopes⟩ := Except.bind_eq_ok.mp read
  let query := model.lookup conditions ordered limit
  refine ⟨(query.visited tables).filter (model.fulfils conditions), holds.visited_perm rfl, ?_⟩
  have each := Except.mapM_eq_ok.mp scopes
  rw [Except.mapM_eq_ok, ← each]
  cases ordered with
  | true =>
      rw [Select.scopes_of_ordered tables model.key rfl rfl rfl rfl, List.map_map]
      rfl
  | false =>
      rw [Select.scopes_of_visited tables rfl rfl rfl, List.map_map]
      rfl

/-- A lookup that can be carried out succeeds if the rows can be read. -/
theorem lookup_succeeds {ordered : Bool} {limit : Option Nat}
    (checked : Except.Succeeds ((model.lookup conditions ordered limit).check tables))
    (readable : ∀ row ∈ stored.rows, Except.Succeeds (model.readRow row)) :
    Except.Succeeds ((model.lookup conditions ordered limit).rows tables) := by
  let query := model.lookup conditions ordered limit
  have kept {rows : List CellRow}
      (same : rows.Perm (stored.rows.filter (model.fulfils conditions))) :
      ∀ scope ∈ (Select.slice limit none rows).map (rowScope model.table),
        Except.Succeeds (query.rowOf scope) := by
    intro scope member
    obtain ⟨row, taken, rfl⟩ := List.mem_map.mp member
    have known : row ∈ rows := by
      cases limit with
      | none => exact taken
      | some n => exact List.mem_of_mem_take taken
    exact readable row (List.mem_of_mem_filter (same.subset known))
  have visited : ((query.visited tables).filter (model.fulfils conditions)).Perm
      (stored.rows.filter (model.fulfils conditions)) := holds.visited_perm rfl
  have read : Except.Succeeds ((query.scopes tables).mapM query.rowOf) := by
    rw [Except.succeeds_mapM]
    cases ordered with
    | true =>
        rw [Select.scopes_of_ordered tables model.key rfl rfl rfl rfl]
        exact kept ((sortedBy_perm _ _).trans visited)
    | false =>
        rw [Select.scopes_of_visited tables rfl rfl rfl]
        exact kept visited
  obtain ⟨⟨⟩, checked⟩ := checked
  obtain ⟨items, read⟩ := read
  exact ⟨items, Except.bind_eq_ok.mpr ⟨(), checked, read⟩⟩

/-- Without an order, a single row is any of those that fulfil the conditions. -/
theorem read_first (read : (model.lookup conditions false (some 1)).rows tables = .ok items) :
    (stored.rows.filter (model.fulfils conditions) = [] ∧ items = []) ∨
      ∃ row item, row ∈ stored.rows ∧ model.fulfils conditions row = true ∧
        model.readRow row = .ok item ∧ items = [item] := by
  obtain ⟨visited, same, taken⟩ := holds.rows_lookup read
  cases visited with
  | nil =>
      cases taken
      exact .inl ⟨List.nil_perm.mp same, rfl⟩
  | cons row rest =>
      obtain ⟨item, rowRead, made⟩ := Except.bind_eq_ok.mp taken
      cases made
      have member := same.subset List.mem_cons_self
      exact .inr ⟨row, item, List.mem_of_mem_filter member, (List.mem_filter.mp member).2, rowRead,
        rfl⟩

variable (valid : model.entity.Valid)
include valid

/-- In the order of the ids, all rows that fulfil the conditions are read as they are stored. -/
theorem read_all (read : (model.lookup conditions true none).rows tables = .ok items) :
    (stored.rows.filter (model.fulfils conditions)).mapM model.readRow = .ok items := by
  obtain ⟨visited, same, taken⟩ := holds.rows_lookup read
  have ordered : (stored.rows.filter (model.fulfils conditions)).Pairwise fun first second =>
      (CellRow.cell first model.idField).compare (CellRow.cell second model.idField) = .lt := by
    refine (holds.ordered.filter _).imp_of_mem fun firstMember secondMember before => ?_
    rw [holds.cell_idField valid (List.mem_of_mem_filter firstMember),
      holds.cell_idField valid (List.mem_of_mem_filter secondMember)]
    exact compare_lt_iff_lt.mpr before
  have sorted := sortedBy_eq (CellRow.cell · model.idField) same.symm ordered
  rw [if_pos rfl, sorted] at taken
  exact taken

theorem valueIn_idField {row : CellRow} {item : Row} (member : row ∈ stored.rows)
    (read : model.readRow row = .ok item) :
    valueIn model.idField item = .ok (.int (stored.keyOf row)) := by
  have declared := List.mem_of_find?_eq_some (column?_idField valid)
  obtain ⟨value, valueRead, there⟩ := Select.get?_of_rowOf (columns_nodup valid) read declared
  rw [rowScope_cell _ row rfl] at valueRead
  have cell : ColumnType.integer.read (CellRow.cell row model.idField) = .ok value := valueRead
  rw [holds.cell_idField valid member] at cell
  cases cell
  rw [valueIn, show item.get? model.idField = some _ from there]

theorem rowOf_idQuery {row : CellRow} (member : row ∈ stored.rows) :
    (model.idQuery conditions).rowOf (rowScope model.table row) =
      .ok [(model.idField, .int (stored.keyOf row))] := by
  have cell : (rowScope model.table row).cell model.key = .int (stored.keyOf row) :=
    (rowScope_cell model.table row rfl).trans (holds.cell_idField valid member)
  simp only [Select.rowOf, idQuery, List.mapM_cons, List.mapM_nil, cell]
  rfl

/-- A query for ids that can be carried out gives those of the rows that fulfil its conditions. -/
theorem rows_idQuery (checked : Except.Succeeds ((model.idQuery conditions).check tables)) :
    ∃ visited : List CellRow, visited.Perm (stored.rows.filter (model.fulfils conditions)) ∧
      (model.idQuery conditions).rows tables =
        .ok (visited.map fun row => [(model.idField, .int (stored.keyOf row))]) := by
  obtain ⟨⟨⟩, checked⟩ := checked
  let query := model.idQuery conditions
  have same : ((query.visited tables).filter (model.fulfils conditions)).Perm
      (stored.rows.filter (model.fulfils conditions)) := holds.visited_perm rfl
  refine ⟨_, same, Except.bind_eq_ok.mpr ⟨(), checked, ?_⟩⟩
  rw [Except.mapM_eq_ok, Select.scopes_of_visited tables rfl rfl rfl, List.map_map, List.map_map]
  refine List.map_congr_left fun row member => ?_
  exact holds.rowOf_idQuery valid (List.mem_of_mem_filter (same.subset member))

theorem ids_of_rows (read : (model.idQuery conditions).rows tables = .ok items) :
    ∃ visited : List CellRow, visited.Perm (stored.rows.filter (model.fulfils conditions)) ∧
      items.mapM (valueIn model.idField) = .ok ((visited.map stored.keyOf).map .int) := by
  obtain ⟨⟨⟩, checked, -⟩ := Except.bind_eq_ok.mp read
  obtain ⟨visited, same, given⟩ := holds.rows_idQuery valid ⟨(), checked⟩
  cases read.symm.trans given
  refine ⟨visited, same, Except.mapM_eq_ok.mpr ?_⟩
  simp [valueIn, Record.get?]

end Reading

end Holds
end Model
end SchemaStore
