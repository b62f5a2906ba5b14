import SchemaStore.Proofs.Database.Joining
import SchemaStore.Proofs.Query.Holding
import SchemaStore.Proofs.Query.Inclusion

/-!
# Rows that rows refer to

A row refers to the row of another model that has the value of one of its columns as its id.  If
the ids are different there is at most one such row, and the row is joined with it, or with a
missing one.  What is nested is read from that row as if it was asked for by itself.
-/

namespace SchemaStore

/-- A row of a model is read column by column. -/
theorem Model.readRow_eq {model : Model} (valid : model.entity.Valid) (row : CellRow) :
    model.readRow row = model.table.columns.mapM fun column =>
      return (column.name, ← column.type.read (CellRow.cell row column.name)) := by
  have names := columns_nodup valid
  have values : (Select.all model.table).readOutputs (rowScope model.table row) =
      model.table.columns.mapM fun column => column.type.read (CellRow.cell row column.name) := by
    refine List.mapM_map.trans (Except.mapM_congr fun column _ => ?_)
    exact congrArg column.type.read (rowScope_cell model.table row rfl)
  rw [readRow, Select.rowOf_eq, Select.entriesAt, values, Select.labels_all _ names,
    Select.zip_mapM_names]
  cases read : model.table.columns.mapM fun column => do
      return (column.name, ← column.type.read (CellRow.cell row column.name)) with
  | error failure => rfl
  | ok item =>
      have keys : Record.keys item = model.table.columns.map Column.name := by
        refine Except.map_eq_of_mapM read fun column _ entry entryRead => ?_
        obtain ⟨value, -, rfl⟩ := Except.map_eq_ok.mp entryRead
        rfl
      have whole : Record.putAll [] item = item := Record.putAll_eq_append (keys ▸ names)
      exact congrArg Except.ok whole

namespace Inclusion

variable {inclusion : Inclusion} {tables : List StoredTable} {kept : StoredTable} {table : Table}
  {row other : CellRow} {joined : Scope}

/-- Whether a row of the target has the id that a row refers to. -/
def refersTo (inclusion : Inclusion) (row other : CellRow) : Bool :=
  ((CellRow.cell row inclusion.column.name).against inclusion.column.type.affinity .number).compare
    (CellRow.cell other inclusion.target.idField) == .eq

/-- The row of the target that a row refers to. -/
def referred? (inclusion : Inclusion) (tables : List StoredTable) (row : CellRow) :
    Option CellRow :=
  (Select.rowsOf tables inclusion.target.table.name).find? (inclusion.refersTo row)

/-- What a row is extended by: the row that it refers to, with all its columns, or nothing. -/
def extension (inclusion : Inclusion) (tables : List StoredTable) (row : CellRow) :
    Except Failure (String × Value) :=
  match inclusion.referred? tables row with
  | none => return (inclusion.key, .null)
  | some other => return (inclusion.key, .object (← inclusion.target.readRow other))

/-- A missing value refers to no row. -/
theorem refersTo_null {n : Int} (missing : CellRow.cell row inclusion.column.name = .null)
    (id : CellRow.cell other inclusion.target.idField = .int n) :
    inclusion.refersTo row other = false := by
  rw [refersTo, missing, id]
  cases inclusion.column.type.affinity <;> rfl

/-- The joined rows are those that a row refers to. -/
theorem fits_eq {n : Int} (own : inclusion.column.source = table.name)
    (id : CellRow.cell other inclusion.target.idField = .int n) :
    inclusion.join.fits (rowScope table row ++ joined) other = inclusion.refersTo row other := by
  have cell : (rowScope table row ++ joined).cell inclusion.join.column =
      CellRow.cell row inclusion.column.name := Scope.cell_own own
  have key : (CellRow.cell other inclusion.join.key.name).against
      inclusion.join.key.type.affinity inclusion.join.column.type.affinity = .int n := by
    rw [show CellRow.cell other inclusion.join.key.name = .int n from id]
    rfl
  rw [Join.fits, cell, key, refersTo, id]
  change (Comparison.equal.truth
    ((CellRow.cell row inclusion.column.name).against inclusion.column.type.affinity .number)
      (.int n)).holds = _
  generalize (CellRow.cell row inclusion.column.name).against _ _ = cell
  by_cases present : cell = .null
  · rw [present]
    rfl
  · rw [Comparison.truth_of_present present (by simp)]
    cases cell.compare (.int n) <;> rfl

/-- At most one of the rows with different ids is referred to. -/
theorem refersTo_unique (valid : inclusion.target.entity.Valid)
    (holds : inclusion.target.Holds tables kept) (row : CellRow) :
    kept.rows.Pairwise fun first second =>
      ¬(inclusion.refersTo row first = true ∧ inclusion.refersTo row second = true) := by
  refine holds.ordered.imp_of_mem fun {first second} firstMember secondMember before => ?_
  rintro ⟨here, there⟩
  rw [refersTo, holds.cell_idField valid firstMember, beq_iff_eq] at here
  rw [refersTo, holds.cell_idField valid secondMember, beq_iff_eq] at there
  have same := Std.TransCmp.eq_trans (Std.OrientedCmp.eq_symm here) there
  have equal : kept.keyOf first = kept.keyOf second := compare_eq_iff_eq.mp same
  omega

theorem rowsOf_target (holds : inclusion.target.Holds tables kept) :
    Select.rowsOf tables inclusion.target.table.name = kept.rows := by
  rw [Select.rowsOf, holds.found]
  rfl

/-- A row refers to the one row with its id. -/
theorem referred?_eq_some_iff (valid : inclusion.target.entity.Valid)
    (holds : inclusion.target.Holds tables kept) :
    inclusion.referred? tables row = some other ↔
      other ∈ kept.rows ∧ inclusion.refersTo row other = true := by
  have single := filter_eq_toList_find? (refersTo_unique valid holds row)
  rw [referred?, rowsOf_target holds, ← List.mem_filter, single, Option.mem_toList]

/-- A row is extended by nothing exactly if no row has the id that it refers to. -/
theorem extension_eq_null_iff (holds : inclusion.target.Holds tables kept) :
    inclusion.extension tables row = .ok (inclusion.key, .null) ↔
      ∀ other ∈ kept.rows, inclusion.refersTo row other = false := by
  rw [extension, referred?, rowsOf_target holds]
  cases found : kept.rows.find? (inclusion.refersTo row) with
  | none =>
      refine iff_of_true rfl fun other member => ?_
      simpa using List.find?_eq_none.mp found other member
  | some other =>
      have refers : inclusion.refersTo row other = true := List.find?_some found
      refine iff_of_false (fun read => ?_) fun none => ?_
      · obtain ⟨item, -, made⟩ := Except.map_eq_ok.mp read
        cases made
      · rw [none other (List.mem_of_find?_eq_some found)] at refers
        cases refers

theorem extension_of_null (valid : inclusion.target.entity.Valid)
    (holds : inclusion.target.Holds tables kept)
    (missing : CellRow.cell row inclusion.column.name = .null) :
    inclusion.extension tables row = .ok (inclusion.key, .null) :=
  (extension_eq_null_iff holds).mpr fun _ member =>
    refersTo_null missing (holds.cell_idField valid member)

/-- A row is joined with the one that it refers to. -/
theorem joinScope_join (valid : inclusion.target.entity.Valid)
    (holds : inclusion.target.Holds tables kept) (own : inclusion.column.source = table.name)
    (row : CellRow) (joined : Scope) :
    Select.joinScope tables (rowScope table row ++ joined) inclusion.join =
      [rowScope table row ++ joined ++
        [(inclusion.source, (inclusion.referred? tables row).getD [])]] := by
  have rows := rowsOf_target holds
  have fits : ∀ other ∈ kept.rows, inclusion.join.fits (rowScope table row ++ joined) other =
      inclusion.refersTo row other :=
    fun other member => fits_eq own (holds.cell_idField valid member)
  have single : (Select.rowsOf tables inclusion.join.table.name).Pairwise fun first second =>
      ¬(inclusion.join.fits (rowScope table row ++ joined) first = true ∧
        inclusion.join.fits (rowScope table row ++ joined) second = true) := by
    rw [show Select.rowsOf tables inclusion.join.table.name = kept.rows from rows]
    refine (refersTo_unique valid holds row).imp_of_mem
      fun firstMember secondMember differ => ?_
    rwa [fits _ firstMember, fits _ secondMember]
  have found : (Select.rowsOf tables inclusion.join.table.name).find?
      (inclusion.join.fits (rowScope table row ++ joined)) = inclusion.referred? tables row := by
    rw [referred?, show Select.rowsOf tables inclusion.join.table.name = kept.rows from rows, rows,
      ← List.head?_filter, ← List.head?_filter, List.filter_congr fits]
  rw [Select.joinScope_eq single, found]
  rfl

section Reading

variable {scope : Scope}

/-- An included row is read like a row of its own model. -/
theorem rowAt_of_found (valid : inclusion.target.entity.Valid)
    (cells : ∀ column ∈ inclusion.target.table.columns,
      scope.cell (column.ref inclusion.source) = CellRow.cell other column.name) :
    inclusion.rowAt scope = inclusion.target.readRow other := by
  rw [Model.readRow_eq valid, rowAt]
  exact Except.mapM_congr fun column member => by rw [cells column member]

/-- A missing row is read without values. -/
theorem rowAt_of_missing
    (cells : ∀ column ∈ inclusion.target.table.columns,
      scope.cell (column.ref inclusion.source) = .null) :
    inclusion.rowAt scope = .ok (inclusion.names.map fun name => (name, .null)) := by
  unfold rowAt names
  rw [Except.mapM_eq_ok, List.map_map, List.map_map]
  refine List.map_congr_left fun column member => ?_
  rw [cells column member]
  cases column.type <;> rfl

theorem isFound_missing (inclusion : Inclusion) :
    inclusion.included.isFound (inclusion.names.map fun name => (name, .null)) = false := by
  unfold Include.isFound Record.get?
  cases found : (inclusion.names.map fun name => (name, Value.null)).find?
      (·.1 == inclusion.included.idField) with
  | none => rfl
  | some entry =>
      obtain ⟨name, -, rfl⟩ := List.mem_map.mp (List.mem_of_find?_eq_some found)
      rfl

theorem isFound_referred {item : Row}
    (valid : inclusion.target.entity.Valid) (holds : inclusion.target.Holds tables kept)
    (found : inclusion.referred? tables row = some other)
    (read : inclusion.target.readRow other = .ok item) :
    inclusion.included.isFound item = true := by
  have member := ((referred?_eq_some_iff valid holds).mp found).1
  have id := holds.valueIn_idField valid member read
  unfold Model.valueIn at id
  split at id
  · next value there =>
    cases id
    rw [Include.isFound, show item.get? inclusion.included.idField = some _ from there]
    rfl
  · cases id

/-- What is nested is what the row is extended by. -/
theorem entry_readAt (valid : inclusion.target.entity.Valid)
    (holds : inclusion.target.Holds tables kept)
    (cells : ∀ column ∈ inclusion.target.table.columns,
      scope.cell (column.ref inclusion.source) =
        CellRow.cell ((inclusion.referred? tables row).getD []) column.name) :
    (fun part => part.1.entry part.2) <$> inclusion.readAt scope =
      inclusion.extension tables row := by
  cases found : inclusion.referred? tables row with
  | none =>
      rw [found] at cells
      rw [readAt, rowAt_of_missing cells, extension, found]
      change Except.ok (inclusion.included.entry _) = _
      rw [Include.entry, isFound_missing]
      rfl
  | some other =>
      rw [found] at cells
      have same : inclusion.rowAt scope = inclusion.target.readRow other :=
        rowAt_of_found valid cells
      rw [readAt, same, extension, found]
      dsimp only
      cases read : inclusion.target.readRow other with
      | error failure => rfl
      | ok item =>
          change Except.ok (inclusion.included.entry item) = _
          rw [Include.entry, isFound_referred valid holds found read]
          rfl

end Reading

end Inclusion
end SchemaStore
