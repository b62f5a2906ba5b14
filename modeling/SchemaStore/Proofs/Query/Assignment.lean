import SchemaStore.Proofs.Database.Change
import SchemaStore.Proofs.Database.Writing
import SchemaStore.Proofs.Query.Lookup

/-!
# What an update assigns

An update gives every column of the model the value that was given for it, or the time if
the column is refreshed, or leaves it alone.  The stored table may have more columns than
the model; they keep their values, too.
-/

namespace SchemaStore

/-- The cell that a value is stored as. -/
def Column.storedCell (column : Column) (value : Value) : Cell :=
  (⟨.ofColumn column.type, value⟩ : Parameter).boundCell.prefer column.type.affinity

namespace Model

/-- The cell of a column after an update at a time. -/
def updatedCell (model : Model) (values : Record Value) (now : Cell) (name : String) (old : Cell) :
    Cell :=
  match model.table.column? name with
  | none => old
  | some column =>
      match values.get? name with
      | some value => column.storedCell value
      | none => if column.refreshed then now else old

/-- A row after an update at a time. -/
def updatedRow (model : Model) (values : Record Value) (now : Cell) (row : CellRow) : CellRow :=
  row.map fun entry => (entry.1, model.updatedCell values now entry.1 entry.2)

/-- A stored table has the columns of the model, and no other id. -/
structure Fits (model : Model) (table : Table) : Prop where
  columns : ∀ column ∈ model.table.columns, ∃ own, table.column? column.name = some own ∧
    own.type = column.type ∧ own.isKey = column.isKey
  keyed : ∀ own ∈ table.columns, own.isKey = true → own.name = model.idField
  distinct : (table.columns.map Column.name).Nodup

/-- The table of the model itself fits. -/
theorem fits_table {model : Model} (valid : model.entity.Valid) : model.Fits model.table where
  columns column member :=
    ⟨column, find?_eq_some_of_nodup Column.name (columns_nodup valid) member, rfl, rfl⟩
  keyed _ member isKey := name_of_isKey valid member isKey
  distinct := columns_nodup valid

/-- A row has the columns of its table, and an id. -/
structure FitsRow (model : Model) (table : Table) (row : CellRow) : Prop where
  names : row.keys = table.columns.map Column.name
  id : ∃ n, CellRow.cell row model.idField = .int n

variable {model : Model} {stored : StoredTable} {values : Record Value} {now : Cell}
  {row next : CellRow}

section Keys

variable (valid : model.entity.Valid) (fits : model.Fits stored.table)
include valid fits

theorem Fits.keyName : stored.keyName = model.idField := by
  obtain ⟨own, known, -, isKey⟩ := fits.columns _
    (List.mem_of_find?_eq_some (column?_idField valid))
  have present : (stored.table.columns.find? (·.isKey)).isSome = true :=
    List.find?_isSome.mpr ⟨own, List.mem_of_find?_eq_some known, isKey⟩
  obtain ⟨found, there⟩ := Option.isSome_iff_exists.mp present
  rw [StoredTable.keyName, there]
  exact fits.keyed found (List.mem_of_find?_eq_some there) (by simpa using List.find?_some there)

theorem Fits.keyOf {n : Int} (id : CellRow.cell row model.idField = .int n) :
    stored.keyOf row = n := by
  rw [StoredTable.keyOf, fits.keyName valid, id]

end Keys

theorem cell_updatedRow {name : String} (there : name ∈ row.keys) :
    CellRow.cell (model.updatedRow values now row) name =
      model.updatedCell values now name (CellRow.cell row name) := by
  have found : (row.get? name).isSome = true := by
    rw [← Record.has_eq_isSome_get?, Record.has_eq_true_iff]
    exact there
  obtain ⟨cell, same⟩ := Option.isSome_iff_exists.mp found
  have mapped := Record.get?_map (model.updatedCell values now) row name
  rw [same] at mapped
  rw [CellRow.cell, CellRow.cell, same, updatedRow, mapped]
  rfl

theorem keys_updatedRow : (model.updatedRow values now row).keys = row.keys := by
  simp [updatedRow, Record.keys]

/-- A row that the database changed is the updated row. -/
theorem changedRow_eq (valid : model.entity.Valid) (fits : model.Fits stored.table)
    (sound : model.FitsRow stored.table row)
    (timeless : ∀ affinity, now.prefer affinity = now)
    (done : stored.changedRow (Write.assigned model.table values now) row = .ok next) :
    next = model.updatedRow values now row := by
  obtain ⟨key, kept, keyed, rfl⟩ := StoredTable.exists_of_changedRow done
  rw [fits.keyName valid] at kept keyed
  refine List.map_congr_left fun ⟨name, old⟩ member => Prod.ext rfl ?_
  have listed : name ∈ stored.table.columns.map Column.name :=
    sound.names ▸ List.mem_map_of_mem member
  obtain ⟨own, ownMember, rfl⟩ := List.mem_map.mp listed
  have known : stored.table.column? own.name = some own :=
    find?_eq_some_of_nodup Column.name fits.distinct ownMember
  have given : (Write.assigned model.table values now).get? own.name = _ :=
    Write.get?_assigned (columns_nodup valid) own.name
  dsimp only
  rw [StoredTable.changedCell, known, updatedCell]
  dsimp only
  cases declared : model.table.column? own.name with
  | none =>
      rw [declared] at given
      have other : own.isKey = false := by
        by_contra isKey
        rw [fits.keyed own ownMember (by simpa using isKey), column?_idField valid] at declared
        cases declared
      rw [other, given]
      rfl
  | some column =>
      rw [declared, Option.bind_some] at given
      have named : column.name = own.name := by simpa using List.find?_some declared
      obtain ⟨own', same, sameType, sameKey⟩ :=
        fits.columns column (List.mem_of_find?_eq_some declared)
      rw [named, known] at same
      cases same
      cases isKey : own.isKey with
      | true =>
          have isId := fits.keyed own ownMember isKey
          rw [isId] at given
          rw [isId, column?_idField valid] at declared
          cases declared
          obtain ⟨n, id⟩ := sound.id
          rw [isId]
          cases assigned : values.get? model.idField with
          | some value =>
              rw [assigned] at given
              exact (StoredTable.keyCell_eq_ok.mp (keyed _ given)).symm
          | none =>
              rw [assigned] at given
              have distinct : row.keys.Nodup := sound.names ▸ fits.distinct
              have there : row.get? model.idField = some old :=
                Record.get?_of_mem distinct (isId ▸ member)
              rw [kept given, fits.keyOf valid id, ← id, CellRow.cell, there]
              rfl
      | false =>
          rw [given, sameType]
          cases values.get? own.name with
          | some value => rfl
          | none =>
              dsimp only
              cases column.refreshed with
              | true => exact timeless _
              | false => rfl

/-- What is given as an id is stored as a key. -/
theorem exists_key_of_changedRow (valid : model.entity.Valid) (fits : model.Fits stored.table)
    (done : stored.changedRow (Write.assigned model.table values now) row = .ok next)
    {value : Value} (given : values.get? model.idField = some value) :
    ∃ key, (⟨.plain, value⟩ : Parameter).boundCell.prefer .number = .int key := by
  obtain ⟨key, -, keyed, -⟩ := StoredTable.exists_of_changedRow done
  rw [fits.keyName valid, Write.get?_assigned (columns_nodup valid), column?_idField valid] at keyed
  rw [given] at keyed
  exact ⟨key, StoredTable.keyCell_eq_ok.mp (keyed _ rfl)⟩

theorem FitsRow.idField_mem {table : Table} (sound : model.FitsRow table row) :
    model.idField ∈ row.keys := by
  obtain ⟨n, id⟩ := sound.id
  by_contra absent
  rw [CellRow.cell, Record.get?_eq_none absent] at id
  cases id

/-- The id of a row after an update: what is given, or the old one. -/
theorem id_updatedRow (valid : model.entity.Valid) {table : Table}
    (sound : model.FitsRow table row) :
    CellRow.cell (model.updatedRow values now row) model.idField =
      match values.get? model.idField with
      | some value => (⟨.plain, value⟩ : Parameter).boundCell.prefer .number
      | none => CellRow.cell row model.idField := by
  rw [cell_updatedRow sound.idField_mem, updatedCell, column?_idField valid]
  cases values.get? model.idField <;> rfl

theorem FitsRow.updated (valid : model.entity.Valid) {table : Table}
    (sound : model.FitsRow table row)
    (keyed : ∀ value, values.get? model.idField = some value →
      ∃ key, (⟨.plain, value⟩ : Parameter).boundCell.prefer .number = .int key) :
    model.FitsRow table (model.updatedRow values now row) where
  names := keys_updatedRow.trans sound.names
  id := by
    rw [id_updatedRow valid sound]
    cases given : values.get? model.idField with
    | some value => exact keyed value given
    | none => exact sound.id

theorem scalar_of_bound (valid : model.entity.Valid)
    (bound : ∀ parameter ∈ Write.valueParameters model.table values,
      Except.Succeeds parameter.cell) {id : Value} (given : values.get? model.idField = some id) :
    ∃ s, id = Value.scalar s :=
  Parameter.scalar_of_cell (bound _ (Write.mem_valueParameters (column?_idField valid) given))

end Model
end SchemaStore
