import SchemaStore.Query.Search

/-!
# Changes of rows

A model creates, updates and deletes rows.  The changes name the rows by their
ids: matching rows are looked up first, and a row that was written is read
again.
-/

namespace SchemaStore

/-- What an update did. -/
structure Updated (α : Type) where
  count : Int
  data : α
deriving Repr

/-- What a deletion did: the rows as they were. -/
structure Deleted where
  count : Int
  rows : List Row
deriving Repr

/-- What an upsert did. -/
structure Upserted where
  created : Bool
  row : Option Row
deriving Repr

namespace Model

/-- The values by field of what is given as data. -/
def valuesOf (model : Model) (data : Value) : Except Failure (Record Value) :=
  match data with
  | .object entries => do
      for (field, _) in entries do
        let _ ← model.column field
      return entries
  | other => .error (.validation ("data must be a mapping, got " ++ other.typeName))

/-- The values by field of data that has to have some. -/
def someValuesOf (model : Model) (data : Value) : Except Failure (Record Value) :=
  if data.isMapping && !data.truthy then
    .error (.validation ("No data given for " ++ model.entity.name))
  else
    model.valuesOf data

def idColumn (model : Model) : Except Failure ColumnRef :=
  model.column model.idField

/-- Add a row and read it again. -/
def create (model : Model) (data : Value) : Program (Option Row) := do
  let values ← Program.ofResult (model.valuesOf data)
  let key ← model.write (.insert model.table values) (fun result => .ok result.key)
    ("Failed to create " ++ model.entity.name)
  model.findById ((values.get? model.idField).getD key)

/-- Update the first row that matches a filter. -/
def updateOne (model : Model) (filter data : Value) : Program (Updated (Option Row)) := do
  let values ← Program.ofResult (model.someValuesOf data)
  match ← model.findOne filter with
  | none => return ⟨0, none⟩
  | some row =>
      let id ← Program.ofResult (valueIn model.idField row)
      let column ← Program.ofResult model.idColumn
      let change := Write.update model.table values (.compare .equal column id)
      let count ← model.write change (fun result => .ok result.rowCount)
        ("Failed to update " ++ model.entity.name ++ " " ++ id.display)
      return ⟨count, ← model.findById ((values.get? model.idField).getD id)⟩

def matchingIds (model : Model) (filter : Value) : Program (List Value) := do
  let column ← Program.ofResult model.idColumn
  let conditions ← Program.ofResult (model.condition filter)
  let rows ← model.fetch
    { table := model.table, outputs := [⟨column, none⟩], criteria := conditions } []
  Program.ofResult (rows.mapM (valueIn model.idField))

def updateMany (model : Model) (filter data : Value) : Program (Updated (List Row)) := do
  let values ← Program.ofResult (model.someValuesOf data)
  if values.has model.idField then
    Program.fail (.validation ("update_many cannot change " ++ model.idField))
  let ids ← model.matchingIds filter
  if ids.isEmpty then
    return ⟨0, []⟩
  let column ← Program.ofResult model.idColumn
  let count ← model.write (.update model.table values (.member false column ids))
    (fun result => .ok result.rowCount) ("Failed to update " ++ model.entity.name ++ " rows")
  return ⟨count, ← model.findAllById (.object [(model.idField, .sequence .list ids)])⟩

/-- Delete the rows that match a filter; an empty filter is refused. -/
def delete (model : Model) (filter : Value) : Program Deleted := do
  model.requireFilter "delete" filter
  let rows ← model.findAllById filter
  if rows.isEmpty then
    return ⟨0, []⟩
  let ids ← Program.ofResult (rows.mapM (valueIn model.idField))
  let column ← Program.ofResult model.idColumn
  let count ← model.write (.delete model.table (.member false column ids))
    (fun result => .ok result.rowCount) ("Failed to delete " ++ model.entity.name ++ " rows")
  return ⟨count, rows⟩

/-- Update the first row that matches a filter, or add one if there is none. -/
def upsert (model : Model) (filter data : Value) : Program Upserted := do
  match ← model.findOne filter with
  | none => return ⟨true, ← model.create data⟩
  | some row =>
      let id ← Program.ofResult (valueIn model.idField row)
      let updated ← model.updateOne (.object [(model.idField, id)]) data
      return ⟨false, updated.data⟩

end Model
end SchemaStore
