import SchemaStore.Backend.Traits
import SchemaStore.Error.Backend
import SchemaStore.Schema.Basic
import SchemaStore.Text.Numeral

/-!
# Tables of a schema

Every entity is kept in a table with one column per field.  The server fills
missing values from column defaults; which default a field has depends on what
the backend can do.  Constraints have names made of table and field.
-/

namespace SchemaStore

inductive ColumnType where
  | integer
  | varchar
  | text
  | timestamp
deriving DecidableEq, Repr

/-- What the server fills a missing value with. -/
inductive ColumnDefault where
  | literal (text : String)
  /-- An integer, given by its written form. -/
  | number (text : String)
  | now
  /-- The current time, also on every change of the row. -/
  | nowOnUpdate
deriving DecidableEq, Repr

structure Column where
  name : String
  type : ColumnType
  isKey : Bool := false
  nullable : Bool := false
  fallback : Option ColumnDefault := none
  /-- Updates that do not set the column set it to the current time. -/
  refreshed : Bool := false
deriving DecidableEq, Repr

/-- A foreign key on one column. -/
structure ForeignKey where
  name : String
  column : String
  targetTable : String
  targetColumn : String
  onDelete : Option DeletePolicy := none
deriving DecidableEq, Repr

/-- A unique constraint on one column. -/
structure UniqueKey where
  name : String
  column : String
deriving DecidableEq, Repr

structure Table where
  name : String
  columns : List Column
  uniqueKeys : List UniqueKey := []
  foreignKeys : List ForeignKey := []
deriving DecidableEq, Repr

def uniqueName (table field : String) : String :=
  table ++ "_" ++ field ++ "_unique"

def foreignKeyName (table field : String) : String :=
  table ++ "_" ++ field ++ "_foreign"

/-- The number that an integer default stands for. -/
def readDefaultNumber (text : String) : Except Failure Int :=
  (Text.readInteger text).mapError fun _ => .unreadableNumber

/-- The length of short text columns. -/
def stringLength : Nat := 255

namespace Field

def columnType (field : Field) : ColumnType :=
  if field.isId then .integer
  else
    match field.type with
    | .string => if field.isText then .text else .varchar
    | .int => .integer
    | .dateTime => .timestamp

/-- The default that the server keeps for a field. -/
def serverDefault (field : Field) (traits : BackendTraits) : Option ColumnDefault :=
  if field.isId then none
  else
    match field.type with
    | .dateTime =>
        if field.isUpdatedAt && traits.onUpdate then some .nowOnUpdate
        else if field.needsNow then some .now
        else field.defaultText.map .literal
    | .int => field.defaultText.map .number
    | .string => if field.isText then none else field.defaultText.map .literal

/-- Check that the default of a field can be written: an integer must not be too long. -/
def checkDefault (field : Field) : Except Failure Unit :=
  match field.isId, field.type, field.defaultText with
  | false, .int, some text => (fun _ => ()) <$> readDefaultNumber text
  | _, _, _ => .ok ()

def column (field : Field) (name : String) (traits : BackendTraits) : Column :=
  if field.isId then
    { name, type := field.columnType, isKey := true }
  else
    { name, type := field.columnType, nullable := field.isOptional,
      fallback := field.serverDefault traits, refreshed := field.isUpdatedAt }

def foreignKey? (field : Field) (schema : Schema) (table name : String) : Option ForeignKey :=
  if field.isId then none
  else do
    let reference ← field.reference
    let target ← schema.entity? reference.entity
    return {
      name := foreignKeyName table name
      column := name
      targetTable := target.tableName
      targetColumn := reference.field
      onDelete := field.onDelete }

/-- Whether a field has a unique constraint of its own. -/
def hasUniqueKey (field : Field) : Bool :=
  field.isUnique && !field.isId

end Field

namespace Entity

def table (entity : Entity) (schema : Schema) (traits : BackendTraits) : Table :=
  let name := entity.tableName
  { name
    columns := entity.fields.map fun (fieldName, field) => field.column fieldName traits
    uniqueKeys := entity.fields.filterMap fun (fieldName, field) =>
      if field.hasUniqueKey then some ⟨uniqueName name fieldName, fieldName⟩ else none
    foreignKeys := entity.fields.filterMap fun (fieldName, field) =>
      field.foreignKey? schema name fieldName }

end Entity

namespace Schema

/-- Check that the defaults of all fields can be written. -/
def checkDefaults (schema : Schema) : Except Failure Unit :=
  schema.entities.forM fun entity => entity.fields.forM fun (_, field) => field.checkDefault

/-- The tables of all entities, by the name that entities are looked up by. -/
def tables (schema : Schema) (traits : BackendTraits) : Record Table :=
  schema.entities.map fun entity => (entity.key, entity.table schema traits)

end Schema

/-- A column as a statement names it: by its table, or by the name that it is joined under. -/
structure ColumnRef where
  source : String
  name : String
  type : ColumnType
deriving DecidableEq, Repr

/-- A column as a source of the given name has it. -/
def Column.ref (column : Column) (source : String) : ColumnRef :=
  ⟨source, column.name, column.type⟩

namespace Table

def column? (table : Table) (name : String) : Option Column :=
  table.columns.find? (·.name == name)

/-- A column of the table as statements on it name it. -/
def ref? (table : Table) (name : String) : Option ColumnRef :=
  (table.column? name).map (·.ref table.name)

end Table
end SchemaStore
