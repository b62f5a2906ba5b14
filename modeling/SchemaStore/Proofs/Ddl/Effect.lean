import SchemaStore.Ddl.Plan
import SchemaStore.Ddl.Render
import SchemaStore.Proofs.Live.Literal

/-!
# What changes do to a live table

`Table.reported` is the live table that a backend shows right after it created a
table, and `DdlAction.effect` the live table after one more change took effect.
Backends show the declared type, text defaults as literals, and the current time
as `CURRENT_TIMESTAMP`.  One that has columns which refresh themselves states a
whole column anew when it alters it; another one alters the type or the default
alone.
-/

namespace SchemaStore

/-- How a backend shows the type of a column. -/
def BackendTraits.typeText (traits : BackendTraits) : ColumnType → String
  | .integer => if traits.unsigned then "int unsigned" else "integer"
  | .varchar => "varchar(255)"
  | .text => "text"
  | .timestamp => "timestamp"

namespace ColumnDefault

/-- How backends show a default; an integer that cannot be read has none. -/
def reported : ColumnDefault → Option String
  | .literal text => some (quotedLiteral text)
  | .number text => (readDefaultNumber text).toOption.map toString
  | .now | .nowOnUpdate => some "CURRENT_TIMESTAMP"

/-- What else backends show of a default. -/
def reportedExtra : ColumnDefault → String
  | .nowOnUpdate => "DEFAULT_GENERATED on update CURRENT_TIMESTAMP"
  | _ => ""

end ColumnDefault

/-- A declared column as a backend shows it. -/
def Column.reported (column : Column) (traits : BackendTraits) : LiveColumn :=
  { name := column.name
    type := traits.typeText column.type
    default := column.fallback.bind ColumnDefault.reported
    extra := (column.fallback.map ColumnDefault.reportedExtra).getD ""
    nullable := column.nullable }

/-- A table as a backend shows it right after it was created. -/
def Table.reported (table : Table) (traits : BackendTraits) : TableState :=
  { name := table.name
    present := true
    columns := table.columns.map fun column => (column.name, column.reported traits)
    foreignKeys := table.foreignKeys.map fun key =>
      { name := some key.name
        columns := [key.column]
        referredTable := key.targetTable
        referredColumns := [key.targetColumn] }
    uniqueSets := table.uniqueKeys.map fun key => ⟨some key.name, [key.column]⟩ }

namespace LiveColumn

/-- A column after its type was altered to the declared one. -/
def alterType (traits : BackendTraits) (declared : Column) (column : LiveColumn) : LiveColumn :=
  if traits.onUpdate then declared.reported traits
  else { column with type := traits.typeText declared.type }

/-- A column after its default was set to the declared one. -/
def setDefault (traits : BackendTraits) (declared : Column) (column : LiveColumn) : LiveColumn :=
  if traits.onUpdate && declared.type == .timestamp then declared.reported traits
  else { column with default := declared.fallback.bind ColumnDefault.reported }

end LiveColumn

namespace TableState

/-- A table with one column changed, if it has the column. -/
def changeColumn (state : TableState) (name : String) (change : LiveColumn → LiveColumn) :
    TableState :=
  match state.columns.get? name with
  | some column => { state with columns := state.columns.put name (change column) }
  | none => state

end TableState

namespace DdlAction

/-- The live table after a change took effect. -/
def effect (schema : Schema) (traits : BackendTraits) (live : TableState) :
    DdlAction → TableState
  | .createTable table =>
      match entityOf schema table with
      | .ok entity => (entity.table schema traits).reported traits
      | .error _ => live
  | .addColumn table name =>
      match fieldOf schema table name with
      | .ok field =>
          { live with
            columns := live.columns.put name ((field.column name traits).reported traits) }
      | .error _ => live
  | .alterType table name _ =>
      match fieldOf schema table name with
      | .ok field => live.changeColumn name (.alterType traits (restated field name traits))
      | .error _ => live
  | .setDefault table name =>
      match fieldOf schema table name with
      | .ok field => live.changeColumn name (.setDefault traits (restated field name traits))
      | .error _ => live
  | .addForeignKey _ name key targetTable targetField _ =>
      { live with
        foreignKeys := live.foreignKeys ++
          [{ name := some key
             columns := [name]
             referredTable := targetTable
             referredColumns := [targetField] }] }
  | .addUnique _ name key =>
      { live with uniqueSets := live.uniqueSets ++ [⟨some key, [name]⟩] }

end DdlAction

end SchemaStore
