import SchemaStore.Live.State

/-!
# Reflection

A backend describes a table by records of its columns, keys and indexes.
`Reflection.snapshot` turns them into a `TableState`.  A MySQL server gives its
columns as rows of name, type, default, extra and nullability instead, which
also show the columns that refresh themselves.
-/

namespace SchemaStore

/-- What a backend says about a table. -/
structure Reflection where
  columns : List Value := []
  foreignKeys : List Value := []
  uniqueConstraints : List Value := []
  indexes : List Value := []
  /-- The rows of the server's own catalogue of columns. -/
  rows : List Value := []
deriving Repr

namespace Reflection

/-- The value under a name that a description has to have. -/
def required (description : Value) (key : String) : Except Failure Value :=
  match description.item? key with
  | some value => .ok value
  | none => .error .missingKey

/-- A text that has to be one. -/
def text (value : Value) : Except Failure String :=
  Reader.text.run value

/-- A text that may be missing. -/
def optionalText (value : Value) : Except Failure (Option String) :=
  (Reader.optional Reader.text).run value

/-- Names in a sequence; a missing one is empty. -/
def names (value : Value) : Except Failure (List String) :=
  value.elements.mapM text

/-- A column by its description. -/
def column (description : Value) : Except Failure LiveColumn := do
  let name ← required description "name"
  let type ← required description "type"
  let default := description.item "default"
  let nullable := match description.item? "nullable" with
    | some value => value.truthy
    | none => true
  return {
    name := ← text name
    type := Text.lower type.display
    default := if default.isNull then none else some default.display
    nullable }

/-- A column by its row in the server's catalogue. -/
def catalogueColumn (row : Value) : Except Failure LiveColumn :=
  match row.items with
  | name :: type :: default :: extra :: nullable :: _ => do
      let yes := match nullable with
        | .scalar (.text s) => s == "YES"
        | _ => false
      return {
        name := ← text name
        type := Text.lower type.display
        default := ← optionalText default
        extra := ← if extra.truthy then text extra else .ok ""
        nullable := yes }
  | _ => .error .missingPosition

def foreignKey (description : Value) : Except Failure LiveForeignKey := do
  let table := description.item "referred_table"
  return {
    name := ← optionalText (description.item "name")
    columns := ← names (description.item "constrained_columns")
    referredTable := ← if table.truthy then text table else .ok ""
    referredColumns := ← names (description.item "referred_columns") }

/-- A unique constraint or index by its description. -/
def uniqueSet (description : Value) : Except Failure LiveUnique := do
  return ⟨← optionalText (description.item "name"),
    ← names (description.item "column_names")⟩

/-- The state of a table that a backend describes; without a description it does not exist. -/
def snapshot (backend table : String) (reflection : Option Reflection) :
    Except Failure TableState :=
  match reflection with
  | none => .ok (.missing table)
  | some reflection => do
      let columns ←
        if backend == "mysql" then reflection.rows.mapM catalogueColumn
        else reflection.columns.mapM column
      let foreignKeys ← reflection.foreignKeys.mapM foreignKey
      let indexes := reflection.indexes.filter fun index => (index.item "unique").truthy
      let uniqueSets ← (reflection.uniqueConstraints ++ indexes).mapM uniqueSet
      return {
        name := table
        present := true
        columns := Record.putAll [] (columns.map fun column => (column.name, column))
        foreignKeys
        uniqueSets }

end Reflection
end SchemaStore
