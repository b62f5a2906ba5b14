import SchemaStore.Sql.Statement

/-!
# Included rows

A search may include, with every row, the row that one of its fields refers to.
The columns of the included row are labelled with its key and two underscores;
`Include.nest` gathers them into an object of their own.
-/

namespace SchemaStore

/-- The key under which the row that a field refers to is included. -/
def includeKey (field : String) (target : Entity) : String :=
  let cs := field.toList
  if "Id".toList.isSuffixOf cs && cs.length > 2 then String.ofList (cs.dropLast.dropLast)
  else if "_id".toList.isSuffixOf cs && cs.length > 3 then
    String.ofList cs.dropLast.dropLast.dropLast
  else target.key

/-- A row that is included with every row of a search. -/
structure Include where
  key : String
  /-- The id field of the included row. -/
  idField : String
deriving DecidableEq, Repr

namespace Include

/-- What the labels of the columns of the included row begin with. -/
def labelStart (included : Include) : String :=
  included.key ++ "__"

/-- The label of a column of the included row. -/
def label (included : Include) (column : String) : String :=
  included.labelStart ++ column

/-- The column that a label belongs to. -/
def columnOf? (included : Include) (label : String) : Option String :=
  let start := included.labelStart.toList
  if start.isPrefixOf label.toList then some (String.ofList (label.toList.drop start.length))
  else none

/-- The included row among the columns of a row. -/
def rowOf (included : Include) (row : Row) : Row :=
  row.filterMap fun (label, value) => (included.columnOf? label).map fun name => (name, value)

/-- The columns of a row that are not the included row's. -/
def restOf (included : Include) (row : Row) : Row :=
  row.filter fun entry => (included.columnOf? entry.1).isNone

/-- Put the included row under its key; a row without an id stands for no row. -/
def nest (included : Include) (row : Row) : Row :=
  let nested := included.rowOf row
  let found := !((nested.get? included.idField).getD .null).isNull
  Record.put (included.restOf row) included.key (if found then .object nested else .null)

end Include

/-- Put every included row under its key. -/
def nestAll (includes : List Include) (row : Row) : Row :=
  includes.foldl (fun row included => included.nest row) row

end SchemaStore
