import SchemaStore.Sql.Clause

/-!
# Statements

Statements read and write the rows of one table; a `Select` may join further
tables under aliases.  `Statement.render` writes a statement for a dialect, with
its parameters in the order of their marks.
-/

namespace SchemaStore

/-- A column of a result, with a label of its own if it is not named for its column. -/
structure Output where
  column : ColumnRef
  label : Option String := none
deriving DecidableEq, Repr

/-- A table joined under a name of its own where its key equals a column. -/
structure Join where
  table : Table
  source : String
  column : ColumnRef
  key : ColumnRef
deriving DecidableEq, Repr

/-- The order of a result by one column. -/
structure OrderTerm where
  column : ColumnRef
  ascending : Bool
deriving DecidableEq, Repr

/-- A reading of rows. -/
structure Select where
  table : Table
  outputs : List Output
  joins : List Join := []
  criteria : List Clause := []
  orderings : List OrderTerm := []
  distinct : Bool := false
  limit : Option Nat := none
  offset : Option Nat := none
deriving Repr

/-- A statement that changes rows. -/
inductive Write where
  /-- Add a row with values for some columns. -/
  | insert (table : Table) (values : Record Value)
  /-- Set columns of the matching rows; refreshed columns that are not set become current. -/
  | update (table : Table) (values : Record Value) (condition : Clause)
  | delete (table : Table) (condition : Clause)
deriving Repr

inductive Statement where
  | select (query : Select)
  /-- The number of matching rows of a table. -/
  | count (table : Table) (criteria : List Clause)
  /-- The number of rows of a result. -/
  | countOf (query : Select)
  | write (change : Write)
deriving Repr

namespace Select

/-- All columns of a table. -/
def all (table : Table) : Select :=
  { table, outputs := table.columns.map fun column => ⟨column.ref table.name, none⟩ }

/-- The labels of outputs; a column that occurs again is numbered from one. -/
def labelsAfter (seen : List String) : List Output → List String
  | [] => []
  | output :: rest =>
      match output.label with
      | some label => label :: labelsAfter seen rest
      | none =>
          let name := output.column.name
          let times := seen.count name
          (if times = 0 then name else name ++ "__" ++ toString times) ::
            labelsAfter (name :: seen) rest

/-- The labels of the columns of a result. -/
def labels (query : Select) : List String :=
  labelsAfter [] query.outputs

/-- A column of a result with its label; `always` writes also a label that is the column's name. -/
def renderOutput (dialect : Dialect) (always : Bool) (output : Output) (label : String) : String :=
  let column := dialect.column output.column
  if !always && output.label.isNone && label == output.column.name then column
  else column ++ " AS " ++ dialect.name label

def renderJoin (dialect : Dialect) (join : Join) : String :=
  " LEFT OUTER JOIN " ++ dialect.name join.table.name ++ " AS " ++ dialect.name join.source ++
    " ON " ++ dialect.column join.column ++ " = " ++ dialect.column join.key

/-- The condition of a statement, with the word before it. -/
def renderCriteria (dialect : Dialect) (criteria : List Clause) : Sql :=
  match Clause.criteria criteria with
  | none => .raw ""
  | some clause => .raw " WHERE " ++ clause.render dialect

/-- The order of a result. -/
def renderOrderings (dialect : Dialect) (orderings : List OrderTerm) : String :=
  let one (ordering : OrderTerm) : String :=
    dialect.column ordering.column ++ if ordering.ascending then " ASC" else " DESC"
  if orderings.isEmpty then "" else " ORDER BY " ++ Text.joinWith ", " (orderings.map one)

/-- A number as a parameter. -/
def amount (dialect : Dialect) (n : Nat) : Sql :=
  dialect.param (.int n)

/-- The part of a result that is taken.  A missing limit is written as one that is never
reached. -/
def renderLimit (dialect : Dialect) (limit offset : Option Nat) : Sql :=
  match dialect, limit, offset with
  | _, none, none => .raw ""
  | .sqlite, some n, _ =>
      .raw " LIMIT " ++ amount dialect n ++ .raw " OFFSET " ++ amount dialect (offset.getD 0)
  | .sqlite, none, some k =>
      .raw " LIMIT " ++ dialect.param (.int (-1)) ++ .raw " OFFSET " ++ amount dialect k
  | .mysql, some n, none => .raw " LIMIT " ++ amount dialect n
  | .mysql, some n, some k => .raw " LIMIT " ++ amount dialect k ++ .raw ", " ++ amount dialect n
  | .mysql, none, some k =>
      .raw " LIMIT " ++ amount dialect k ++ .raw ", 18446744073709551615"

/-- A reading of rows as it is written. -/
def render (dialect : Dialect) (always : Bool) (query : Select) : Sql :=
  let outputs := (query.outputs.zip query.labels).map fun (output, label) =>
    renderOutput dialect always output label
  let joins := Text.joinWith "" (query.joins.map (renderJoin dialect))
  .raw ("SELECT " ++ (if query.distinct then "DISTINCT " else "") ++ Text.joinWith ", " outputs ++
      " FROM " ++ dialect.name query.table.name ++ joins) ++
    renderCriteria dialect query.criteria ++
    .raw (renderOrderings dialect query.orderings) ++
    renderLimit dialect query.limit query.offset

end Select

namespace Write

def table : Write → Table
  | .insert table _ | .update table _ _ | .delete table _ => table

/-- The current time in an assignment. -/
def currentTime : Dialect → String
  | .sqlite => "CURRENT_TIMESTAMP"
  | .mysql => "now()"

/-- The assignments of an update in the order of the columns. -/
def renderAssignments (dialect : Dialect) (table : Table) (values : Record Value) : List Sql :=
  table.columns.filterMap fun column =>
    match values.get? column.name with
    | some value => some (.raw (dialect.name column.name ++ "=") ++ dialect.param value)
    | none =>
        if column.refreshed then
          some (.raw (dialect.name column.name ++ "=" ++ currentTime dialect))
        else
          none

/-- The row that an insertion adds. -/
def renderRow (dialect : Dialect) (table : Table) (values : Record Value) : Sql :=
  let given := table.columns.filterMap fun column =>
    (values.get? column.name).map fun value => (column.name, value)
  match given, dialect with
  | [], .sqlite => .raw "DEFAULT VALUES"
  | [], .mysql => .raw "() VALUES ()"
  | _, _ =>
      .raw ("(" ++ Text.joinWith ", " (given.map fun entry => dialect.name entry.1) ++
          ") VALUES ") ++
        (Sql.join ", " (given.map fun entry => dialect.param entry.2)).parens

/-- A change of rows as it is written. -/
def render (dialect : Dialect) : Write → Sql
  | .insert table values =>
      .raw ("INSERT INTO " ++ dialect.name table.name ++ " ") ++ renderRow dialect table values
  | .update table values condition =>
      .raw ("UPDATE " ++ dialect.name table.name ++ " SET ") ++
        Sql.join ", " (renderAssignments dialect table values) ++
        Select.renderCriteria dialect [condition]
  | .delete table condition =>
      .raw ("DELETE FROM " ++ dialect.name table.name) ++
        Select.renderCriteria dialect [condition]

end Write

namespace Statement

def render (dialect : Dialect) : Statement → Sql
  | .select query => query.render dialect false
  | .count table criteria =>
      .raw ("SELECT count(*) AS count_1 FROM " ++ dialect.name table.name) ++
        Select.renderCriteria dialect criteria
  | .countOf query =>
      .raw "SELECT count(*) AS count_1 FROM (" ++ query.render dialect true ++ .raw ") AS anon_1"
  | .write change => change.render dialect

end Statement
end SchemaStore
