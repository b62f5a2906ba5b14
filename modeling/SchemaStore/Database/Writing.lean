import SchemaStore.Backend.Request
import SchemaStore.Database.Reading

/-!
# Writing rows

A write checks every row that it makes: no cell may be missing where one is
required, and keys and unique columns must not repeat.  If a check fails,
nothing is written.
-/

namespace SchemaStore

namespace StoredTable

/-- Fail unless a row may stand among others. -/
def checkRow (stored : StoredTable) (others : List CellRow) (row : CellRow) :
    Except Failure Unit := do
  let name := stored.table.name
  let isMissing (column : Column) : Bool :=
    !column.isKey && !column.nullable && CellRow.cell row column.name == .null
  let isTaken (column : String) : Bool :=
    CellRow.cell row column != .null &&
      others.any fun other => CellRow.cell other column == CellRow.cell row column
  match stored.table.columns.find? isMissing with
  | some column => .error (Database.notNull name column.name)
  | none =>
      if isTaken stored.keyName then
        .error (Database.keyTaken name stored.keyName)
      else
        match stored.uniqueColumns.find? isTaken with
        | some column => .error (Database.notUnique name column)
        | none =>
            match stored.singleRowIndexes with
            | index :: _ => if others.isEmpty then .ok () else .error (Database.notSingle index)
            | [] => .ok ()

/-- The key that is next assigned: one more than the greatest, or one. -/
def nextKey (stored : StoredTable) : Int :=
  match (stored.rows.map stored.keyOf).getLast? with
  | some n => n + 1
  | none => 1

/-- The key that a cell is stored as. -/
def keyCell (cell : Cell) : Except Failure Int :=
  match cell.prefer .number with
  | .int n => .ok n
  | _ => .error Database.keyMismatch

/-- The cell of a column of a new row. -/
def newCell (clock : Cell) (given : Record Cell) (column : Column) : Cell :=
  match given.get? column.name with
  | some cell => cell.prefer column.type.affinity
  | none =>
      match column.fallback with
      | some fallback => fallback.cell clock column.type
      | none => .null

/-- Add a row with the given cells; its key is given, too. -/
def add (stored : StoredTable) (clock : Cell) (given : Record Cell) :
    Except Failure (StoredTable × Int) := do
  let key ← match (given.get? stored.keyName).getD .null with
    | .null => .ok stored.nextKey
    | cell => keyCell cell
  let row : CellRow := stored.table.columns.map fun column =>
    (column.name, if column.isKey then .int key else newCell clock given column)
  stored.checkRow stored.rows row
  return ({ stored with rows := stored.insertRow row stored.rows }, key)

/-- A row with other cells in some columns. -/
def changedRow (stored : StoredTable) (given : Record Cell) (row : CellRow) :
    Except Failure CellRow := do
  let key ← match given.get? stored.keyName with
    | some cell => keyCell cell
    | none => .ok (stored.keyOf row)
  return row.map fun (name, old) =>
    match stored.table.column? name with
    | some column =>
        if column.isKey then (name, .int key)
        else
          match given.get? name with
          | some cell => (name, cell.prefer column.type.affinity)
          | none => (name, old)
    | none => (name, old)

/-- Change the cells of several rows, one row after the other. -/
def change (stored : StoredTable) (given : Record Cell) :
    List CellRow → Except Failure StoredTable
  | [] => .ok stored
  | row :: rest => do
      let changed ← stored.changedRow given row
      let others := stored.rows.filter fun other => stored.keyOf other != stored.keyOf row
      stored.checkRow others changed
      ({ stored with rows := stored.insertRow changed others } : StoredTable).change given rest

def scope (stored : StoredTable) (row : CellRow) : Scope :=
  [(stored.table.name, row)]

def matching (stored : StoredTable) (condition : Clause) : List CellRow :=
  stored.rows.filter fun row => Clause.holdAll (stored.scope row).cell [condition]

def remove (stored : StoredTable) (condition : Clause) : StoredTable :=
  { stored with rows := stored.rows.filter fun row =>
      !Clause.holdAll (stored.scope row).cell [condition] }

end StoredTable

namespace Write

/-- The given values in the order of the columns. -/
def given (table : Table) (values : Record Value) : List (Column × Value) :=
  table.columns.filterMap fun column => (values.get? column.name).map fun value => (column, value)

/-- The parameters that values are stored as. -/
def valueParameters (table : Table) (values : Record Value) : List Parameter :=
  (given table values).map fun (column, value) => ⟨.ofColumn column.type, value⟩

/-- The cells that values are stored as. -/
def givenCells (table : Table) (values : Record Value) : Record Cell :=
  (given table values).map fun (column, value) =>
    (column.name, (⟨.ofColumn column.type, value⟩ : Parameter).boundCell)

/-- The columns that an update sets to the current time. -/
def refreshedColumns (table : Table) (values : Record Value) : List String :=
  (table.columns.filter fun column => column.refreshed && !values.has column.name).map (·.name)

def conditions : Write → List Clause
  | .insert .. => []
  | .update _ _ condition | .delete _ condition => [condition]

def parameters (change : Write) : List Parameter :=
  let values := match change with
    | .insert table values | .update table values _ => valueParameters table values
    | .delete .. => []
  values ++ change.conditions.flatMap Clause.parameters

/-- The columns that a write sets. -/
def targets : Write → List String
  | .insert table values => (given table values).map (·.1.name)
  | .update table values _ => (given table values).map (·.1.name) ++ refreshedColumns table values
  | .delete .. => []

/-- Fail unless the stored table has what a write names. -/
def checkNames (change : Write) (stored : StoredTable) : Except Failure Unit := do
  let isMissing (name : String) : Bool := (stored.table.column? name).isNone
  match change.targets.find? isMissing with
  | some name =>
      match change with
      | .insert .. => .error (Database.operational
          ("table " ++ stored.table.name ++ " has no column named " ++ name))
      | _ => .error (Database.noSuchColumn name)
  | none =>
      match (change.conditions.flatMap Clause.columns).find? fun column => isMissing column.name with
      | some column => .error (Database.noSuchColumn (column.source ++ "." ++ column.name))
      | none => .ok ()

/-- The tables after a write, and what it gives. -/
def perform (change : Write) (tables : List StoredTable) (clock : Cell) :
    Except Failure (List StoredTable × Result) := do
  Parameter.checkConversions change.parameters
  let stored ← Database.require tables change.table.name
  change.checkNames stored
  Parameter.checkBindings change.parameters
  match change with
  | .insert table values =>
      let (stored, key) ← stored.add clock (givenCells table values)
      return (Database.replace tables stored, { rowCount := 1, key := .int key })
  | .update table values condition =>
      let refreshed := (refreshedColumns table values).map fun name => (name, clock)
      let rows := stored.matching condition
      let changed ← stored.change (givenCells table values ++ refreshed) rows
      return (Database.replace tables changed, { rowCount := rows.length })
  | .delete _ condition =>
      let rowCount := (stored.matching condition).length
      return (Database.replace tables (stored.remove condition), { rowCount })

end Write
end SchemaStore
