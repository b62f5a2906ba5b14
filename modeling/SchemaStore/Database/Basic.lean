import SchemaStore.Database.Condition
import SchemaStore.Database.Timestamp
import SchemaStore.Error.Classify

/-!
# Databases

A `Database` keeps tables with their rows in the order of their ids.  A write is
kept apart until it is made permanent.  Failures are worded like those of the
embedded database that is modelled.
-/

namespace SchemaStore

/-- The cells of a row by column. -/
abbrev CellRow := Record Cell

/-- A table with its rows, in the order of their ids. -/
structure StoredTable where
  table : Table
  /-- Unique indexes that were added later. -/
  indexes : List UniqueKey := []
  /-- Unique indexes of no column, by name: they allow a single row. -/
  singleRowIndexes : List String := []
  rows : List CellRow := []
deriving DecidableEq, Repr

/-- Tables with rows, and a clock. -/
structure Database where
  tables : List StoredTable := []
  /-- The tables as they will be when the current write is made permanent. -/
  pending : Option (List StoredTable) := none
  clock : Moment
deriving DecidableEq, Repr

/-- A failure that a database reports under a name. -/
def Failure.reported (label code text : String) : Failure :=
  .access {
    kind := .statement
    label
    message := ""
    driver := some { args := [.text text], attributes := [("sqlite_errorname", .text code)] } }

namespace Database

/-- A statement that cannot be carried out. -/
def operational (text : String) : Failure :=
  .reported "OperationalError" "SQLITE_ERROR" text

def noSuchTable (name : String) : Failure :=
  operational ("no such table: " ++ name)

def noSuchColumn (name : String) : Failure :=
  operational ("no such column: " ++ name)

def notNull (table column : String) : Failure :=
  .reported "IntegrityError" "SQLITE_CONSTRAINT_NOTNULL"
    ("NOT NULL constraint failed: " ++ table ++ "." ++ column)

def keyTaken (table column : String) : Failure :=
  .reported "IntegrityError" "SQLITE_CONSTRAINT_PRIMARYKEY"
    ("UNIQUE constraint failed: " ++ table ++ "." ++ column)

def notUnique (table column : String) : Failure :=
  .reported "IntegrityError" "SQLITE_CONSTRAINT_UNIQUE"
    ("UNIQUE constraint failed: " ++ table ++ "." ++ column)

/-- A row that an index of no column does not allow. -/
def notSingle (index : String) : Failure :=
  .reported "IntegrityError" "SQLITE_CONSTRAINT_UNIQUE"
    ("UNIQUE constraint failed: index \x27" ++ index ++ "\x27")

def keyMismatch : Failure :=
  .reported "IntegrityError" "SQLITE_MISMATCH" "datatype mismatch"

/-- Two names that the database does not tell apart: they differ at most in the case of ASCII
letters. -/
def sameName (first second : String) : Bool :=
  first.map Char.toLower == second.map Char.toLower

/-- The table of a name. -/
def find? (tables : List StoredTable) (name : String) : Option StoredTable :=
  tables.find? (·.table.name == name)

/-- The table of a name, which has to exist. -/
def require (tables : List StoredTable) (name : String) : Except Failure StoredTable :=
  match find? tables name with
  | some stored => .ok stored
  | none => .error (noSuchTable name)

/-- Replace the table of the same name. -/
def replace (tables : List StoredTable) (stored : StoredTable) : List StoredTable :=
  tables.map fun other => if other.table.name == stored.table.name then stored else other

/-- The current time as it is stored. -/
def now (database : Database) : Cell :=
  .text (database.clock.dateText ++ " " ++ database.clock.timeText false)

end Database

namespace CellRow

def cell (row : CellRow) (column : String) : Cell :=
  (Record.get? row column).getD .null

end CellRow

namespace StoredTable

def keyName (stored : StoredTable) : String :=
  ((stored.table.columns.find? (·.isKey)).map (·.name)).getD ""

def keyOf (stored : StoredTable) (row : CellRow) : Int :=
  match CellRow.cell row stored.keyName with
  | .int n => n
  | _ => 0

/-- The columns that are unique by themselves. -/
def uniqueColumns (stored : StoredTable) : List String :=
  (stored.table.uniqueKeys ++ stored.indexes).map (·.column)

/-- Put a row among others in the order of their keys. -/
def insertRow (stored : StoredTable) (row : CellRow) : List CellRow → List CellRow
  | [] => [row]
  | other :: rest =>
      if stored.keyOf row < stored.keyOf other then row :: other :: rest
      else other :: stored.insertRow row rest

theorem insertRow_perm (stored : StoredTable) (row : CellRow) (rows : List CellRow) :
    (stored.insertRow row rows).Perm (row :: rows) := by
  induction rows with
  | nil => exact .refl _
  | cons other rest induction =>
      unfold insertRow
      split
      · exact .refl _
      · exact (induction.cons other).trans (.swap row other rest)

end StoredTable

/-- The cell that a default fills in. -/
def ColumnDefault.cell (clock : Cell) (type : ColumnType) : ColumnDefault → Cell
  | .literal s => (Cell.text s).prefer type.affinity
  | .number s => (Cell.ofInt ((Text.readInteger s).toOption.getD 0)).prefer type.affinity
  | .now | .nowOnUpdate => clock

/-- The value that a cell is read as from a column. -/
def ColumnType.read (type : ColumnType) (cell : Cell) : Except Failure Value :=
  match type, cell with
  | _, .null => .ok .null
  | .timestamp, .text s =>
      match Moment.ofText? s with
      | some m => .ok (.scalar (.moment m))
      | none => .error .unreadableValue
  | .timestamp, _ => .error .nonTextValue
  | _, .int n => .ok (.int n)
  | _, .real x => .ok (.scalar (.real x))
  | _, .text s => .ok (.text s)
  | _, .blob octets => .ok (.scalar (.bytes octets))

end SchemaStore
