import SchemaStore.Database.Writing
import SchemaStore.Ddl.Render

/-!
# Changing tables

The embedded database creates tables, adds columns, and adds unique indexes.  It
cannot change a column, and an existing table gets no further constraints.
`StoredTable.state` is what the database says about a table.
-/

namespace SchemaStore

namespace Database

/-- A name that stands for two columns. -/
def repeatedName? : List String → Option String
  | [] => none
  | name :: rest => if rest.any (sameName name) then some name else repeatedName? rest

/-- Names that the database keeps for itself. -/
def isReservedName (name : String) : Bool :=
  sameName "sqlite_" (String.ofList (name.toList.take "sqlite_".length))

def reservedName (name : String) : Failure :=
  operational ("object name reserved for internal use: " ++ name)

def hasIndexNamed (tables : List StoredTable) (name : String) : Bool :=
  tables.any fun stored =>
    (stored.indexes.map (·.name) ++ stored.singleRowIndexes).any (sameName name)

def hasTableNamed (tables : List StoredTable) (name : String) : Bool :=
  tables.any fun stored => sameName stored.table.name name

def createTable (tables : List StoredTable) (table : Table) :
    Except Failure (List StoredTable) :=
  if isReservedName table.name then .error (reservedName table.name)
  else if hasTableNamed tables table.name then
    .error (operational ("table " ++ table.name ++ " already exists"))
  else if hasIndexNamed tables table.name then
    .error (operational ("there is already an index named " ++ table.name))
  else
    match repeatedName? (table.columns.map (·.name)) with
    | some name => .error (operational ("duplicate column name: " ++ name))
    | none => .ok (tables ++ [{ table }])

/-- Add a column; rows that are already there take its default, which has to be a constant. -/
def addColumn (tables : List StoredTable) (tableName : String) (column : Column) :
    Except Failure (List StoredTable) := do
  let stored ← require tables tableName
  let isConstant : Bool := match column.fallback with
    | some .now | some .nowOnUpdate => false
    | _ => true
  if stored.table.columns.any fun other => sameName other.name column.name then
    .error (operational ("duplicate column name: " ++ column.name))
  else if !stored.rows.isEmpty && !column.nullable && column.fallback.isNone then
    .error (operational "Cannot add a NOT NULL column with default value NULL")
  else if !stored.rows.isEmpty && !isConstant then
    .error (operational "Cannot add a column with non-constant default")
  else
    let column := { column with isKey := false }
    let cell := StoredTable.newCell .null [] column
    return replace tables { stored with
      table.columns := stored.table.columns ++ [column]
      rows := stored.rows.map fun row => row ++ [(column.name, cell)] }

/-- Whether a cell occurs again among others; a missing one never does. -/
def hasRepeated : List Cell → Bool
  | [] => false
  | .null :: rest => hasRepeated rest
  | cell :: rest => rest.contains cell || hasRepeated rest

/-- Add a unique index to a table.  A quoted name that is no column stands for itself as a text,
which every row has in common. -/
def addIndex (tables : List StoredTable) (tableName : String) (index : UniqueKey)
    (quoted : Bool) : Except Failure (List StoredTable) := do
  let stored ← match tables.find? fun stored => sameName stored.table.name tableName with
    | some stored => .ok stored
    | none => .error (noSuchTable ("main." ++ tableName))
  if isReservedName index.name then .error (reservedName index.name)
  else if hasTableNamed tables index.name then
    .error (operational ("there is already a table named " ++ index.name))
  else if hasIndexNamed tables index.name then
    .error (operational ("index " ++ index.name ++ " already exists"))
  else
    match stored.table.columns.find? fun column => sameName column.name index.column with
    | some column =>
        if hasRepeated (stored.rows.map (CellRow.cell · column.name)) then
          .error (notUnique stored.table.name column.name)
        else
          return replace tables
            { stored with indexes := stored.indexes ++ [⟨index.name, column.name⟩] }
    | none =>
        if !quoted then .error (noSuchColumn index.column)
        else if 1 < stored.rows.length then .error (notSingle index.name)
        else
          return replace tables
            { stored with singleRowIndexes := stored.singleRowIndexes ++ [index.name] }

/-- A statement that the database does not know. -/
def syntaxError (word : String) : Failure :=
  operational ("near \"" ++ word ++ "\": syntax error")

/-- A statement with a null character. -/
def nullCharacter : Failure :=
  .access {
    kind := .statement
    label := "ProgrammingError"
    message := ""
    driver := some { args := [.text "the query contains a null character"] } }

/-- Words of the database that names may not be, although they are not quoted. -/
def unquotedWords : List String := ["nothing", "returning"]

/-- The names of columns and indexes that a change writes. -/
def writtenNames (schema : Schema) : DdlAction → List String
  | .createTable table =>
      match DdlAction.entityOf schema table with
      | .ok entity => entity.fields.keys
      | .error _ => []
  | .addUnique _ field name => [name, field]
  | action => action.field?.toList

/-- Fail if the database cannot read the statements of a change. -/
def checkStatements (schema : Schema) (action : DdlAction) : Except Failure Unit := do
  let statements ← action.statements schema .sqlite
  if statements.any (·.toList.contains '\x00') then .error nullCharacter
  else
    match ((writtenNames schema action).map Dialect.sqlite.readName).find? unquotedWords.contains
    with
    | some word => .error (syntaxError word)
    | none => .ok ()

/-- The tables after a change that a schema declares. -/
def alter (tables : List StoredTable) (schema : Schema) (action : DdlAction) :
    Except Failure (List StoredTable) := do
  checkStatements schema action
  let traits := Dialect.sqlite.traits
  match action with
  | .createTable name => do
      let entity ← DdlAction.entityOf schema name
      createTable tables (entity.table schema traits)
  | .addColumn name field => do
      let declared ← DdlAction.fieldOf schema name field
      addColumn tables name (declared.column field traits)
  | .addUnique name field index =>
      let read := Dialect.sqlite.readName
      addIndex tables (read (DdlAction.indexedTable name)) ⟨read index, read field⟩
        (Dialect.sqlite.needsQuotes field)
  | .alterType .. | .setDefault .. => .error (syntaxError "ALTER")
  | .addForeignKey .. => .error .constraintUnsupported

end Database

namespace StoredTable

/-- A default as the database reports it. -/
def reportedDefault (fallback : ColumnDefault) : Option String :=
  match Dialect.sqlite.defaultText false fallback with
  | .ok text => some text
  | .error _ => none

/-- A column as the database reports it. -/
def liveColumn (column : Column) : LiveColumn :=
  { name := column.name
    type := Text.lower (Dialect.sqlite.typeName column.type)
    default := column.fallback.bind reportedDefault
    nullable := column.nullable }

/-- A table as the database reports it. -/
def state (stored : StoredTable) : TableState :=
  { name := stored.table.name
    present := true
    columns := stored.table.columns.map fun column => (column.name, liveColumn column)
    foreignKeys := stored.table.foreignKeys.map fun key =>
      { name := some key.name
        columns := [key.column]
        referredTable := key.targetTable
        referredColumns := [key.targetColumn] }
    uniqueSets := (stored.table.uniqueKeys ++ stored.indexes).map fun key =>
      ⟨some key.name, [key.column]⟩ }

end StoredTable

namespace Database

/-- A table that was found by a name in other letter case, and then not by its own. -/
def lostTable (name : String) : Failure :=
  .access { kind := .other, label := "NoSuchTableError", message := name }

/-- What the database says about a table. -/
def inspect (tables : List StoredTable) (name : String) : Except Failure TableState :=
  match find? tables name with
  | some stored => .ok stored.state
  | none => if hasTableNamed tables name then .error (lostTable name) else .ok (.missing name)

end Database
end SchemaStore
