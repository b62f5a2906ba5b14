import SchemaStore.Ddl.Action
import SchemaStore.Sql.Dialect

/-!
# Statements that change tables

`DdlAction.statements` gives the statements that make a change.  Columns are
written with type, nullability and default in the order of the dialect; a change
of a column restates what a MySQL server would otherwise forget.  The names of
tables and columns have no limit, those of constraints and indexes do.
-/

namespace SchemaStore

/-- Why a constraint or an index cannot be written. -/
inductive ConstraintDefect where
  /-- A column without a name. -/
  | namelessColumn
  | longName (name : String) (limit : Nat)
  /-- A foreign key to a table that is not described. -/
  | unknownTable (table : String)
  /-- A foreign key to a column that is not described. -/
  | unknownColumn (table column : String)
  /-- A policy that no statement may hold. -/
  | badPolicy (phrase : String)
deriving DecidableEq, Repr

namespace ConstraintDefect

/-- The name under which the access layer raises a defect. -/
def label : ConstraintDefect → String
  | .namelessColumn => "ArgumentError"
  | .longName .. => "IdentifierError"
  | .unknownTable _ => "NoReferencedTableError"
  | .unknownColumn .. => "NoReferencedColumnError"
  | .badPolicy _ => "CompileError"

def message : ConstraintDefect → String
  | .namelessColumn =>
      "Column must be constructed with a non-blank name or assign a non-blank .name before " ++
        "adding to a Table."
  | .longName name limit =>
      "Identifier \x27" ++ name ++ "\x27 exceeds maximum length of " ++ toString limit ++
        " characters"
  | .unknownTable table => "could not find table \x27" ++ table ++ "\x27"
  | .unknownColumn table column =>
      "table \x27" ++ table ++ "\x27 has no column named \x27" ++ column ++ "\x27"
  | .badPolicy phrase => "Unexpected SQL phrase: " ++ Text.quoted phrase

def failure (defect : ConstraintDefect) : Failure :=
  .access { kind := .other, label := defect.label, message := defect.message }

end ConstraintDefect

namespace Dialect

/-- The greatest length of the name of a constraint or an index. -/
def maxNameLength : Dialect → Nat
  | .sqlite => 9999
  | .mysql => 255

def constraintName (dialect : Dialect) (name : String) : Except Failure String :=
  if dialect.maxNameLength < name.length then
    .error (ConstraintDefect.longName name dialect.maxNameLength).failure
  else if name.isEmpty then
    .error .emptyName
  else
    .ok (dialect.name name)

/-- The name of a table that a change gives, which may be empty. -/
def givenName (dialect : Dialect) (name : String) : Except Failure String :=
  if name.isEmpty then .error .emptyName else .ok (dialect.name name)

def typeName : Dialect → ColumnType → String
  | .sqlite, .integer => "INTEGER"
  | .mysql, .integer => "INTEGER UNSIGNED"
  | _, .varchar => "VARCHAR(" ++ toString stringLength ++ ")"
  | _, .text => "TEXT"
  | _, .timestamp => "TIMESTAMP"

/-- A default.  Negative numbers stand between parentheses in the definition of a column. -/
def defaultText (dialect : Dialect) (inDefinition : Bool) :
    ColumnDefault → Except Failure String
  | .literal text => .ok (dialect.textLiteral text)
  | .number text => do
      let n ← readDefaultNumber text
      return if inDefinition && n < 0 then "(" ++ toString n ++ ")" else toString n
  | .now => .ok "CURRENT_TIMESTAMP"
  | .nowOnUpdate => .ok "CURRENT_TIMESTAMP ON UPDATE CURRENT_TIMESTAMP"

/-- The default part of a definition, with a blank before it. -/
def defaultClause (dialect : Dialect) (inDefinition : Bool) :
    Option ColumnDefault → Except Failure String
  | none => .ok ""
  | some fallback => return " DEFAULT " ++ (← dialect.defaultText inDefinition fallback)

/-- The definition of a column in a new table. -/
def columnDefinition (dialect : Dialect) (column : Column) : Except Failure String := do
  let head := dialect.name column.name ++ " " ++ dialect.typeName column.type
  let fallback ← dialect.defaultClause true column.fallback
  match dialect with
  | .sqlite => return head ++ fallback ++ if column.nullable then "" else " NOT NULL"
  | .mysql =>
      let nullability :=
        if !column.nullable then " NOT NULL"
        else if column.type == .timestamp then " NULL"
        else ""
      return head ++ nullability ++ fallback ++ if column.isKey then " AUTO_INCREMENT" else ""

def uniqueDefinition (dialect : Dialect) (unique : UniqueKey) : Except Failure String := do
  return "CONSTRAINT " ++ (← dialect.constraintName unique.name) ++
    " UNIQUE (" ++ dialect.name unique.column ++ ")"

/-- Whether a text is a policy, in any letter case; a line feed may end it. -/
def isPolicyPhrase (phrase : String) : Bool :=
  let folded := (withoutLineFeed phrase).map Text.foldSimple
  DeletePolicy.all.any fun policy => policy.label.toList.map Text.foldSimple == folded

def foreignKeyDefinition (dialect : Dialect) (name column targetTable targetColumn : String)
    (onDelete : Option String) : Except Failure String := do
  let constraint ← dialect.constraintName name
  let target ← dialect.givenName targetTable
  let policy ← match onDelete with
    | some phrase =>
        if isPolicyPhrase phrase then pure (" ON DELETE " ++ phrase)
        else throw (ConstraintDefect.badPolicy phrase).failure
    | none => pure ""
  return "CONSTRAINT " ++ constraint ++ " FOREIGN KEY(" ++ dialect.name column ++
    ") REFERENCES " ++ target ++ " (" ++ dialect.name targetColumn ++ ")" ++ policy

def createTable (dialect : Dialect) (table : Table) : Except Failure String := do
  let columns ← table.columns.mapM dialect.columnDefinition
  let keyColumns := (table.columns.filter (·.isKey)).map fun column => dialect.name column.name
  let key := "PRIMARY KEY (" ++ Text.joinWith ", " keyColumns ++ ")"
  let uniques ← table.uniqueKeys.mapM dialect.uniqueDefinition
  let foreignKeys ← table.foreignKeys.mapM fun foreign =>
    dialect.foreignKeyDefinition foreign.name foreign.column foreign.targetTable
      foreign.targetColumn (foreign.onDelete.map DeletePolicy.label)
  return "CREATE TABLE " ++ dialect.name table.name ++ " ( " ++
    Text.joinWith ", " (columns ++ [key] ++ uniques ++ foreignKeys) ++ " )"

/-- The start of a statement that changes a table. -/
def alterTable (dialect : Dialect) (table : String) : String :=
  "ALTER TABLE " ++ dialect.name table ++ " "

/-- The start of a statement that changes a column. -/
def alterColumn (dialect : Dialect) (table : String) (column : Column) : String :=
  dialect.alterTable table ++ "ALTER COLUMN " ++ dialect.name column.name ++ " "

/-- The statement that states a column anew; `renames` also states its name. -/
def restateColumn (dialect : Dialect) (renames : Bool) (table : String) (column : Column) :
    Except Failure String := do
  let name := dialect.name column.name
  let verb := if renames then "CHANGE " ++ name ++ " " ++ name else "MODIFY " ++ name
  return dialect.alterTable table ++ verb ++ " " ++ dialect.typeName column.type ++
    (if column.nullable then " NULL" else " NOT NULL") ++
    (← dialect.defaultClause false column.fallback)

/-- The statement that changes the type of a column without restating it. -/
def setType (dialect : Dialect) (table : String) (column : Column) : String :=
  dialect.alterColumn table column ++ "TYPE " ++ dialect.typeName column.type

/-- The statement that changes the default of a column without restating it. -/
def setDefault (dialect : Dialect) (table : String) (column : Column) :
    Except Failure String := do
  match column.fallback with
  | none => return dialect.alterColumn table column ++ "DROP DEFAULT"
  | some fallback =>
      return dialect.alterColumn table column ++ "SET DEFAULT " ++
        (← dialect.defaultText false fallback)

end Dialect

namespace DdlAction

/-- The entity that is kept in a table. -/
def entityOf (schema : Schema) (table : String) : Except Failure Entity :=
  match schema.entities.find? (·.tableName == table) with
  | some entity => .ok entity
  | none => .error (.own (.reconciliation ("No model maps to table " ++ table) {}))

/-- The field that a change of a table is about. -/
def fieldOf (schema : Schema) (table field : String) : Except Failure Field := do
  let entity ← entityOf schema table
  match entity.fields.get? field with
  | some declared => .ok declared
  | none => .error .missingKey

/-- The column that a change of an existing column restates. -/
def restated (declared : Field) (name : String) (traits : BackendTraits) : Column :=
  { declared.column name traits with nullable := declared.isOptional }

/-- Columns that a change describes have to have names. -/
def requireNames (columns : List String) : Except Failure Unit :=
  if columns.any (·.isEmpty) then .error ConstraintDefect.namelessColumn.failure else .ok ()

/-- The table and the column that a foreign key refers to.  They are named together, the last
dot separates them, and they are looked up among what the change describes. -/
def resolveTarget (table field targetTable targetField : String) :
    Except Failure (String × String) :=
  let written := (targetTable ++ "." ++ targetField).toList
  let (tablePart, columnPart) := (Url.cutLast? '.' written).getD (written, [])
  let target := (String.ofList tablePart, String.ofList columnPart)
  let described := [(targetTable, targetField), (table, field)]
  if !described.any (·.1 == target.1) then
    .error (ConstraintDefect.unknownTable target.1).failure
  else if !described.contains target then
    .error (ConstraintDefect.unknownColumn target.1 target.2).failure
  else
    .ok target

/-- The table that an index is made on; one without a name has a name of its own. -/
def indexedTable (table : String) : String :=
  if table.isEmpty then "no_table" else table

/-- The statements that make a change, in order. -/
def statements (schema : Schema) (dialect : Dialect) : DdlAction → Except Failure (List String)
  | .createTable table => do
      let entity ← entityOf schema table
      return [← dialect.createTable (entity.table schema dialect.traits)]
  | .addColumn table field => do
      let column := (← fieldOf schema table field).column field dialect.traits
      return [dialect.alterTable table ++ "ADD COLUMN " ++ (← dialect.columnDefinition column)]
  | .alterType table field _ => do
      let column := restated (← fieldOf schema table field) field dialect.traits
      (← fieldOf schema table field).checkDefault
      match dialect with
      | .sqlite => return [dialect.setType table column]
      | .mysql => return [← dialect.restateColumn (column.type == .timestamp) table column]
  | .setDefault table field => do
      let column := restated (← fieldOf schema table field) field dialect.traits
      match dialect, column.type with
      | .sqlite, .timestamp =>
          return [← dialect.setDefault table column, dialect.setType table column]
      | .mysql, .timestamp =>
          return [← dialect.restateColumn column.fallback.isSome table column]
      | _, _ => return [← dialect.setDefault table column]
  | .addForeignKey table field name targetTable targetField onDelete => do
      requireNames [field, targetField]
      match dialect with
      | .sqlite => .error .constraintUnsupported
      | .mysql =>
          let _ ← dialect.givenName table
          let _ ← dialect.constraintName name
          let (remoteTable, remoteColumn) ← resolveTarget table field targetTable targetField
          return [dialect.alterTable table ++ "ADD " ++
            (← dialect.foreignKeyDefinition name field remoteTable remoteColumn onDelete)]
  | .addUnique table field name => do
      requireNames [field]
      return ["CREATE UNIQUE INDEX " ++ (← dialect.constraintName name) ++ " ON " ++
        dialect.name (indexedTable table) ++ " (" ++ dialect.name field ++ ")"]

end DdlAction
end SchemaStore
