import SchemaStore.Live.Default
import SchemaStore.Schema.Input

/-!
# Live tables

A `TableState` is a snapshot of a table in the database: whether it exists, its
columns with type and default as the backend reports them, its foreign keys and
its unique sets of columns.
-/

namespace SchemaStore

/-- A column as the backend reports it. -/
structure LiveColumn where
  name : String
  /-- The type in small letters. -/
  type : String
  default : Option String := none
  /-- What else the backend says about the column. -/
  extra : String := ""
  nullable : Bool := true
deriving DecidableEq, Repr

/-- A foreign key as the backend reports it. -/
structure LiveForeignKey where
  name : Option String := none
  columns : List String
  referredTable : String
  referredColumns : List String := []
deriving DecidableEq, Repr

/-- A unique constraint or index as the backend reports it. -/
structure LiveUnique where
  name : Option String
  columns : List String
deriving DecidableEq, Repr

/-- A snapshot of a table. -/
structure TableState where
  name : String
  present : Bool := false
  columns : Record LiveColumn := []
  foreignKeys : List LiveForeignKey := []
  uniqueSets : List LiveUnique := []
deriving DecidableEq, Repr

namespace LiveColumn

/-- Whether a text holds some words. -/
def mentions (text words : String) : Bool :=
  Text.occursIn words.toList text.toList

/-- Whether the column holds text of any length. -/
def isText (column : LiveColumn) : Bool :=
  mentions column.type "text"

def isUnsigned (column : LiveColumn) : Bool :=
  mentions column.type "unsigned"

/-- The default without the quotes and parentheses of the backend. -/
def normalizedDefault (column : LiveColumn) : Option String :=
  column.default.map normalizeDefault

/-- The default in small letters; a missing one is empty. -/
def smallDefault (column : LiveColumn) : String :=
  Text.lower (column.default.getD "")

/-- Whether missing values are filled with the current time. -/
def hasNowDefault (column : LiveColumn) : Bool :=
  mentions column.smallDefault "current_timestamp" || mentions column.smallDefault "now()"

/-- Whether the column refreshes itself when its row changes. -/
def hasOnUpdate (column : LiveColumn) : Bool :=
  mentions (Text.lower column.extra) "on update" || mentions column.smallDefault "on update"

/-- Read a column from a record. -/
def ofInput : Reader LiveColumn := fun value => do
  let input ← Reader.entries "ColumnInfo" value
  return {
    name := ← input.require "name" Reader.text
    type := ← input.require "type" Reader.text
    default := ← input.optional "default" none (Reader.optional Reader.text)
    extra := ← input.optional "extra" "" Reader.text
    nullable := ← input.optional "nullable" true Reader.bool }

/-- A column as a record, with what follows from its parts. -/
def toRecord (column : LiveColumn) : Record Value :=
  [("name", .text column.name),
    ("type", .text column.type),
    ("default", .optionalText column.default),
    ("extra", .text column.extra),
    ("nullable", .bool column.nullable),
    ("is_text", .bool column.isText),
    ("is_unsigned", .bool column.isUnsigned),
    ("normalized_default", .optionalText column.normalizedDefault),
    ("has_now_default", .bool column.hasNowDefault),
    ("has_on_update", .bool column.hasOnUpdate)]

end LiveColumn

namespace LiveForeignKey

def ofInput : Reader LiveForeignKey := fun value => do
  let input ← Reader.entries "ForeignKeyInfo" value
  let names := Reader.sequence "tuple" Reader.text
  return {
    name := ← input.optional "name" none (Reader.optional Reader.text)
    columns := ← input.require "columns" names
    referredTable := ← input.require "referred_table" Reader.text
    referredColumns := ← input.optional "referred_columns" [] names }

def toRecord (key : LiveForeignKey) : Record Value :=
  [("name", .optionalText key.name),
    ("columns", .texts key.columns),
    ("referred_table", .text key.referredTable),
    ("referred_columns", .texts key.referredColumns)]

end LiveForeignKey

namespace LiveUnique

/-- Read a unique set from a pair of a name and columns. -/
def ofInput : Reader LiveUnique
  | .sequence _ [name, columns] => do
      return ⟨← Reader.optional Reader.text name,
        ← Reader.sequence "tuple" Reader.text columns⟩
  | .sequence _ [] => .error .required
  | .sequence _ [name] => do
      let _ ← Reader.optional Reader.text name
      .error .required
  | .sequence _ items => .error (.wrongLength 2 items.length)
  | _ => .error (.notSequence "tuple")

/-- A unique set as a pair. -/
def toValue (set : LiveUnique) : Value :=
  .list [.optionalText set.name, .texts set.columns]

end LiveUnique

namespace TableState

/-- The state of a table that does not exist. -/
def missing (name : String) : TableState :=
  { name }

def hasColumn (state : TableState) (name : String) : Bool :=
  state.columns.has name

/-- Whether there is a foreign key of a name, or one on exactly a column. -/
def hasForeignKey (state : TableState) (name column : String) : Bool :=
  state.foreignKeys.any fun key => key.name == some name || key.columns == [column]

/-- Whether a column is unique by itself. -/
def hasUnique (state : TableState) (column : String) : Bool :=
  state.uniqueSets.any fun set => set.columns == [column]

/-- Read a table from a record. -/
def ofInput : Reader TableState := fun value => do
  let input ← Reader.entries "TableState" value
  return {
    name := ← input.require "name" Reader.text
    present := ← input.optional "exists" false Reader.bool
    columns := ← input.optional "columns" [] (Reader.record LiveColumn.ofInput)
    foreignKeys :=
      ← input.optional "foreign_keys" [] (Reader.sequence "list" LiveForeignKey.ofInput)
    uniqueSets := ← input.optional "unique_sets" [] (Reader.sequence "list" LiveUnique.ofInput) }

def toRecord (state : TableState) : Record Value :=
  [("name", .text state.name),
    ("exists", .bool state.present),
    ("columns", .list (state.columns.values.map fun column => .object column.toRecord)),
    ("foreign_keys", .list (state.foreignKeys.map fun key => .object key.toRecord)),
    ("unique_sets", .list (state.uniqueSets.map LiveUnique.toValue))]

end TableState
end SchemaStore
