import SchemaStore.Schema.Input

/-!
# Changes of tables

A `DdlAction` is one change that brings a table closer to its declaration.
-/

namespace SchemaStore

/-- What the type of a column is changed to. -/
inductive TypeTarget where
  | text
  | unsigned
deriving DecidableEq, Repr

def TypeTarget.label : TypeTarget → String
  | .text => "text"
  | .unsigned => "unsigned"

/-- One change of a table. -/
inductive DdlAction where
  | createTable (table : String)
  | addColumn (table field : String)
  | alterType (table field : String) (target : TypeTarget)
  | setDefault (table field : String)
  | addForeignKey (table field name targetTable targetField : String)
      (onDelete : Option String)
  | addUnique (table field name : String)
deriving DecidableEq, Repr

namespace DdlAction

/-- The name of a kind of change. -/
def kindLabel : DdlAction → String
  | .createTable .. => "create_table"
  | .addColumn .. => "add_column"
  | .alterType .. => "alter_column_type"
  | .setDefault .. => "set_default"
  | .addForeignKey .. => "add_foreign_key"
  | .addUnique .. => "add_unique"

def kindLabels : List String :=
  ["create_table", "add_column", "alter_column_type", "set_default", "add_foreign_key",
    "add_unique"]

/-- The table that a change is made to. -/
def table : DdlAction → String
  | .createTable table | .addColumn table _ | .alterType table _ _ | .setDefault table _
  | .addForeignKey table _ _ _ _ _ | .addUnique table _ _ => table

/-- The field that a change is about, unless it is about the whole table. -/
def field? : DdlAction → Option String
  | .createTable _ => none
  | .addColumn _ field | .alterType _ field _ | .setDefault _ field
  | .addForeignKey _ field _ _ _ _ | .addUnique _ field _ => some field

/-- A change in words. -/
def describe : DdlAction → String
  | .createTable table => "create table " ++ table
  | .addColumn table field => "add column " ++ table ++ "." ++ field
  | .alterType table field target =>
      "alter " ++ table ++ "." ++ field ++ " type to " ++ target.label
  | .setDefault table field => "set default of " ++ table ++ "." ++ field
  | .addForeignKey table field name targetTable targetField _ =>
      "add foreign key " ++ name ++ " (" ++ table ++ "." ++ field ++ " → " ++ targetTable ++
        "." ++ targetField ++ ")"
  | .addUnique _ _ name => "add unique constraint " ++ name

/-- Whether a refusal because a name is taken means that the change is already made. -/
def isAbsorbable : DdlAction → Bool
  | .addForeignKey .. | .addUnique .. => true
  | _ => false

def toRecord (action : DdlAction) : Record Value :=
  let parts : Record Value := match action with
    | .createTable table => [("table", .text table)]
    | .addColumn table field | .setDefault table field =>
        [("table", .text table), ("field", .text field)]
    | .alterType table field target =>
        [("table", .text table), ("field", .text field), ("target", .text target.label)]
    | .addForeignKey table field name targetTable targetField onDelete =>
        [("table", .text table), ("field", .text field), ("name", .text name),
          ("target_table", .text targetTable), ("target_field", .text targetField),
          ("on_delete", .optionalText onDelete)]
    | .addUnique table field name =>
        [("table", .text table), ("field", .text field), ("name", .text name)]
  ("kind", .text action.kindLabel) :: parts

/-- Read a change from a record. -/
def ofInput : Reader DdlAction := fun value => do
  let input : Record Value ← match value with
    | .object entries => .ok entries
    | _ => .error .notDescription
  let text (key : String) := input.require key Reader.text
  match input.get? "kind" with
  | none => .error .missingTag
  | some (.scalar (.text kind)) =>
      match kind with
      | "create_table" => return .createTable (← text "table")
      | "add_column" => return .addColumn (← text "table") (← text "field")
      | "alter_column_type" =>
          return .alterType (← text "table") (← text "field")
            (← input.require "target" (Reader.choice [.text, .unsigned] TypeTarget.label))
      | "set_default" => return .setDefault (← text "table") (← text "field")
      | "add_foreign_key" =>
          return .addForeignKey (← text "table") (← text "field") (← text "name")
            (← text "target_table") (← text "target_field")
            (← input.optional "on_delete" none (Reader.optional Reader.text))
      | "add_unique" =>
          return .addUnique (← text "table") (← text "field") (← text "name")
      | _ => .error (.unknownTag kind kindLabels)
  | some other => .error (.unknownTag other.display kindLabels)

end DdlAction
end SchemaStore
