import SchemaStore.Ddl.Action
import SchemaStore.Live.State
import SchemaStore.Log
import SchemaStore.Table

/-!
# Plans

`planEntity` compares the declaration of an entity with the live table and finds
the changes that bring the table in line, field by field.  A change that the
backend cannot make in place is withheld instead; both are views of one list of
findings.
-/

namespace SchemaStore

/-- Why a change is withheld. -/
inductive Withheld where
  | noConstantDefault
  | notInPlace
  | tableExists
deriving DecidableEq, Repr

def Withheld.words : Withheld → String
  | .noConstantDefault => "without a constant default"
  | .notInPlace => "in place"
  | .tableExists => "on an existing table"

/-- What the comparison of a declaration with a live table finds. -/
inductive Finding where
  | change (action : DdlAction)
  | withheld (action : DdlAction) (reason : Withheld)
  /-- A foreign key is already there. -/
  | present (name : String)
deriving DecidableEq, Repr

/-- The plan for the table of an entity. -/
structure ReconciliationPlan where
  entity : String
  table : String
  findings : List Finding
deriving DecidableEq, Repr

namespace ReconciliationPlan

/-- The changes to make, in order. -/
def actions (plan : ReconciliationPlan) : List DdlAction :=
  plan.findings.filterMap fun
    | .change action => some action
    | _ => none

/-- The changes that the backend cannot make, in words. -/
def skipped (plan : ReconciliationPlan) : List String :=
  plan.findings.filterMap fun
    | .withheld action _ => some action.describe
    | _ => none

def isEmpty (plan : ReconciliationPlan) : Bool :=
  plan.actions.isEmpty

/-- What planning reports. -/
def log (plan : ReconciliationPlan) (backend : String) : List LogEntry :=
  plan.findings.filterMap fun
    | .change _ => none
    | .withheld action reason =>
        some ⟨.warning, backend ++ " cannot " ++ action.describe ++ " " ++ reason.words ++
          "; skipped"⟩
    | .present name =>
        some ⟨.info, "Foreign key " ++ name ++ " already exists on " ++ plan.table⟩

end ReconciliationPlan

namespace Field

/-- Whether a backend can add the column of a field to a table that has rows. -/
def canBeAdded (field : Field) (traits : BackendTraits) : Bool :=
  traits.addRequiredColumn || field.isOptional ||
    ((field.serverDefault traits).isSome && !field.needsNow)

/-- The changes that an existing column needs, in order. -/
def columnChanges (field : Field) (table name : String) (column : LiveColumn)
    (traits : BackendTraits) : List DdlAction :=
  let plainDefault :=
    field.type == .string && !field.isText && field.defaultText.isSome &&
      column.normalizedDefault != field.defaultText
  let largerText := field.isText && !column.isText
  let missingNow := field.needsNow && !column.hasNowDefault
  let missingOnUpdate := field.isUpdatedAt && traits.onUpdate && !column.hasOnUpdate
  let timestampDefault := field.type == .dateTime && (missingNow || missingOnUpdate)
  let unsignedType := field.reference.isSome && traits.unsigned && !column.isUnsigned
  (if plainDefault then [.setDefault table name] else []) ++
    (if largerText then [.alterType table name .text] else []) ++
    (if timestampDefault then [.setDefault table name] else []) ++
    (if unsignedType then [.alterType table name .unsigned] else [])

/-- What is found about an existing column. -/
def columnFindings (field : Field) (table name : String) (column : LiveColumn)
    (traits : BackendTraits) : List Finding :=
  (field.columnChanges table name column traits).map fun action =>
    if traits.alterColumn then .change action else .withheld action .notInPlace

/-- What is found about the foreign key of a field. -/
def foreignKeyFindings (field : Field) (schema : Schema) (table name : String)
    (live : TableState) (traits : BackendTraits) : List Finding :=
  match field.reference with
  | none => []
  | some reference =>
      let constraint := foreignKeyName table name
      if live.hasForeignKey constraint name then
        [.present constraint]
      else
        match schema.entity? reference.entity with
        | none => []
        | some target =>
            let action := DdlAction.addForeignKey table name constraint target.tableName
              reference.field (field.onDelete.map DeletePolicy.label)
            if traits.addConstraint then [.change action]
            else [.withheld action .tableExists]

/-- What is found about the unique constraint of a field. -/
def uniqueFindings (field : Field) (table name : String) (live : TableState) : List Finding :=
  if field.hasUniqueKey && !live.hasUnique name then
    [.change (.addUnique table name (uniqueName table name))]
  else
    []

/-- What is found about a field.  Nothing more is found about a column that cannot be added. -/
def findings (field : Field) (schema : Schema) (table name : String) (live : TableState)
    (traits : BackendTraits) : List Finding :=
  let constraints :=
    field.foreignKeyFindings schema table name live traits ++ field.uniqueFindings table name live
  match live.columns.get? name with
  | some column => field.columnFindings table name column traits ++ constraints
  | none =>
      if field.canBeAdded traits then .change (.addColumn table name) :: constraints
      else [.withheld (.addColumn table name) .noConstantDefault]

end Field

/-- Check the defaults that a plan depends on: those of columns that can only be added with a
constant default. -/
def Entity.checkPlan (entity : Entity) (live : TableState) (traits : BackendTraits) :
    Except Failure Unit :=
  if live.present then
    entity.fields.forM fun (name, field) =>
      if live.columns.has name || traits.addRequiredColumn || field.isOptional then .ok ()
      else field.checkDefault
  else
    .ok ()

/-- The plan that brings the live table of an entity in line with its declaration. -/
def planEntity (entity : Entity) (schema : Schema) (live : TableState)
    (traits : BackendTraits) : ReconciliationPlan :=
  let table := entity.tableName
  let findings :=
    if live.present then
      entity.fields.flatMap fun (name, field) => field.findings schema table name live traits
    else
      [.change (.createTable table)]
  { entity := entity.name, table, findings }

end SchemaStore
