import Mathlib.Data.List.Nodup
import SchemaStore.Database.Altering
import SchemaStore.Proofs.Ddl.Resumption

/-!
# Freshly created tables

A table that was just created has the columns, the unique keys and most foreign
keys that the plans ask for.  The exception are the foreign keys of ids: creation
leaves them out, and plans ask for them.
-/

namespace SchemaStore

open Finding (changes skips)

/-- What is made of the fields passes a test on the name of one field exactly when what is made
of that field does. -/
theorem any_filterMap_of_nodup {β : Type} {fields : Record Field} (distinct : fields.keys.Nodup)
    {name : String} {field : Field} (declared : (name, field) ∈ fields)
    (make : String × Field → Option β) (test : β → Bool)
    (named : ∀ entry made, make entry = some made → test made = true → entry.1 = name) :
    (fields.filterMap make).any test = (make (name, field)).any test := by
  rw [Bool.eq_iff_iff, List.any_eq_true, Option.any_eq_true]
  constructor
  · rintro ⟨made, member, passes⟩
    obtain ⟨entry, entryDeclared, entryMade⟩ := List.mem_filterMap.mp member
    have same : entry = (name, field) :=
      List.inj_on_of_nodup_map distinct entryDeclared declared (named entry made entryMade passes)
    rw [same] at entryMade
    exact ⟨made, entryMade, passes⟩
  · rintro ⟨made, fieldMade, passes⟩
    exact ⟨made, List.mem_filterMap.mpr ⟨(name, field), declared, fieldMade⟩, passes⟩

theorem Field.column_name (field : Field) (name : String) (traits : BackendTraits) :
    (field.column name traits).name = name := by
  unfold column
  split <;> rfl

theorem Field.foreignKey?_name {field : Field} {schema : Schema} {table name : String}
    {key : ForeignKey} (made : field.foreignKey? schema table name = some key) :
    key.name = foreignKeyName table name ∧ key.column = name := by
  obtain ⟨-, -, -, -, rfl⟩ := foreignKey?_eq_some made
  exact ⟨rfl, rfl⟩

section Entity

variable {entity : Entity} {name : String} {field : Field}

theorem reported_column (distinct : entity.fields.keys.Nodup)
    (declared : (name, field) ∈ entity.fields) (schema : Schema) (traits : BackendTraits) :
    ((entity.table schema traits).reported traits).columns.get? name =
      some ((field.column name traits).reported traits) := by
  have found : entity.fields.find? (fun entry => entry.1 == name) = some (name, field) :=
    find?_eq_some_of_nodup Prod.fst distinct declared
  simp only [Table.reported, Entity.table, Record.get?, List.map_map, List.find?_map,
    Function.comp_def, Column.reported, Field.column_name, found, Option.map_some]

theorem reported_hasForeignKey (distinct : entity.fields.keys.Nodup)
    (declared : (name, field) ∈ entity.fields) (schema : Schema) (traits : BackendTraits) :
    ((entity.table schema traits).reported traits).hasForeignKey
        (foreignKeyName entity.tableName name) name =
      (field.foreignKey? schema entity.tableName name).isSome := by
  simp only [Table.reported, TableState.hasForeignKey, List.any_map, Entity.table]
  rw [any_filterMap_of_nodup distinct declared]
  · cases made : field.foreignKey? schema entity.tableName name with
    | none => rfl
    | some key => simp [(Field.foreignKey?_name made).2]
  · rintro ⟨other, otherField⟩ key made passes
    obtain ⟨keyName, keyColumn⟩ := Field.foreignKey?_name made
    simpa [keyName, keyColumn, foreignKeyName_inj] using passes

theorem reported_hasUnique (distinct : entity.fields.keys.Nodup)
    (declared : (name, field) ∈ entity.fields) (schema : Schema) (traits : BackendTraits) :
    ((entity.table schema traits).reported traits).hasUnique name = field.hasUniqueKey := by
  simp only [Table.reported, TableState.hasUnique, List.any_map, Entity.table]
  rw [any_filterMap_of_nodup distinct declared]
  · cases field.hasUniqueKey <;> simp
  · rintro ⟨other, otherField⟩ key made passes
    dsimp only at made
    split at made
    · cases made
      simpa using passes
    · cases made

/-- The foreign key of an id, which creation leaves out. -/
def Field.omittedForeignKey? (field : Field) (schema : Schema) (table name : String) :
    Option DdlAction :=
  if field.isId then do
    let reference ← field.reference
    let target ← schema.entity? reference.entity
    return .addForeignKey table name (foreignKeyName table name) target.tableName
      reference.field (field.onDelete.map DeletePolicy.label)
  else
    none

/-- On a table that was just created, only the foreign key of an id is missing. -/
theorem findings_reported {schema : Schema} (valid : schema.Valid)
    (member : entity ∈ schema.entities) (declared : (name, field) ∈ entity.fields)
    (traits : BackendTraits) :
    let live := (entity.table schema traits).reported traits
    let omitted := (field.omittedForeignKey? schema entity.tableName name).toList
    let found := field.findings schema entity.tableName name live traits
    changes found = (if traits.addConstraint then omitted else []) ∧
      skips found = if traits.addConstraint then [] else omitted.map DdlAction.describe := by
  intro live omitted found
  have entityValid := valid.entities entity member
  have fieldValid := entityValid.fields name field declared
  have column := reported_column entityValid.distinct declared schema traits
  have settled : field.Settled traits ((field.column name traits).reported traits) :=
    Field.settled_column fieldValid name
  have noColumnFindings :
      field.columnFindings entity.tableName name ((field.column name traits).reported traits)
        traits = [] := by
    rw [Field.columnFindings, (Field.columnChanges_eq_nil_iff fieldValid _ name _).mpr settled]
    rfl
  have noUniqueFindings : field.uniqueFindings entity.tableName name live = [] := by
    rw [Field.uniqueFindings, reported_hasUnique entityValid.distinct declared]
    simp
  have foreignKey := reported_hasForeignKey entityValid.distinct declared schema traits
  have onlyForeignKey :
      found = field.foreignKeyFindings schema entity.tableName name live traits := by
    simp only [found]
    rw [Field.findings_of_column column, Field.constraintFindings, noColumnFindings,
      noUniqueFindings, List.nil_append, List.append_nil]
  rw [onlyForeignKey, Field.foreignKeyFindings]
  cases refers : field.reference with
  | none => simp [omitted, Field.omittedForeignKey?, refers]
  | some reference =>
      obtain ⟨target, targetFound, -⟩ := valid.target_of_reference member declared refers
      cases id : field.isId with
      | false =>
          have has : live.hasForeignKey (foreignKeyName entity.tableName name) name = true := by
            simp [live, foreignKey, Field.foreignKey?, id, refers, targetFound]
          simp [omitted, Field.omittedForeignKey?, id, has]
      | true =>
          have lacks : live.hasForeignKey (foreignKeyName entity.tableName name) name = false := by
            simp [live, foreignKey, Field.foreignKey?, id]
          cases supports : traits.addConstraint <;>
            simp [omitted, Field.omittedForeignKey?, id, refers, targetFound, lacks]

/-- The foreign keys that the creation of the table of an entity leaves out. -/
def Entity.omittedForeignKeys (entity : Entity) (schema : Schema) : List DdlAction :=
  entity.fields.filterMap fun (name, field) =>
    field.omittedForeignKey? schema entity.tableName name

/-- Right after the creation of a table exactly the omitted foreign keys are planned, or skipped
by a backend that cannot add them. -/
theorem planEntity_reported {schema : Schema} (valid : schema.Valid)
    (member : entity ∈ schema.entities) (traits : BackendTraits) :
    let plan := planEntity entity schema ((entity.table schema traits).reported traits) traits
    let omitted := entity.omittedForeignKeys schema
    plan.actions = (if traits.addConstraint then omitted else []) ∧
      plan.skipped = if traits.addConstraint then [] else omitted.map DdlAction.describe := by
  intro plan omitted
  rw [ReconciliationPlan.actions_eq, ReconciliationPlan.skipped_eq, planEntity_findings rfl]
  have fieldFindings (entry : String × Field) (declared : entry ∈ entity.fields) :=
    findings_reported valid member declared traits
  have changesFound : changes (tableFindings entity.fields schema entity.tableName
      ((entity.table schema traits).reported traits) traits) = entity.fields.flatMap fun entry =>
        if traits.addConstraint then
          (entry.2.omittedForeignKey? schema entity.tableName entry.1).toList
        else [] := by
    rw [changes, tableFindings, List.filterMap_flatMap]
    exact List.flatMap_congr fun entry declared => (fieldFindings entry declared).1
  have skipsFound : skips (tableFindings entity.fields schema entity.tableName
      ((entity.table schema traits).reported traits) traits) = entity.fields.flatMap fun entry =>
        if traits.addConstraint then []
        else (entry.2.omittedForeignKey? schema entity.tableName entry.1).toList.map
          DdlAction.describe := by
    rw [skips, tableFindings, List.filterMap_flatMap]
    exact List.flatMap_congr fun entry declared => (fieldFindings entry declared).2
  rw [changesFound, skipsFound]
  simp only [omitted, Entity.omittedForeignKeys, List.filterMap_eq_flatMap_toList]
  cases traits.addConstraint <;> simp [List.map_flatMap]

theorem omittedForeignKeys_eq_nil_iff {schema : Schema} (valid : schema.Valid)
    (member : entity ∈ schema.entities) :
    entity.omittedForeignKeys schema = [] ↔
      ∀ name field, (name, field) ∈ entity.fields → field.isId = true →
        field.reference = none := by
  rw [Entity.omittedForeignKeys, List.filterMap_eq_nil_iff]
  constructor
  · intro noneOmitted name field declared id
    have notOmitted := noneOmitted (name, field) declared
    cases refers : field.reference with
    | none => rfl
    | some reference =>
        obtain ⟨target, targetFound, -⟩ := valid.target_of_reference member declared refers
        simp [Field.omittedForeignKey?, id, refers, targetFound] at notOmitted
  · rintro noReference ⟨name, field⟩ declared
    cases id : field.isId with
    | false => simp [Field.omittedForeignKey?, id]
    | true => simp [Field.omittedForeignKey?, id, noReference name field declared id]

/-- On a table that was just created nothing is planned and nothing is skipped exactly when the
id does not refer to another entity.  The plan can be made in any case. -/
theorem planEntity_created_empty_iff {env : Record String} {text : String} {parsed : Dsl.Parsed}
    (accepted : Dsl.parse env text = .ok parsed) (member : entity ∈ parsed.schema.entities)
    (traits : BackendTraits) :
    let created := (entity.table parsed.schema traits).reported traits
    let plan := planEntity entity parsed.schema created traits
    entity.checkPlan created traits = .ok () ∧
      (plan.actions = [] ∧ plan.skipped = [] ↔
        ∀ name field, (name, field) ∈ entity.fields → field.isId = true →
          field.reference = none) := by
  intro created plan
  have valid := Dsl.parse_valid accepted
  have distinct := (valid.entities entity member).distinct
  constructor
  · have present : created.present = true := rfl
    rw [Entity.checkPlan, if_pos present, Except.forM_eq_ok]
    rintro ⟨name, field⟩ declared
    have has : created.columns.has name = true := by
      rw [Record.has_eq_isSome_get?, reported_column distinct declared]
      rfl
    simp [has]
  · obtain ⟨actions, skipped⟩ := planEntity_reported valid member traits
    rw [← omittedForeignKeys_eq_nil_iff valid member]
    simp only [plan, created, actions, skipped]
    cases traits.addConstraint <;> simp

/-- The plan for new profiles, whose id refers to a user, adds or skips the foreign key. -/
theorem planEntity_created_profiles :
    let text := "datasource db \x7b\nprovider = \"mysql\"\n" ++
      "url = \"mysql://u:p@h/d\"\n\x7d\n" ++
      "model User \x7b\nid Int @id\n\x7d\n" ++
      "model Profile \x7b\nid Int @id @references(User.id)\n\x7d\n"
    let profile : Entity :=
      ⟨"Profile", [("id", { type := .int, isId := true, reference := some ⟨"User", "id"⟩ })]⟩
    let schema : Schema :=
      { datasource := { provider := .mysql, url := "mysql://u:p@h/d" }
        entities := [⟨"User", [("id", { type := .int, isId := true })]⟩, profile] }
    let plan (traits : BackendTraits) : ReconciliationPlan :=
      planEntity profile schema ((profile.table schema traits).reported traits) traits
    let mysql := plan (.ofName "mysql")
    let sqlite := plan (.ofName "sqlite")
    let foreignKey : DdlAction :=
      .addForeignKey "profiles" "id" "profiles_id_foreign" "users" "id" none
    Dsl.parse [] text = .ok ⟨schema, []⟩ ∧ profile ∈ schema.entities ∧
      ¬(mysql.actions = [] ∧ mysql.skipped = []) ∧ mysql.actions = [foreignKey] ∧
      ¬(sqlite.actions = [] ∧ sqlite.skipped = []) ∧ sqlite.skipped = [foreignKey.describe] := by
  intro text profile schema plan mysql sqlite foreignKey
  have accepted : Dsl.parse [] text = .ok ⟨schema, []⟩ := by decide +kernel
  have member : profile ∈ schema.entities := by decide
  have refers : ¬∀ name field, (name, field) ∈ profile.fields → field.isId = true →
      field.reference = none := by
    intro noReference
    exact absurd (noReference "id" _ List.mem_cons_self rfl) (by simp)
  have emptyIff (traits : BackendTraits) :=
    (planEntity_created_empty_iff accepted member traits).2
  refine ⟨accepted, member, ?_, by decide +kernel, ?_, by decide +kernel⟩
  · exact fun empty => refers ((emptyIff _).mp empty)
  · exact fun empty => refers ((emptyIff _).mp empty)

end Entity

namespace StoredTable

private theorem lower_typeName (type : ColumnType) :
    Text.lower (Dialect.sqlite.typeName type) = Dialect.sqlite.traits.typeText type := by
  cases type <;> decide +kernel

/-- The embedded database has no columns that refresh themselves. -/
theorem serverDefault_ne_nowOnUpdate (field : Field) :
    field.serverDefault Dialect.sqlite.traits ≠ some .nowOnUpdate := by
  have noRefresh : Dialect.sqlite.traits.onUpdate = false := rfl
  unfold Field.serverDefault
  rw [noRefresh, Bool.and_false]
  split
  · simp
  · split
    · simp only [Bool.false_eq_true, if_false]
      split <;> simp
    · simp
    · split <;> simp

theorem reportedDefault_eq {fallback : ColumnDefault} (plain : fallback ≠ .nowOnUpdate) :
    reportedDefault fallback = fallback.reported := by
  cases fallback with
  | literal text =>
      rw [ColumnDefault.reported, ← textLiteral_sqlite]
      rfl
  | number text =>
      cases read : readDefaultNumber text with
      | error cause => simp [reportedDefault, Dialect.defaultText, ColumnDefault.reported, read,
          Except.toOption]
      | ok n => simp [reportedDefault, Dialect.defaultText, ColumnDefault.reported, read,
          Except.toOption]
  | now => rfl
  | nowOnUpdate => exact absurd rfl plain

/-- The embedded database shows the column of a field as `Column.reported` has it. -/
theorem liveColumn_column (field : Field) (name : String) :
    liveColumn (field.column name Dialect.sqlite.traits) =
      (field.column name Dialect.sqlite.traits).reported Dialect.sqlite.traits := by
  have plain := serverDefault_ne_nowOnUpdate field
  rw [← Field.column_fallback field name] at plain
  rw [liveColumn, Column.reported, lower_typeName]
  cases fallback : (field.column name Dialect.sqlite.traits).fallback with
  | none => rfl
  | some default =>
      have notRefreshed : default ≠ .nowOnUpdate := by
        rintro rfl
        exact plain fallback
      have extra : default.reportedExtra = "" := by
        cases default with
        | nowOnUpdate => exact absurd rfl notRefreshed
        | _ => rfl
      simp only [Option.bind_some, Option.map_some, Option.getD_some, extra,
        reportedDefault_eq notRefreshed]

/-- The embedded database shows a new table of an entity as `Table.reported` has it. -/
theorem state_created (entity : Entity) (schema : Schema) :
    state { table := entity.table schema Dialect.sqlite.traits } =
      (entity.table schema Dialect.sqlite.traits).reported Dialect.sqlite.traits := by
  have columns (column : Column)
      (member : column ∈ (entity.table schema Dialect.sqlite.traits).columns) :
      liveColumn column = column.reported Dialect.sqlite.traits := by
    obtain ⟨⟨name, field⟩, -, rfl⟩ := List.mem_map.mp member
    exact liveColumn_column field name
  simp only [state, Table.reported, List.append_nil, TableState.mk.injEq, and_true, true_and]
  exact List.map_congr_left fun column member => by rw [columns column member]

end StoredTable
end SchemaStore
