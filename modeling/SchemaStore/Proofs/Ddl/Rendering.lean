import Mathlib.Data.List.Basic
import SchemaStore.Proofs.Ddl.Declared
import SchemaStore.Proofs.Ddl.Planned
import SchemaStore.Proofs.Dsl.Line
import SchemaStore.Proofs.Dsl.Reading
import SchemaStore.Proofs.Dsl.Valid
import SchemaStore.Proofs.Text.Numeral

/-!
# Plans can be written

Every change that is planned for a schema that was read from a text can be written as
statements, unless the name of a constraint is too long.  What could fail otherwise
was ruled out before: fields and targets have names because they are identifiers,
integer defaults are digits, and a backend that cannot make a change is not asked to.
-/

open SchemaStore.Except (Succeeds)

namespace SchemaStore

/-- The constraints and indexes that a change names. -/
def DdlAction.constraintNames (schema : Schema) (traits : BackendTraits) :
    DdlAction → List String
  | .createTable table =>
      match entityOf schema table with
      | .ok entity =>
          (entity.table schema traits).uniqueKeys.map UniqueKey.name ++
            (entity.table schema traits).foreignKeys.map ForeignKey.name
      | .error _ => []
  | .addForeignKey _ _ name _ _ _ | .addUnique _ _ name => [name]
  | .addColumn .. | .alterType .. | .setDefault .. => []

namespace Dialect

variable (dialect : Dialect)

theorem succeeds_constraintName {name : String} (named : name ≠ "") :
    Succeeds (dialect.constraintName name) ↔ name.length ≤ dialect.maxNameLength := by
  unfold constraintName
  split
  · next long => exact iff_of_false (Except.not_succeeds_error _) (by omega)
  · next short =>
    rw [if_neg (by simpa using named)]
    exact iff_of_true (Except.succeeds_ok _) (by omega)

theorem succeeds_givenName {name : String} (named : name ≠ "") :
    Succeeds (dialect.givenName name) := by
  rw [givenName, if_neg (by simpa using named)]
  exact Except.succeeds_ok _

/-- The default of a field that passes its check can be written. -/
theorem succeeds_defaultText {field : Field} (checked : field.checkDefault = .ok ())
    (inDefinition : Bool) {fallback : ColumnDefault}
    (kept : field.serverDefault dialect.traits = some fallback) :
    Succeeds (dialect.defaultText inDefinition fallback) := by
  cases fallback with
  | literal text => exact Except.succeeds_ok _
  | now => exact Except.succeeds_ok _
  | nowOnUpdate => exact Except.succeeds_ok _
  | number text =>
      obtain ⟨notId, int, written⟩ := Field.of_serverDefault_number kept
      simp only [Field.checkDefault, notId, int, written] at checked
      obtain ⟨n, read, -⟩ := Except.map_eq_ok.mp checked
      exact (Except.succeeds_bind_ok fun n => Except.succeeds_ok _).mpr ⟨n, read⟩

theorem succeeds_defaultClause {field : Field} (checked : field.checkDefault = .ok ())
    (inDefinition : Bool) :
    Succeeds (dialect.defaultClause inDefinition (field.serverDefault dialect.traits)) := by
  cases kept : field.serverDefault dialect.traits with
  | none => exact Except.succeeds_ok _
  | some fallback =>
      exact (Except.succeeds_bind_ok fun text => Except.succeeds_ok _).mpr
        (dialect.succeeds_defaultText checked inDefinition kept)

theorem succeeds_columnDefinition {field : Field} (checked : field.checkDefault = .ok ())
    (name : String) :
    Succeeds (dialect.columnDefinition (field.column name dialect.traits)) := by
  unfold columnDefinition
  dsimp only
  rw [Field.column_fallback]
  refine (Except.succeeds_bind_ok fun text => ?_).mpr
    (dialect.succeeds_defaultClause checked true)
  cases dialect <;> exact Except.succeeds_ok _

theorem restated_fallback (field : Field) (name : String) (traits : BackendTraits) :
    (DdlAction.restated field name traits).fallback = field.serverDefault traits :=
  Field.column_fallback field name

theorem succeeds_restateColumn {field : Field} (checked : field.checkDefault = .ok ())
    (renames : Bool) (table name : String) :
    Succeeds (dialect.restateColumn renames table
      (DdlAction.restated field name dialect.traits)) := by
  unfold restateColumn
  dsimp only
  rw [restated_fallback]
  exact (Except.succeeds_bind_ok fun text => Except.succeeds_ok _).mpr
    (dialect.succeeds_defaultClause checked false)

theorem succeeds_setDefault {field : Field} (checked : field.checkDefault = .ok ())
    (table name : String) :
    Succeeds (dialect.setDefault table (DdlAction.restated field name dialect.traits)) := by
  unfold setDefault
  rw [restated_fallback]
  cases kept : field.serverDefault dialect.traits with
  | none => exact Except.succeeds_ok _
  | some fallback =>
      exact (Except.succeeds_bind_ok fun text => Except.succeeds_ok _).mpr
        (dialect.succeeds_defaultText checked false kept)

theorem succeeds_uniqueDefinition {unique : UniqueKey} (named : unique.name ≠ "") :
    Succeeds (dialect.uniqueDefinition unique) ↔
      unique.name.length ≤ dialect.maxNameLength := by
  rw [← dialect.succeeds_constraintName named]
  exact Except.succeeds_bind_ok fun name => Except.succeeds_ok _

/-- The label of a policy is a policy. -/
theorem isPolicyPhrase_label (policy : DeletePolicy) : isPolicyPhrase policy.label = true := by
  cases policy <;> decide +kernel

theorem succeeds_foreignKeyDefinition {name column targetTable targetColumn : String}
    (onDelete : Option DeletePolicy) (named : name ≠ "") (targetNamed : targetTable ≠ "") :
    Succeeds (dialect.foreignKeyDefinition name column targetTable targetColumn
      (onDelete.map DeletePolicy.label)) ↔ name.length ≤ dialect.maxNameLength := by
  rw [← dialect.succeeds_constraintName named, foreignKeyDefinition]
  refine Except.succeeds_bind_ok fun constraint => ?_
  refine (Except.succeeds_bind_ok fun target => ?_).mpr (dialect.succeeds_givenName targetNamed)
  cases onDelete with
  | none => exact Except.succeeds_ok _
  | some policy =>
      simp only [Option.map_some, isPolicyPhrase_label, if_true]
      exact Except.succeeds_ok _

/-- A table can be created if its columns can be written and no name is too long. -/
theorem succeeds_createTable {table : Table}
    (columns : ∀ column ∈ table.columns, Succeeds (dialect.columnDefinition column))
    (uniquesNamed : ∀ unique ∈ table.uniqueKeys, unique.name ≠ "")
    (keysNamed : ∀ key ∈ table.foreignKeys, key.name ≠ "" ∧ key.targetTable ≠ "") :
    Succeeds (dialect.createTable table) ↔
      ∀ name ∈ table.uniqueKeys.map UniqueKey.name ++ table.foreignKeys.map ForeignKey.name,
        name.length ≤ dialect.maxNameLength := by
  have uniques : Succeeds (table.uniqueKeys.mapM dialect.uniqueDefinition) ↔
      ∀ name ∈ table.uniqueKeys.map UniqueKey.name, name.length ≤ dialect.maxNameLength := by
    rw [Except.succeeds_mapM, List.forall_mem_map]
    exact forall₂_congr fun unique member =>
      dialect.succeeds_uniqueDefinition (uniquesNamed unique member)
  have keys : Succeeds (table.foreignKeys.mapM fun key =>
      dialect.foreignKeyDefinition key.name key.column key.targetTable key.targetColumn
        (key.onDelete.map DeletePolicy.label)) ↔
      ∀ name ∈ table.foreignKeys.map ForeignKey.name, name.length ≤ dialect.maxNameLength := by
    rw [Except.succeeds_mapM, List.forall_mem_map]
    exact forall₂_congr fun key member =>
      dialect.succeeds_foreignKeyDefinition key.onDelete (keysNamed key member).1
        (keysNamed key member).2
  rw [List.forall_mem_append, ← uniques, ← keys, createTable]
  refine (Except.succeeds_bind fun columnTexts _ => ?_).trans
    (and_iff_right (Except.succeeds_mapM.mpr columns))
  refine Except.succeeds_bind fun uniqueTexts _ => ?_
  exact Except.succeeds_bind_ok fun keyTexts => Except.succeeds_ok _

end Dialect

theorem uniqueName_ne_empty (table name : String) : uniqueName table name ≠ "" := by
  simp [uniqueName]

theorem foreignKeyName_ne_empty (table name : String) : foreignKeyName table name ≠ "" := by
  simp [foreignKeyName]

theorem Entity.tableName_ne_empty (entity : Entity) : entity.tableName ≠ "" := by
  simp [tableName]

/-- A text is cut at its last mark. -/
theorem cutLast?_append {mark : Char} {before after : List Char} (last : mark ∉ after) :
    Url.cutLast? mark (before ++ mark :: after) = some (before, after) := by
  have run : (before ++ mark :: after).reverse.takeWhile (· != mark) = after.reverse := by
    have split : (before ++ mark :: after).reverse = after.reverse ++ mark :: before.reverse := by
      simp
    rw [split]
    apply Text.takeWhile_append_stop
    · intro c member
      simp only [List.mem_reverse] at member
      simpa using fun same : c = mark => last (same ▸ member)
    · intro c first
      cases first
      simp
  have shorter : (before ++ mark :: after).length - after.length - 1 = before.length := by
    simp only [List.length_append, List.length_cons]
    omega
  rw [Url.cutLast?, if_pos (by simp), run, List.reverse_reverse]
  simp only [shorter, List.take_left]

namespace DdlAction

/-- A target whose field has no dot in its name is found where it is described. -/
theorem resolveTarget_of_plain (table field targetTable : String) {targetField : String}
    (plain : '.' ∉ targetField.toList) :
    resolveTarget table field targetTable targetField = .ok (targetTable, targetField) := by
  have written : (targetTable ++ "." ++ targetField).toList =
      targetTable.toList ++ '.' :: targetField.toList := by
    simp
  simp only [resolveTarget, written, cutLast?_append plain, Option.getD_some,
    String.ofList_toList]
  simp

theorem requireNames_of_named {names : List String} (named : ∀ name ∈ names, name ≠ "") :
    requireNames names = .ok () := by
  rw [requireNames, if_neg]
  intro nameless
  obtain ⟨name, member, empty⟩ := List.any_eq_true.mp nameless
  exact named name member (by simpa using empty)

end DdlAction

section Statements

variable {schema : Schema} {dialect : Dialect} {entity : Entity} {name : String} {field : Field}

/-- What the entities of a schema need so that their changes can be written. -/
structure Entity.Writable (entity : Entity) : Prop where
  named : ∀ name field, (name, field) ∈ entity.fields → name ≠ ""
  targetNamed : ∀ name field, (name, field) ∈ entity.fields →
    ∀ reference, field.reference = some reference →
      reference.field ≠ "" ∧ '.' ∉ reference.field.toList
  checked : ∀ name field, (name, field) ∈ entity.fields → field.checkDefault = .ok ()

/-- The creation of a table can be written unless a name is too long. -/
theorem succeeds_statements_createTable (valid : schema.Valid)
    (member : entity ∈ schema.entities) (writable : entity.Writable) :
    Succeeds (DdlAction.statements schema dialect (.createTable entity.tableName)) ↔
      ∀ name ∈ DdlAction.constraintNames schema dialect.traits (.createTable entity.tableName),
        name.length ≤ dialect.maxNameLength := by
  have found := valid.entityOf_tableName member
  have created : Succeeds (dialect.createTable (entity.table schema dialect.traits)) ↔
      ∀ name ∈ (entity.table schema dialect.traits).uniqueKeys.map UniqueKey.name ++
          (entity.table schema dialect.traits).foreignKeys.map ForeignKey.name,
        name.length ≤ dialect.maxNameLength := by
    apply dialect.succeeds_createTable
    · intro column columnMember
      obtain ⟨⟨name, field⟩, declared, rfl⟩ := List.mem_map.mp columnMember
      exact dialect.succeeds_columnDefinition (writable.checked name field declared) name
    · intro unique uniqueMember
      obtain ⟨⟨name, field⟩, -, made⟩ := List.mem_filterMap.mp uniqueMember
      dsimp only at made
      split at made
      · cases made
        exact uniqueName_ne_empty _ _
      · cases made
    · intro key keyMember
      obtain ⟨⟨name, field⟩, -, made⟩ := List.mem_filterMap.mp keyMember
      obtain ⟨-, target, -, -, rfl⟩ := Field.foreignKey?_eq_some made
      exact ⟨foreignKeyName_ne_empty _ _, target.tableName_ne_empty⟩
  rw [DdlAction.constraintNames, found, DdlAction.statements, found, ← created]
  exact Except.succeeds_bind_ok fun text => Except.succeeds_ok _

/-- A change that is planned for a field can be written unless it names a constraint and the
name is too long. -/
theorem succeeds_statements_of_plans (valid : schema.Valid) (member : entity ∈ schema.entities)
    (writable : entity.Writable) (declared : (name, field) ∈ entity.fields) {live : TableState}
    {action : DdlAction}
    (plans : field.Plans schema entity.tableName name live dialect.traits action) :
    Succeeds (action.statements schema dialect) ↔
      ∀ constraint ∈ action.constraintNames schema dialect.traits,
        constraint.length ≤ dialect.maxNameLength := by
  have found := valid.fieldOf_tableName member declared
  have checked := writable.checked name field declared
  cases plans with
  | addColumn lacks can =>
      refine iff_of_true ?_ (by simp [DdlAction.constraintNames])
      rw [DdlAction.statements, found]
      exact (Except.succeeds_bind_ok fun text => Except.succeeds_ok _).mpr
        (dialect.succeeds_columnDefinition checked name)
  | alterType target alters =>
      cases dialect with
      | sqlite => cases alters
      | mysql =>
          refine iff_of_true ?_ (by simp [DdlAction.constraintNames])
          simp only [DdlAction.statements, found, checked, Except.ok_bind]
          exact (Except.succeeds_bind_ok fun text => Except.succeeds_ok _).mpr
            (Dialect.mysql.succeeds_restateColumn checked _ _ name)
  | setDefault alters =>
      cases dialect with
      | sqlite => cases alters
      | mysql =>
          refine iff_of_true ?_ (by simp [DdlAction.constraintNames])
          simp only [DdlAction.statements, found, Except.ok_bind]
          cases (DdlAction.restated field name Dialect.mysql.traits).type with
          | timestamp =>
              exact (Except.succeeds_bind_ok fun text => Except.succeeds_ok _).mpr
                (Dialect.mysql.succeeds_restateColumn checked _ _ name)
          | integer | varchar | text =>
              exact (Except.succeeds_bind_ok fun text => Except.succeeds_ok _).mpr
                (Dialect.mysql.succeeds_setDefault checked _ name)
  | addForeignKey reference target constrains refers targetFound lacks =>
      cases dialect with
      | sqlite => cases constrains
      | mysql =>
          obtain ⟨targetNamed, plain⟩ := writable.targetNamed name field declared reference refers
          have described : DdlAction.requireNames [name, reference.field] = .ok () :=
            DdlAction.requireNames_of_named (by
              simp [writable.named name field declared, targetNamed])
          obtain ⟨text, given⟩ := Dialect.mysql.succeeds_givenName entity.tableName_ne_empty
          have keyNamed := foreignKeyName_ne_empty entity.tableName name
          simp only [DdlAction.statements, described, given, Except.ok_bind,
            DdlAction.resolveTarget_of_plain _ _ _ plain]
          rw [DdlAction.constraintNames, List.forall_mem_singleton]
          refine (Except.succeeds_bind fun constraint _ => ?_).trans
            (and_iff_right_of_imp (Dialect.mysql.succeeds_constraintName keyNamed).mpr)
          refine (Except.succeeds_bind_ok fun text => Except.succeeds_ok _).trans ?_
          exact Dialect.mysql.succeeds_foreignKeyDefinition field.onDelete keyNamed
            target.tableName_ne_empty
  | addUnique unique lacks =>
      have described : DdlAction.requireNames [name] = .ok () :=
        DdlAction.requireNames_of_named (by simp [writable.named name field declared])
      rw [DdlAction.statements, described, Except.ok_bind, DdlAction.constraintNames,
        List.forall_mem_singleton, ← dialect.succeeds_constraintName (uniqueName_ne_empty _ _)]
      exact Except.succeeds_bind_ok fun constraint => Except.succeeds_ok _

/-- The defaults of the entities of a schema pass their checks exactly when those of all fields
do. -/
theorem Schema.checkDefaults_eq_ok {schema : Schema} :
    schema.checkDefaults = .ok () ↔ ∀ entity ∈ schema.entities,
      ∀ name field, (name, field) ∈ entity.fields → field.checkDefault = .ok () := by
  rw [Schema.checkDefaults, Except.forM_eq_ok]
  refine forall₂_congr fun entity _ => ?_
  rw [Except.forM_eq_ok, Prod.forall]

/-- If all defaults of an entity can be written, so can those that a plan depends on. -/
theorem Entity.checkPlan_eq_ok
    (checked : ∀ name field, (name, field) ∈ entity.fields → field.checkDefault = .ok ())
    (live : TableState) (traits : BackendTraits) : entity.checkPlan live traits = .ok () := by
  unfold Entity.checkPlan
  split
  · rw [Except.forM_eq_ok]
    rintro ⟨name, field⟩ declared
    dsimp only
    split
    · rfl
    · exact checked name field declared
  · rfl

theorem Entity.Writable.checkPlan (writable : entity.Writable) (live : TableState)
    (traits : BackendTraits) : entity.checkPlan live traits = .ok () :=
  entity.checkPlan_eq_ok writable.checked live traits

/-- The integer defaults of an entity have no more digits than can be read. -/
def Entity.HasShortDefaults (entity : Entity) : Prop :=
  ∀ name field, (name, field) ∈ entity.fields → field.type = .int →
    ∀ text, field.defaultText = some text →
      (text.toList.filter Text.isDecimal).length ≤ Text.maxDigits

/-- The entities of a text that was read can be written. -/
theorem writable_of_parse {env : Record String} {text : String} {parsed : Dsl.Parsed}
    (accepted : Dsl.parse env text = .ok parsed) (member : entity ∈ parsed.schema.entities)
    (short : entity.HasShortDefaults) : entity.Writable := by
  have read (name : String) (field : Field) (declared : (name, field) ∈ entity.fields) :=
    Dsl.parse_read accepted member declared
  constructor
  · rintro name field declared rfl
    cases (read "" field declared).name
  · intro name field declared reference refers
    have named := (read name field declared).target reference refers
    constructor
    · intro empty
      rw [empty] at named
      cases named
    · intro dot
      have inside := Dsl.isIdentifierChar_of_isIdentifier named dot
      cases inside
  · intro name field declared
    unfold Field.checkDefault
    split
    · next int kept =>
      have digits := (read name field declared).integer int _ kept
      obtain ⟨n, integerRead⟩ := Text.readInteger_of_isIntegerText digits
        (short name field declared int _ kept)
      rw [readDefaultNumber, integerRead]
      rfl
    · rfl

/-- Whatever is read from a text can be planned and written: the plan of every entity can be
made, each of its changes leads back to the entity, and the change can be written exactly when
the names of its constraints are not too long.  The tables of the schema can be made, one for
each entity. -/
theorem planEntity_written {env : Record String} {text : String} {parsed : Dsl.Parsed}
    (accepted : Dsl.parse env text = .ok parsed)
    (short : ∀ entity ∈ parsed.schema.entities, entity.HasShortDefaults)
    (member : entity ∈ parsed.schema.entities) (live : TableState) (dialect : Dialect) :
    let schema := parsed.schema
    let tables := schema.tables dialect.traits
    entity.checkPlan live dialect.traits = .ok () ∧
      (∀ action ∈ (planEntity entity schema live dialect.traits).actions,
        DdlAction.entityOf schema action.table = .ok entity ∧
          ((∃ statements, action.statements schema dialect = .ok statements) ↔
            ∀ name ∈ action.constraintNames schema dialect.traits,
              name.length ≤ dialect.maxNameLength)) ∧
      schema.checkDefaults = .ok () ∧
      tables.length = schema.entities.length ∧ tables.keys.Nodup ∧
      ∀ other ∈ schema.entities,
        tables.get? other.key = some (other.table schema dialect.traits) := by
  intro schema tables
  have valid := Dsl.parse_valid accepted
  have writable (other : Entity) (otherMember : other ∈ schema.entities) : other.Writable :=
    writable_of_parse accepted otherMember (short other otherMember)
  have keys : tables.keys = schema.entities.map Entity.key := by
    simp [tables, Schema.tables, Record.keys, Function.comp_def]
  refine ⟨(writable entity member).checkPlan live _, ?_, ?_, by simp [tables, Schema.tables],
    keys ▸ valid.keys_nodup, ?_⟩
  · intro action planned
    have onTable := planEntity_onTable planned
    refine ⟨by rw [onTable]; exact valid.entityOf_tableName member, ?_⟩
    rcases planEntity_cases planned with ⟨-, rfl⟩ | ⟨-, name, field, declared, plans⟩
    · exact succeeds_statements_createTable valid member (writable entity member)
    · exact succeeds_statements_of_plans valid member (writable entity member) declared plans
  · rw [Schema.checkDefaults_eq_ok]
    exact fun other otherMember => (writable other otherMember).checked
  · intro other otherMember
    have found : schema.entities.find? (fun entity => entity.key == other.key) = some other :=
      find?_eq_some_of_nodup Entity.key valid.keys_nodup otherMember
    simp only [tables, Schema.tables, Record.get?, List.find?_map, Function.comp_def, found,
      Option.map_some]

/-- All three changes of a table of posts can be written. -/
theorem planEntity_written_posts :
    let text := "datasource db \x7b\nprovider = \"mysql\"\n" ++
      "url = \"mysql://u:p@h/d\"\n\x7d\n" ++
      "model User \x7b\nid Int @id\n\x7d\nmodel Post \x7b\nid Int @id\n" ++
      "userId Int @references(User.id)\nrank Int @unique @default(-1)\n\x7d\n"
    let user : Entity := ⟨"User", [("id", { type := .int, isId := true })]⟩
    let post : Entity :=
      { name := "Post"
        fields := [("id", { type := .int, isId := true }),
          ("userId", { type := .int, reference := some ⟨"User", "id"⟩ }),
          ("rank", { type := .int, isUnique := true, defaultText := some "-1" })] }
    let schema : Schema :=
      { datasource := { provider := .mysql, url := "mysql://u:p@h/d" }, entities := [user, post] }
    let live : TableState :=
      { name := "posts"
        present := true
        columns := [("id", { name := "id", type := "int unsigned" }),
          ("rank", { name := "rank", type := "int unsigned" })] }
    let actions : List DdlAction :=
      [.addColumn "posts" "userId",
        .addForeignKey "posts" "userId" "posts_userId_foreign" "users" "id" none,
        .addUnique "posts" "rank" "posts_rank_unique"]
    Dsl.parse [] text = .ok ⟨schema, []⟩ ∧ (∀ entity ∈ schema.entities, entity.HasShortDefaults) ∧
      post ∈ schema.entities ∧
      (planEntity post schema live Dialect.mysql.traits).actions = actions ∧
      ∀ action ∈ actions, ∃ statements, action.statements schema .mysql = .ok statements := by
  intro text user post schema live actions
  have accepted : Dsl.parse [] text = .ok ⟨schema, []⟩ := by decide +kernel
  have member : post ∈ schema.entities := by decide
  have short : ∀ entity ∈ schema.entities, entity.HasShortDefaults := by
    have all : ∀ entity ∈ schema.entities, ∀ entry ∈ entity.fields,
        ∀ text ∈ entry.2.defaultText,
          (text.toList.filter Text.isDecimal).length ≤ Text.maxDigits := by
      decide +kernel
    intro entity entityMember name field declared _ text kept
    exact all entity entityMember (name, field) declared text kept
  have planned : (planEntity post schema live Dialect.mysql.traits).actions = actions := by
    decide +kernel
  obtain ⟨-, written, -⟩ := planEntity_written accepted short member live .mysql
  refine ⟨accepted, short, member, planned, ?_⟩
  intro action one
  have names : ∀ action ∈ actions,
      ∀ name ∈ action.constraintNames schema Dialect.mysql.traits,
        name.length ≤ Dialect.mysql.maxNameLength := by
    decide +kernel
  exact (written action (planned ▸ one)).2.mpr (names action one)

theorem uniqueName_length (table name : String) :
    (uniqueName table name).length = table.length + name.length + 8 := by
  have underscore : "_".length = 1 := by decide
  have unique : "_unique".length = 7 := by decide
  simp only [uniqueName, String.length_append, underscore, unique]
  omega

/-- A field may have a name of 243 letters. -/
theorem parse_users_longName :
    let letters := List.replicate 243 'a'
    let text := String.ofList (("datasource db \x7b\nprovider = \"mysql\"\n" ++
      "url = \"mysql://u:p@h/d\"\n\x7d\nmodel User \x7b\nid Int @id\n").toList ++ letters ++
      " String @unique\n\x7d\n".toList)
    let user : Entity :=
      { name := "User"
        fields := [("id", { type := .int, isId := true }),
          (String.ofList letters, { type := .string, isUnique := true })] }
    Dsl.parse [] text = .ok
      { schema :=
          { datasource := { provider := .mysql, url := "mysql://u:p@h/d" }, entities := [user] }
        ignoredKeys := [] } := by
  unfold Dsl.parse
  simp only [Dsl.significantLines_ofList]
  decide +kernel

/-- A unique field with a name of 243 letters is accepted, but the table cannot be created. -/
theorem statements_users_longName :
    let letters := List.replicate 243 'a'
    let text := String.ofList (("datasource db \x7b\nprovider = \"mysql\"\n" ++
      "url = \"mysql://u:p@h/d\"\n\x7d\nmodel User \x7b\nid Int @id\n").toList ++ letters ++
      " String @unique\n\x7d\n".toList)
    let user : Entity :=
      { name := "User"
        fields := [("id", { type := .int, isId := true }),
          (String.ofList letters, { type := .string, isUnique := true })] }
    let schema : Schema :=
      { datasource := { provider := .mysql, url := "mysql://u:p@h/d" }, entities := [user] }
    Dsl.parse [] text = .ok ⟨schema, []⟩ ∧ (∀ entity ∈ schema.entities, entity.HasShortDefaults) ∧
      user ∈ schema.entities ∧
      (planEntity user schema (.missing "users") Dialect.mysql.traits).actions =
        [.createTable "users"] ∧
      ∀ statements, DdlAction.statements schema .mysql (.createTable "users") ≠ .ok statements := by
  intro letters text user schema
  have accepted : Dsl.parse [] text = .ok ⟨schema, []⟩ := parse_users_longName
  have valid : schema.Valid := Dsl.parse_valid accepted
  have member : user ∈ schema.entities := List.mem_singleton_self user
  have short : user.HasShortDefaults := by
    intro other field declared _ written kept
    have fields : ∀ entry ∈ user.fields, entry.2.defaultText = none := by simp [user]
    rw [fields (other, field) declared] at kept
    cases kept
  refine ⟨accepted, List.forall_mem_singleton.mpr short, member, by decide +kernel, ?_⟩
  intro statements written
  have table : user.tableName = "users" := by decide +kernel
  have named : uniqueName "users" (String.ofList letters) ∈
      DdlAction.constraintNames schema Dialect.mysql.traits (.createTable user.tableName) := by
    decide +kernel
  rw [← table] at written
  have fits := (succeeds_statements_createTable valid member
    (writable_of_parse accepted member short)).mp ⟨statements, written⟩ _ named
  have limit : Dialect.mysql.maxNameLength = 255 := rfl
  have tableLength : "users".length = 5 := by decide
  have nameLength : (String.ofList letters).length = 243 :=
    String.length_ofList.trans List.length_replicate
  rw [uniqueName_length, nameLength, limit, tableLength] at fits
  omega

end Statements

end SchemaStore
