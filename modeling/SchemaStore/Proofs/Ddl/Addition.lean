import SchemaStore.Proofs.Ddl.Creation
import SchemaStore.Proofs.Ddl.Rendering

/-!
# Columns that can be added to rows

The embedded database adds a column to a table that has rows only if the rows have something to
take for it: the column may be null or has a default, and the default is a constant.  A plan asks
so much of required columns.  An optional column is added whatever its default is.
-/

open SchemaStore.Except (Succeeds)

namespace SchemaStore

/-- The embedded database adds the column to a table that has rows. -/
structure Column.Addable (column : Column) : Prop where
  ordinary : column.isKey = false
  constant : column.fallback ≠ some .now ∧ column.fallback ≠ some .nowOnUpdate
  filled : column.nullable = true ∨ column.fallback.isSome

namespace Field

variable {field : Field} {name : String}

theorem column_isKey (field : Field) (name : String) (traits : BackendTraits) :
    (field.column name traits).isKey = field.isId := by
  unfold column
  split
  · next id => exact id.symm
  · next ordinary => exact (Bool.eq_false_iff.mpr ordinary).symm

theorem column_nullable (field : Field) (name : String) (traits : BackendTraits) :
    (field.column name traits).nullable = (!field.isId && field.isOptional) := by
  unfold column
  split
  · next id => simp [id]
  · next ordinary => simp [ordinary]

theorem serverDefault_eq_now_iff (valid : field.Valid) :
    field.serverDefault Dialect.sqlite.traits = some .now ↔ field.needsNow = true := by
  constructor
  · intro now
    unfold serverDefault at now
    split at now
    · cases now
    · split at now
      · split at now
        · cases now
        · split at now
          · next needs => exact needs
          · simp at now
      · simp at now
      · split at now
        · cases now
        · simp at now
  · intro needs
    have noRefresh : Dialect.sqlite.traits.onUpdate = false := rfl
    rw [serverDefault_now valid needs, noRefresh, Bool.and_false, if_neg Bool.false_ne_true]

/-- What the declaration of a field says about adding its column. -/
theorem addable_column_iff (valid : field.Valid) (name : String) :
    (field.column name Dialect.sqlite.traits).Addable ↔
      field.isId = false ∧ field.needsNow = false ∧
        (field.isOptional = true ∨ (field.serverDefault Dialect.sqlite.traits).isSome) := by
  have now : field.serverDefault Dialect.sqlite.traits ≠ some .now ↔ field.needsNow = false := by
    rw [ne_eq, serverDefault_eq_now_iff valid, Bool.not_eq_true]
  constructor
  · rintro ⟨ordinary, constant, filled⟩
    rw [column_isKey] at ordinary
    rw [column_fallback] at constant filled
    rw [column_nullable, ordinary] at filled
    exact ⟨ordinary, now.mp constant.1, filled⟩
  · rintro ⟨ordinary, constant, filled⟩
    refine ⟨?_, ?_, ?_⟩
    · rw [column_isKey, ordinary]
    · rw [column_fallback]
      exact ⟨now.mpr constant, StoredTable.serverDefault_ne_nowOnUpdate field⟩
    · rw [column_fallback, column_nullable, ordinary]
      exact filled

/-- The column of a field can be written exactly if its default passes the check. -/
theorem succeeds_columnDefinition_iff (dialect : Dialect) (name : String) :
    Succeeds (dialect.columnDefinition (field.column name dialect.traits)) ↔
      field.checkDefault = .ok () := by
  constructor
  · rintro ⟨definition, written⟩
    obtain ⟨fallback, clause, -⟩ := Except.bind_eq_ok.mp written
    rw [column_fallback] at clause
    unfold checkDefault
    split
    · next text ordinary int kept =>
      have number : field.serverDefault dialect.traits = some (.number text) := by
        simp [serverDefault, ordinary, int, kept]
      rw [number] at clause
      obtain ⟨words, spelled, -⟩ := Except.bind_eq_ok.mp clause
      obtain ⟨n, read, -⟩ := Except.bind_eq_ok.mp spelled
      rw [read]
      rfl
    · rfl
  · exact fun checked => dialect.succeeds_columnDefinition checked name

/-- A required column that can be added has a constant default. -/
theorem canBeAdded_sqlite_iff (valid : field.Valid) (name : String)
    (required : field.isOptional = false) :
    field.canBeAdded Dialect.sqlite.traits = true ↔
      (field.column name Dialect.sqlite.traits).Addable := by
  have bare : Dialect.sqlite.traits.addRequiredColumn = false := rfl
  rw [addable_column_iff valid, canBeAdded, bare, required]
  simp only [Bool.or_self, Bool.false_or, Bool.and_eq_true, Bool.not_eq_true',
    Bool.false_eq_true, false_or]
  constructor
  · rintro ⟨kept, plain⟩
    refine ⟨?_, plain, kept⟩
    apply Bool.eq_false_iff.mpr
    intro id
    simp [serverDefault, id] at kept
  · rintro ⟨-, plain, kept⟩
    exact ⟨kept, plain⟩

end Field

/-- The column of an id has nothing that rows could take. -/
theorem Field.not_filled_of_isId {field : Field} (id : field.isId = true) (name : String)
    (traits : BackendTraits) :
    (field.column name traits).nullable = false ∧ (field.column name traits).fallback = none := by
  rw [column_nullable, column_fallback]
  simp [serverDefault, id]

namespace Database

/-- The embedded database adds a column to a table that has rows if its default is a constant and
the rows have something to take for it. -/
theorem succeeds_addColumn_iff {tables : List StoredTable} {table : String} {stored : StoredTable}
    (found : require tables table = .ok stored) (rows : stored.rows ≠ []) {column : Column}
    (fresh : ∀ other ∈ stored.table.columns, sameName other.name column.name = false) :
    Succeeds (addColumn tables table column) ↔
      (column.fallback ≠ some .now ∧ column.fallback ≠ some .nowOnUpdate) ∧
        (column.nullable = true ∨ column.fallback.isSome) := by
  have filled : stored.rows.isEmpty = false := List.isEmpty_eq_false_iff.mpr rows
  have unnamed : (stored.table.columns.any fun other => sameName other.name column.name) = false :=
    List.any_eq_false.mpr fun other member => by simp [fresh other member]
  simp only [addColumn, found, Except.ok_bind, unnamed, filled]
  cases nullable : column.nullable with
  | true =>
      cases fallback : column.fallback with
      | none => simp [Succeeds, Except.pure_eq_ok]
      | some kept => cases kept <;> simp [Succeeds, Except.pure_eq_ok]
  | false =>
      cases fallback : column.fallback with
      | none => simp [Succeeds]
      | some kept => cases kept <;> simp [Succeeds, Except.pure_eq_ok]

theorem succeeds_addColumn_column_iff {tables : List StoredTable} {table : String}
    {stored : StoredTable} (found : require tables table = .ok stored) (rows : stored.rows ≠ [])
    (field : Field) {name : String}
    (fresh : ∀ other ∈ stored.table.columns, sameName other.name name = false) :
    Succeeds (addColumn tables table (field.column name Dialect.sqlite.traits)) ↔
      (field.column name Dialect.sqlite.traits).Addable := by
  rw [succeeds_addColumn_iff found rows (by rwa [Field.column_name])]
  constructor
  · rintro ⟨constant, filled⟩
    refine ⟨?_, constant, filled⟩
    rw [Field.column_isKey]
    apply Bool.eq_false_iff.mpr
    intro id
    obtain ⟨required, bare⟩ := field.not_filled_of_isId id name Dialect.sqlite.traits
    simp [required, bare] at filled
  · exact fun addable => ⟨addable.constant, addable.filled⟩

end Database

section Plan

variable {entity : Entity} {schema : Schema} {live : TableState} {traits : BackendTraits}
  {name : String} {field : Field}

/-- A plan that adds the column of a field found that it is missing and can be added. -/
theorem canBeAdded_of_planned (distinct : entity.fields.keys.Nodup)
    (declared : (name, field) ∈ entity.fields)
    (planned : .addColumn entity.tableName name ∈
      (planEntity entity schema live traits).actions) :
    live.present = true ∧ live.columns.has name = false ∧ field.canBeAdded traits = true := by
  rcases planEntity_cases planned with ⟨-, other⟩ | ⟨present, other, otherField, there, plans⟩
  · cases other
  · cases plans with
    | addColumn lacks can =>
        have same : (name, otherField) = (name, field) :=
          List.inj_on_of_nodup_map distinct there declared rfl
        cases same
        exact ⟨present, lacks, can⟩

/-- A plan depends on the default of a required column that is missing. -/
theorem checkDefault_of_checkPlan (present : live.present = true)
    (checked : entity.checkPlan live Dialect.sqlite.traits = .ok ())
    (declared : (name, field) ∈ entity.fields) (lacks : live.columns.has name = false)
    (required : field.isOptional = false) : field.checkDefault = .ok () := by
  rw [Entity.checkPlan, if_pos present, Except.forM_eq_ok] at checked
  have bare : Dialect.sqlite.traits.addRequiredColumn = false := rfl
  simpa [lacks, required, bare] using checked (name, field) declared

/-- A column that a plan adds on the embedded database can be written and be added to a table that
has rows, exactly if its field is required, or is not the id, does not need the current time and
has a default that can be read.  The rule for such a column is what the database does. -/
theorem planEntity_adds_iff {env : Record String} {text : String} {parsed : Dsl.Parsed}
    (accepted : Dsl.parse env text = .ok parsed) (member : entity ∈ parsed.schema.entities)
    (declared : (name, field) ∈ entity.fields)
    (checked : entity.checkPlan live Dialect.sqlite.traits = .ok ())
    (planned : .addColumn entity.tableName name ∈
      (planEntity entity parsed.schema live Dialect.sqlite.traits).actions) :
    let column := field.column name Dialect.sqlite.traits
    let change := DdlAction.addColumn entity.tableName name
    (Succeeds (change.statements parsed.schema .sqlite) ∧ column.Addable ↔
      (field.isOptional = true →
        field.isId = false ∧ field.needsNow = false ∧ field.checkDefault = .ok ())) ∧
      (∀ definition, Dialect.sqlite.columnDefinition column = .ok definition →
        change.statements parsed.schema .sqlite =
          .ok [Dialect.sqlite.alterTable entity.tableName ++ "ADD COLUMN " ++ definition]) ∧
      ∀ tables stored, Database.require tables entity.tableName = .ok stored →
        stored.rows ≠ [] →
        (∀ other ∈ stored.table.columns, Database.sameName other.name name = false) →
        (Succeeds (Database.addColumn tables entity.tableName column) ↔ column.Addable) := by
  intro column change
  have schemaValid := Dsl.parse_valid accepted
  have valid := (schemaValid.entities entity member).fields name field declared
  obtain ⟨present, lacks, can⟩ := canBeAdded_of_planned
    (schemaValid.entities entity member).distinct declared planned
  have statements : change.statements parsed.schema .sqlite = (do
      return [Dialect.sqlite.alterTable entity.tableName ++ "ADD COLUMN " ++
        (← Dialect.sqlite.columnDefinition column)]) := by
    rw [DdlAction.statements, schemaValid.fieldOf_tableName member declared]
    rfl
  have written : Succeeds (change.statements parsed.schema .sqlite) ↔
      field.checkDefault = .ok () := by
    rw [← Field.succeeds_columnDefinition_iff .sqlite name, statements]
    exact Except.succeeds_bind_ok fun definition => Except.succeeds_ok _
  refine ⟨?_, fun definition spelled => by rw [statements, spelled]; rfl,
    fun tables stored found rows fresh =>
      Database.succeeds_addColumn_column_iff found rows field fresh⟩
  rw [written]
  cases optional : field.isOptional with
  | true =>
      rw [field.addable_column_iff valid name]
      constructor
      · rintro ⟨readable, ordinary, plain, -⟩ -
        exact ⟨ordinary, plain, readable⟩
      · intro sound
        obtain ⟨ordinary, plain, readable⟩ := sound rfl
        exact ⟨readable, ordinary, plain, .inl optional⟩
  | false =>
      refine iff_of_true ⟨?_, ?_⟩ fun isOptional => absurd isOptional Bool.false_ne_true
      · exact checkDefault_of_checkPlan present checked declared lacks optional
      · exact (Field.canBeAdded_sqlite_iff valid name optional).mp can

/-- A plan adds two columns to a table of users; rows can take the role, but not the optional time
of insertion. -/
theorem planEntity_adds_users :
    let text := "datasource db \x7b\nprovider = \"sqlite\"\nurl = \"file:dev.db\"\n\x7d\n" ++
      "model User \x7b\nid Int @id\nrole String @default(\"guest\")\n" ++
      "seen DateTime? @default(now())\n\x7d\n"
    let role : Field := { type := .string, defaultText := some "guest" }
    let seen : Field := { type := .dateTime, isOptional := true, defaultText := some "now()" }
    let user : Entity :=
      { name := "User", fields := [("id", { type := .int, isId := true }), ("role", role),
          ("seen", seen)] }
    let schema : Schema :=
      { datasource := { provider := .sqlite, url := "file:dev.db" }, entities := [user] }
    let live : TableState :=
      { name := "users", present := true, columns := [("id", { name := "id", type := "integer" })] }
    let traits := Dialect.sqlite.traits
    Dsl.parse [] text = .ok ⟨schema, []⟩ ∧ user ∈ schema.entities ∧
      (planEntity user schema live traits).actions =
        [.addColumn "users" "role", .addColumn "users" "seen"] ∧
      user.checkPlan live traits = .ok () ∧
      (role.column "role" traits).Addable ∧ ¬(seen.column "seen" traits).Addable := by
  intro text role seen user schema live traits
  have accepted : Dsl.parse [] text = .ok ⟨schema, []⟩ := by decide +kernel
  have member : user ∈ schema.entities := List.mem_singleton_self user
  have planned : (planEntity user schema live traits).actions =
      [.addColumn "users" "role", .addColumn "users" "seen"] := by decide +kernel
  have checked : user.checkPlan live traits = .ok () := rfl
  have adds (name : String) (field : Field) (declared : (name, field) ∈ user.fields)
      (adds : .addColumn user.tableName name ∈ (planEntity user schema live traits).actions) :=
    (planEntity_adds_iff accepted member declared checked adds).1
  refine ⟨accepted, member, planned, checked, ?_, ?_⟩
  · have sound := adds "role" role (by decide) (by rw [planned]; decide +kernel)
    exact (sound.mpr nofun).2
  · have sound := adds "seen" seen (by decide) (by rw [planned]; decide +kernel)
    intro addable
    cases (sound.mp ⟨by decide +kernel, addable⟩ rfl).2.1

end Plan

end SchemaStore
