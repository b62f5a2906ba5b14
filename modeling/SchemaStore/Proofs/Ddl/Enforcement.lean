import SchemaStore.Proofs.Ddl.Resumption
import SchemaStore.Proofs.Live.Reported

/-!
# What an empty plan says about the live table

A plan that changes nothing and skips nothing says of each declared field that its column is
there, that type and default of the column are settled, and that the constraints on the column
are there.  A foreign key is known by its name or by its column; which table it refers to is not
compared.
-/

namespace SchemaStore

open Finding (changes skips)

namespace Finding

/-- There is nothing to change, and nothing is skipped. -/
def Quiet (findings : List Finding) : Prop :=
  changes findings = [] ∧ skips findings = []

theorem quiet_nil : Quiet [] :=
  ⟨rfl, rfl⟩

theorem quiet_append_iff {findings others : List Finding} :
    Quiet (findings ++ others) ↔ Quiet findings ∧ Quiet others := by
  simp only [Quiet, changes_append, skips_append, List.append_eq_nil_iff]
  exact and_and_and_comm

theorem quiet_flatMap_iff {α : Type} {items : List α} {find : α → List Finding} :
    Quiet (items.flatMap find) ↔ ∀ item ∈ items, Quiet (find item) := by
  simp only [Quiet, changes, skips, List.filterMap_flatMap, List.flatMap_eq_nil_iff, ← forall_and]

theorem not_quiet_change {action : DdlAction} {others : List Finding} :
    ¬Quiet (.change action :: others) := by
  simp [Quiet]

theorem not_quiet_withheld {action : DdlAction} {reason : Withheld} {others : List Finding} :
    ¬Quiet (.withheld action reason :: others) := by
  simp [Quiet]

end Finding

open Finding (Quiet)

namespace Field

/-- A live table has what the declaration of a field asks of it. -/
structure InPlace (field : Field) (table name : String) (live : TableState)
    (traits : BackendTraits) : Prop where
  column : ∃ column, live.columns.get? name = some column ∧ field.Settled traits column
  foreignKey : field.reference.isSome →
    live.hasForeignKey (foreignKeyName table name) name = true
  unique : field.hasUniqueKey = true → live.hasUnique name = true

variable {field : Field} {schema : Schema} {table name : String} {live : TableState}
  {traits : BackendTraits}

theorem quiet_columnFindings_iff (valid : field.Valid) {column : LiveColumn} :
    Quiet (field.columnFindings table name column traits) ↔ field.Settled traits column := by
  rw [← columnChanges_eq_nil_iff valid table name column, columnFindings]
  cases field.columnChanges table name column traits with
  | nil => simp [Finding.quiet_nil]
  | cons action others =>
      rw [List.map_cons]
      split <;> simp [Finding.not_quiet_change, Finding.not_quiet_withheld]

theorem quiet_foreignKeyFindings_iff
    (known : ∀ reference, field.reference = some reference →
      ∃ target, schema.entity? reference.entity = some target) :
    Quiet (field.foreignKeyFindings schema table name live traits) ↔
      (field.reference.isSome → live.hasForeignKey (foreignKeyName table name) name = true) := by
  constructor
  · intro quiet refers
    obtain ⟨reference, declared⟩ := Option.isSome_iff_exists.mp refers
    obtain ⟨target, found⟩ := known reference declared
    apply Decidable.byContradiction
    intro missing
    simp only [foreignKeyFindings, declared, if_neg missing, found] at quiet
    split at quiet
    · exact Finding.not_quiet_change quiet
    · exact Finding.not_quiet_withheld quiet
  · intro has
    cases declared : field.reference with
    | none =>
        rw [foreignKeyFindings, declared]
        exact Finding.quiet_nil
    | some reference =>
        exact foreignKeyFindings_of_has field schema traits (has (by simp [declared]))

theorem quiet_uniqueFindings_iff :
    Quiet (field.uniqueFindings table name live) ↔
      (field.hasUniqueKey = true → live.hasUnique name = true) := by
  unfold uniqueFindings
  split
  · next lacks =>
    simp only [Bool.and_eq_true, Bool.not_eq_true'] at lacks
    simp [Finding.not_quiet_change, lacks]
  · next settled =>
    simp only [Bool.and_eq_true, Bool.not_eq_true', not_and, Bool.not_eq_false] at settled
    exact iff_of_true Finding.quiet_nil settled

/-- Nothing is found about a field, apart from foreign keys that are there, exactly when it is in
place. -/
theorem quiet_findings_iff (valid : field.Valid)
    (known : ∀ reference, field.reference = some reference →
      ∃ target, schema.entity? reference.entity = some target) :
    Quiet (field.findings schema table name live traits) ↔ field.InPlace table name live traits := by
  cases found : live.columns.get? name with
  | none =>
      rw [findings_of_missing found]
      constructor
      · intro quiet
        split at quiet
        · exact absurd quiet Finding.not_quiet_change
        · exact absurd quiet Finding.not_quiet_withheld
      · intro inPlace
        obtain ⟨column, there, -⟩ := inPlace.column
        cases found.symm.trans there
  | some column =>
      rw [findings_of_column found, constraintFindings, Finding.quiet_append_iff,
        Finding.quiet_append_iff, quiet_columnFindings_iff valid,
        quiet_foreignKeyFindings_iff known, quiet_uniqueFindings_iff]
      constructor
      · rintro ⟨settled, foreignKey, unique⟩
        exact ⟨⟨column, found, settled⟩, foreignKey, unique⟩
      · intro inPlace
        obtain ⟨other, there, settled⟩ := inPlace.column
        cases found.symm.trans there
        exact ⟨settled, inPlace.foreignKey, inPlace.unique⟩

end Field

/-- A plan for a table that exists changes nothing and skips nothing exactly when all declared
fields are in place. -/
theorem planEntity_quiet_iff {entity : Entity} {schema : Schema} {live : TableState}
    {traits : BackendTraits} (valid : schema.Valid) (member : entity ∈ schema.entities)
    (present : live.present = true) :
    (planEntity entity schema live traits).actions = [] ∧
        (planEntity entity schema live traits).skipped = [] ↔
      ∀ name field, (name, field) ∈ entity.fields →
        field.InPlace entity.tableName name live traits := by
  have entityValid := valid.entities entity member
  have each {name : String} {field : Field} (declared : (name, field) ∈ entity.fields) :
      Quiet (field.findings schema entity.tableName name live traits) ↔
        field.InPlace entity.tableName name live traits := by
    apply Field.quiet_findings_iff (entityValid.fields name field declared)
    intro reference refers
    obtain ⟨target, found, -⟩ := valid.target_of_reference member declared refers
    exact ⟨target, found⟩
  rw [ReconciliationPlan.actions_eq, ReconciliationPlan.skipped_eq, planEntity_findings present]
  constructor
  · intro quiet name field declared
    exact (each declared).mp (Finding.quiet_flatMap_iff.mp quiet (name, field) declared)
  · intro inPlace
    apply Finding.quiet_flatMap_iff.mpr
    rintro ⟨name, field⟩ declared
    exact (each declared).mpr (inPlace name field declared)

/-- A column of a live table, and the constraints on it, enforce the declaration of a field.  What
the texts of a server mention is what the column is in the forms that the server gives to types
other than enumerations and sets, and to defaults of times. -/
structure Field.Enforced (field : Field) (table name : String) (live : TableState)
    (column : LiveColumn) : Prop where
  plainDefault : field.type = .string → field.isText = false →
    ∀ text, field.defaultText = some text →
      ∃ reported, column.default = some reported ∧ Denotes reported.toList text.toList
  largeText : field.isText = true →
    LiveColumn.mentions column.type "text" = true ∧
      ∀ type : ServerType, column.type = type.text → type.word ∈ textTypes
  currentTime : field.needsNow = true →
    column.hasNowDefault = true ∧
      ∀ default : TimeDefault, column.default = some default.text →
        ∃ precision, default = .current precision
  refreshed : field.isUpdatedAt = true →
    column.hasOnUpdate = true ∧
      ∀ default : TimeDefault, column.default = some default.text →
        LiveColumn.mentions (Text.lower column.extra) "on update" = true
  unsigned : field.reference.isSome →
    LiveColumn.mentions column.type "unsigned" = true ∧
      ∀ type : ServerType, column.type = type.text → type.unsigned = true
  foreignKey : field.reference.isSome →
    ∃ key ∈ live.foreignKeys,
      key.name = some (foreignKeyName table name) ∨ key.columns = [name]
  unique : field.isUnique = true → field.isId = false →
    ∃ set ∈ live.uniqueSets, set.columns = [name]

namespace LiveColumn

theorem exists_default_of_normalizedDefault {column : LiveColumn} {text : String}
    (normalized : column.normalizedDefault = some text) :
    ∃ reported, column.default = some reported ∧ Denotes reported.toList text.toList := by
  obtain ⟨reported, default, rfl⟩ := Option.map_eq_some_iff.mp normalized
  exact ⟨reported, default, Denotes.normalizeDefault reported⟩

end LiveColumn

namespace TableState

theorem exists_foreignKey_of_has {live : TableState} {constraint name : String}
    (has : live.hasForeignKey constraint name = true) :
    ∃ key ∈ live.foreignKeys, key.name = some constraint ∨ key.columns = [name] := by
  obtain ⟨key, member, matched⟩ := List.any_eq_true.mp has
  simp only [Bool.or_eq_true, beq_iff_eq] at matched
  exact ⟨key, member, matched⟩

theorem exists_set_of_hasUnique {live : TableState} {name : String}
    (has : live.hasUnique name = true) : ∃ set ∈ live.uniqueSets, set.columns = [name] := by
  obtain ⟨set, member, alone⟩ := List.any_eq_true.mp has
  exact ⟨set, member, beq_iff_eq.mp alone⟩

end TableState

/-- A field that is in place in a table of a MySQL server is enforced by the table. -/
theorem Field.InPlace.enforced {field : Field} {table name : String} {live : TableState}
    (inPlace : field.InPlace table name live (BackendTraits.ofName "mysql")) :
    ∃ column, live.columns.get? name = some column ∧ field.Enforced table name live column := by
  obtain ⟨column, found, settled⟩ := inPlace.column
  refine ⟨column, found, ?_⟩
  constructor
  · intro string short text declared
    exact LiveColumn.exists_default_of_normalizedDefault
      (settled.plainDefault string short text declared)
  · intro large
    have mentioned := settled.largeText large
    refine ⟨mentioned, ?_⟩
    intro type reported
    rw [LiveColumn.isText, reported] at mentioned
    exact type.mentions_text.mp mentioned
  · intro needs
    have now := settled.currentTime needs
    exact ⟨now, fun default reported => TimeDefault.isCurrent_of_hasNowDefault reported now⟩
  · intro updatedAt
    have refreshes := settled.refreshed updatedAt rfl
    exact ⟨refreshes, fun default reported => TimeDefault.extra_of_hasOnUpdate reported refreshes⟩
  · intro refers
    have mentioned := settled.unsigned refers rfl
    refine ⟨mentioned, ?_⟩
    intro type reported
    rw [LiveColumn.isUnsigned, reported] at mentioned
    exact type.mentions_unsigned.mp mentioned
  · intro refers
    exact TableState.exists_foreignKey_of_has (inPlace.foreignKey refers)
  · intro unique notId
    apply TableState.exists_set_of_hasUnique
    apply inPlace.unique
    simp [Field.hasUniqueKey, unique, notId]

/-- A plan for a table of a MySQL server that changes nothing and skips nothing means that the
table has a column for each declared field, and enforces the declaration of the field. -/
theorem planEntity_enforces {entity : Entity} {schema : Schema} {live : TableState}
    (valid : schema.Valid) (member : entity ∈ schema.entities) (present : live.present = true)
    (unchanged : (planEntity entity schema live (BackendTraits.ofName "mysql")).actions = [])
    (complete : (planEntity entity schema live (BackendTraits.ofName "mysql")).skipped = []) :
    ∀ name field, (name, field) ∈ entity.fields →
      ∃ column, live.columns.get? name = some column ∧
        field.Enforced entity.tableName name live column := by
  intro name field declared
  have inPlace := (planEntity_quiet_iff valid member present).mp ⟨unchanged, complete⟩
  exact (inPlace name field declared).enforced

/-- A table of posts whose author, title, body and time are as declared. -/
theorem planEntity_enforces_posts :
    let post : Entity :=
      { name := "Post"
        fields := [("id", { type := .int, isId := true }),
          ("authorId", { type := .int, reference := some ⟨"User", "id"⟩ }),
          ("title", { type := .string, isUnique := true, defaultText := some "a'b" }),
          ("body", { type := .string, isText := true }),
          ("at", { type := .dateTime, isUpdatedAt := true })] }
    let schema : Schema :=
      { datasource := { provider := .mysql, url := "mysql://u:p@h/d" }
        entities := [⟨"User", [("id", { type := .int, isId := true })]⟩, post] }
    let live : TableState :=
      { name := "posts"
        present := true
        columns := [("id", { name := "id", type := "int unsigned" }),
          ("authorId", { name := "authorId", type := "int unsigned" }),
          ("title", { name := "title", type := "varchar(255)", default := some "'a''b'" }),
          ("body", { name := "body", type := "mediumtext" }),
          ("at", { name := "at", type := "timestamp", default := some "CURRENT_TIMESTAMP"
                   extra := "DEFAULT_GENERATED on update CURRENT_TIMESTAMP" })]
        foreignKeys := [{ columns := ["authorId"], referredTable := "users" }]
        uniqueSets := [⟨some "title", ["title"]⟩] }
    let plan := planEntity post schema live (BackendTraits.ofName "mysql")
    schema.Valid ∧ post ∈ schema.entities ∧ live.present = true ∧
      plan.actions = [] ∧ plan.skipped = [] ∧
      ∀ name field, (name, field) ∈ post.fields →
        ∃ column, live.columns.get? name = some column ∧
          field.Enforced "posts" name live column := by
  intro post schema live plan
  have valid : schema.Valid := by decide +kernel
  have member : post ∈ schema.entities := by decide
  have unchanged : plan.actions = [] := by decide +kernel
  have complete : plan.skipped = [] := by decide +kernel
  have table : post.tableName = "posts" := by decide +kernel
  refine ⟨valid, member, rfl, unchanged, complete, ?_⟩
  rw [← table]
  exact planEntity_enforces valid member rfl unchanged complete

/-- A key of the expected name and column that refers to another table, an enumeration with a
member "text", and a text "now()" as the default of a column of texts are not told from what was
declared. -/
theorem planEntity_overlooks_accounts :
    let post : Entity :=
      { name := "Post"
        fields := [("id", { type := .int, isId := true }),
          ("authorId", { type := .int, reference := some ⟨"User", "id"⟩ }),
          ("body", { type := .string, isText := true }),
          ("seen", { type := .dateTime, defaultText := some "now()" })] }
    let schema : Schema :=
      { datasource := { provider := .mysql, url := "mysql://u:p@h/d" }
        entities := [⟨"User", [("id", { type := .int, isId := true })]⟩, post] }
    let live : TableState :=
      { name := "posts"
        present := true
        columns := [("id", { name := "id", type := "int unsigned" }),
          ("authorId", { name := "authorId", type := "int unsigned" }),
          ("body", { name := "body", type := "enum('text','html')" }),
          ("seen", { name := "seen", type := "varchar(20)", default := some "now()" })]
        foreignKeys := [{ name := some "posts_authorId_foreign", columns := ["authorId"]
                          referredTable := "accounts", referredColumns := ["id"] }] }
    let plan := planEntity post schema live (BackendTraits.ofName "mysql")
    schema.Valid ∧ post ∈ schema.entities ∧ live.present = true ∧
      plan.actions = [] ∧ plan.skipped = [] ∧
      (schema.entity? "User").map Entity.tableName = some "users" ∧
      (¬∃ key ∈ live.foreignKeys, key.columns = ["authorId"] ∧ key.referredTable = "users") ∧
      (∃ column, live.columns.get? "body" = some column ∧ column.type ∉ textTypes) ∧
      ∃ column, live.columns.get? "seen" = some column ∧
        column.type ∉ ["timestamp", "datetime"] := by
  intro post schema live plan
  have valid : schema.Valid := by decide +kernel
  refine ⟨valid, by decide, rfl, by decide +kernel, by decide +kernel, by decide +kernel,
    by decide, ⟨_, rfl, by decide⟩, ⟨_, rfl, by decide⟩⟩

end SchemaStore
