import SchemaStore.Proofs.Ddl.Findings

/-!
# What a plan holds

The changes of a plan, one by one: each of them is made on behalf of one field of
the table, for a reason that the live table and the traits of the backend give.
-/

namespace SchemaStore

open Finding (changes)

/-- A change that is planned on behalf of a field of a table that exists, and why. -/
inductive Field.Plans (field : Field) (schema : Schema) (table name : String)
    (live : TableState) (traits : BackendTraits) : DdlAction → Prop where
  | addColumn (lacks : live.columns.has name = false)
      (can : field.canBeAdded traits = true) :
      Plans field schema table name live traits (.addColumn table name)
  | alterType (target : TypeTarget) (alters : traits.alterColumn = true) :
      Plans field schema table name live traits (.alterType table name target)
  | setDefault (alters : traits.alterColumn = true) :
      Plans field schema table name live traits (.setDefault table name)
  | addForeignKey (reference : Reference) (target : Entity)
      (constrains : traits.addConstraint = true)
      (refers : field.reference = some reference)
      (found : schema.entity? reference.entity = some target)
      (lacks : live.hasForeignKey (foreignKeyName table name) name = false) :
      Plans field schema table name live traits
        (.addForeignKey table name (foreignKeyName table name) target.tableName
          reference.field (field.onDelete.map DeletePolicy.label))
  | addUnique (unique : field.hasUniqueKey = true) (lacks : live.hasUnique name = false) :
      Plans field schema table name live traits (.addUnique table name (uniqueName table name))

namespace Field

variable {field : Field} {schema : Schema} {table name : String} {live : TableState}
  {traits : BackendTraits} {action : DdlAction}

theorem Plans.onBehalf (plans : field.Plans schema table name live traits action) :
    action.OnBehalf table name := by
  cases plans with
  | addColumn => exact .addColumn
  | alterType target => exact .alterType target
  | setDefault => exact .setDefault
  | addForeignKey => exact .addForeignKey _ _ _
  | addUnique => exact .addUnique

theorem plans_of_columnFindings {column : LiveColumn}
    (planned : action ∈ changes (field.columnFindings table name column traits)) :
    field.Plans schema table name live traits action := by
  cases alters : traits.alterColumn with
  | false => simp [columnFindings, alters, changes, Finding.change?] at planned
  | true =>
      simp only [columnFindings, alters, changes, Finding.change?, List.filterMap_map,
        Function.comp_def, if_true, List.filterMap_some, columnChanges, List.mem_append,
        List.mem_ite_nil_right, List.mem_singleton] at planned
      rcases planned with ((⟨-, rfl⟩ | ⟨-, rfl⟩) | ⟨-, rfl⟩) | ⟨-, rfl⟩
      · exact .setDefault alters
      · exact .alterType .text alters
      · exact .setDefault alters
      · exact .alterType .unsigned alters

theorem plans_of_foreignKeyFindings
    (planned : action ∈ changes (field.foreignKeyFindings schema table name live traits)) :
    field.Plans schema table name live traits action := by
  unfold foreignKeyFindings at planned
  split at planned
  · cases planned
  · next reference refers =>
    dsimp only at planned
    split at planned
    · cases planned
    · next lacks =>
      split at planned
      · cases planned
      · next target found =>
        split at planned
        · next constrains =>
          rw [List.mem_singleton.mp planned]
          exact .addForeignKey reference target constrains refers found
            (Bool.eq_false_iff.mpr lacks)
        · cases planned

theorem plans_of_uniqueFindings
    (planned : action ∈ changes (field.uniqueFindings table name live)) :
    field.Plans schema table name live traits action := by
  unfold uniqueFindings at planned
  split at planned
  · next needed =>
    obtain ⟨unique, lacks⟩ := Bool.and_eq_true_iff.mp needed
    rw [List.mem_singleton.mp planned]
    exact .addUnique unique (by simpa using lacks)
  · cases planned

/-- Every change that is found for a field is one of the five that can be planned for it. -/
theorem plans_of_findings
    (planned : action ∈ changes (field.findings schema table name live traits)) :
    field.Plans schema table name live traits action := by
  have ofConstraints (constraint : action ∈ changes
      (field.foreignKeyFindings schema table name live traits ++
        field.uniqueFindings table name live)) :
      field.Plans schema table name live traits action := by
    rw [Finding.changes_append, List.mem_append] at constraint
    exact constraint.elim plans_of_foreignKeyFindings plans_of_uniqueFindings
  unfold findings at planned
  dsimp only at planned
  split at planned
  · rw [Finding.changes_append, List.mem_append] at planned
    exact planned.elim plans_of_columnFindings ofConstraints
  · next missing =>
    split at planned
    · next can =>
      rw [Finding.changes_change, List.mem_cons] at planned
      rcases planned with rfl | constraint
      · exact .addColumn (by rw [Record.has_eq_isSome_get?, missing]; rfl) can
      · exact ofConstraints constraint
    · cases planned

end Field

theorem DdlAction.OnBehalf.table {action : DdlAction} {table name : String}
    (onBehalf : action.OnBehalf table name) : action.table = table := by
  cases onBehalf <;> rfl

section Plan

variable {entity : Entity} {schema : Schema} {live : TableState} {traits : BackendTraits}
  {action : DdlAction}

/-- A plan creates the table, or makes changes on behalf of its fields if it exists. -/
theorem planEntity_cases
    (planned : action ∈ (planEntity entity schema live traits).actions) :
    live.present = false ∧ action = .createTable entity.tableName ∨
      live.present = true ∧ ∃ name field, (name, field) ∈ entity.fields ∧
        field.Plans schema entity.tableName name live traits action := by
  rw [ReconciliationPlan.actions_eq] at planned
  cases present : live.present with
  | false =>
      simp only [planEntity, present, Bool.false_eq_true, if_false] at planned
      exact .inl ⟨rfl, List.mem_singleton.mp planned⟩
  | true =>
      simp only [planEntity, present, if_true, changes, List.filterMap_flatMap,
        List.mem_flatMap] at planned
      obtain ⟨⟨name, field⟩, declared, found⟩ := planned
      exact .inr ⟨rfl, name, field, declared, Field.plans_of_findings found⟩

/-- All changes of a plan are made to the table that it is for. -/
theorem planEntity_onTable
    (planned : action ∈ (planEntity entity schema live traits).actions) :
    action.table = entity.tableName := by
  rcases planEntity_cases planned with ⟨-, rfl⟩ | ⟨-, name, field, -, plans⟩
  · rfl
  · exact plans.onBehalf.table

end Plan

end SchemaStore
