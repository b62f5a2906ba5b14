import Mathlib.Tactic.SplitIfs
import SchemaStore.Proofs.Ddl.Planned
import SchemaStore.Proofs.Ddl.Prerequisite

/-!
# Changes are planned once

The changes of a plan are all different, and so are the changes of the plans for
different tables.
-/

namespace SchemaStore

open Finding (changes)

namespace Field

variable {field : Field} {schema : Schema} {table name : String} {live : TableState}
  {traits : BackendTraits} {action : DdlAction}

/-- A default is set once, since a field is not both a string and a time. -/
theorem columnChanges_nodup (field : Field) (table name : String) (column : LiveColumn)
    (traits : BackendTraits) : (field.columnChanges table name column traits).Nodup := by
  unfold columnChanges
  dsimp only
  split_ifs <;> simp_all

theorem changes_columnFindings (field : Field) (table name : String) (column : LiveColumn)
    (traits : BackendTraits) :
    changes (field.columnFindings table name column traits) =
      if traits.alterColumn then field.columnChanges table name column traits else [] := by
  unfold columnFindings changes
  cases traits.alterColumn <;> simp [Finding.change?, Function.comp_def]

theorem changes_constraintFindings (field : Field) (schema : Schema) (table name : String)
    (live : TableState) (traits : BackendTraits) :
    (changes (field.constraintFindings schema table name live traits)).Nodup ∧
      ∀ action ∈ changes (field.constraintFindings schema table name live traits),
        action.isAbsorbable = true := by
  have foreignKey : changes (field.foreignKeyFindings schema table name live traits) = [] ∨
      ∃ target targetField onDelete,
        changes (field.foreignKeyFindings schema table name live traits) =
          [.addForeignKey table name (foreignKeyName table name) target targetField onDelete] := by
    unfold foreignKeyFindings
    split
    · exact .inl rfl
    · dsimp only
      split_ifs
      · exact .inl rfl
      · split
        · exact .inl rfl
        · exact .inr ⟨_, _, _, rfl⟩
      · split <;> exact .inl rfl
  have unique : changes (field.uniqueFindings table name live) = [] ∨
      changes (field.uniqueFindings table name live) =
        [.addUnique table name (uniqueName table name)] := by
    unfold uniqueFindings
    split_ifs
    · exact .inr rfl
    · exact .inl rfl
  rw [constraintFindings, Finding.changes_append]
  rcases foreignKey with none | ⟨target, targetField, onDelete, one⟩ <;>
    rcases unique with noUnique | oneUnique <;>
    simp [*, DdlAction.isAbsorbable]

theorem findings_nodup (field : Field) (schema : Schema) (table name : String)
    (live : TableState) (traits : BackendTraits) :
    (changes (field.findings schema table name live traits)).Nodup := by
  obtain ⟨distinct, constrain⟩ := field.changes_constraintFindings schema table name live traits
  cases found : live.columns.get? name with
  | some column =>
      rw [findings_of_column found, Finding.changes_append, changes_columnFindings]
      split_ifs
      · refine List.Nodup.append (field.columnChanges_nodup table name column traits) distinct ?_
        intro action change constraint
        have amends : action.isAbsorbable = false := by
          simp only [columnChanges, List.mem_append, List.mem_ite_nil_right,
            List.mem_singleton] at change
          rcases change with ((⟨-, rfl⟩ | ⟨-, rfl⟩) | ⟨-, rfl⟩) | ⟨-, rfl⟩ <;> rfl
        rw [constrain action constraint] at amends
        cases amends
      · exact distinct
  | none =>
      rw [findings_of_missing found]
      split_ifs
      · rw [Finding.changes_change]
        refine List.nodup_cons.mpr ⟨fun constraint => ?_, distinct⟩
        cases constrain _ constraint
      · exact List.nodup_nil

end Field

theorem DdlAction.OnBehalf.field? {action : DdlAction} {table name : String}
    (onBehalf : action.OnBehalf table name) : action.field? = some name := by
  cases onBehalf <;> rfl

section Plan

variable {entity : Entity} {schema : Schema} {live : TableState} {traits : BackendTraits}

/-- The changes of a plan on behalf of a field are those found about the field. -/
theorem mem_actions_iff (distinct : entity.fields.keys.Nodup) (present : live.present = true)
    {name : String} {field : Field} (declared : (name, field) ∈ entity.fields)
    {action : DdlAction} (onBehalf : action.OnBehalf entity.tableName name) :
    action ∈ (planEntity entity schema live traits).actions ↔
      action ∈ changes (field.findings schema entity.tableName name live traits) := by
  rw [ReconciliationPlan.actions_eq, planEntity_findings present, tableFindings, changes,
    List.filterMap_flatMap, List.mem_flatMap]
  constructor
  · rintro ⟨⟨other, otherField⟩, otherDeclared, found⟩
    have about := (Field.plans_of_findings found).onBehalf.field?
    rw [onBehalf.field?] at about
    obtain rfl : name = other := Option.some.inj about
    have same : (name, otherField) = (name, field) :=
      List.inj_on_of_nodup_map distinct otherDeclared declared rfl
    cases same
    exact found
  · intro found
    exact ⟨(name, field), declared, found⟩

/-- The changes of a plan are all different. -/
theorem planEntity_nodup (distinct : entity.fields.keys.Nodup) :
    (planEntity entity schema live traits).actions.Nodup := by
  rw [ReconciliationPlan.actions_eq]
  cases present : live.present with
  | false => simp [planEntity, present]
  | true =>
      rw [planEntity_findings present, tableFindings, changes, List.filterMap_flatMap,
        List.nodup_flatMap]
      refine ⟨fun entry _ => entry.2.findings_nodup schema _ entry.1 live traits, ?_⟩
      refine (List.pairwise_map.mp distinct).imp fun {entry other} different => ?_
      intro action planned alsoPlanned
      have ofEntry := (Field.plans_of_findings planned).onBehalf.field?
      rw [(Field.plans_of_findings alsoPlanned).onBehalf.field?] at ofEntry
      exact different (Option.some.inj ofEntry).symm

end Plan

end SchemaStore
