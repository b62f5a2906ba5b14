import SchemaStore.Database.Basic
import SchemaStore.Proofs.Reconciliation.Completion

/-!
# Constraints after a run

A run looks for a missing constraint by its column, and a backend refuses one whose
name is taken.  The two need not agree: after a completed run the constraints are
there that the run made, and those that were refused are still missing and planned
again by the next run.
-/

namespace SchemaStore

open Finding (changes)

/-- The constraint that a change adds is there: one of its kind on exactly its column. -/
def TableState.HasConstraint (live : TableState) : DdlAction → Prop
  | .addForeignKey _ field _ _ _ _ => ∃ key ∈ live.foreignKeys, key.columns = [field]
  | .addUnique _ field _ => ∃ set ∈ live.uniqueSets, set.columns = [field]
  | _ => False

section Effect

variable {schema : Schema} {traits : BackendTraits} {table name : String} {live : TableState}
  {action other : DdlAction}

theorem DdlAction.effect_hasConstraint (constrains : action.isAbsorbable = true) :
    (action.effect schema traits live).HasConstraint action := by
  cases action with
  | addForeignKey => exact ⟨_, List.mem_append_right _ List.mem_cons_self, rfl⟩
  | addUnique => exact ⟨_, List.mem_append_right _ List.mem_cons_self, rfl⟩
  | _ => cases constrains

namespace DdlAction.OnBehalf

/-- Only the changes that add constraints add any. -/
theorem effect_constraints (onBehalf : other.OnBehalf table name)
    (amends : other.isAbsorbable = false) (schema : Schema) (traits : BackendTraits)
    (live : TableState) :
    (other.effect schema traits live).foreignKeys = live.foreignKeys ∧
      (other.effect schema traits live).uniqueSets = live.uniqueSets := by
  have changed (change : LiveColumn → LiveColumn) :
      (live.changeColumn name change).foreignKeys = live.foreignKeys ∧
        (live.changeColumn name change).uniqueSets = live.uniqueSets := by
    unfold TableState.changeColumn
    split <;> exact ⟨rfl, rfl⟩
  cases onBehalf with
  | addColumn =>
      simp only [effect]
      split <;> exact ⟨rfl, rfl⟩
  | alterType target =>
      simp only [effect]
      split
      · exact changed _
      · exact ⟨rfl, rfl⟩
  | setDefault =>
      simp only [effect]
      split
      · exact changed _
      · exact ⟨rfl, rfl⟩
  | addForeignKey => cases amends
  | addUnique => cases amends

/-- A change on behalf of a field keeps the foreign keys and the unique sets that are there. -/
theorem subset_effect (onBehalf : other.OnBehalf table name) (schema : Schema)
    (traits : BackendTraits) (live : TableState) :
    live.foreignKeys ⊆ (other.effect schema traits live).foreignKeys ∧
      live.uniqueSets ⊆ (other.effect schema traits live).uniqueSets := by
  cases constrains : other.isAbsorbable with
  | false =>
      obtain ⟨keys, sets⟩ := onBehalf.effect_constraints constrains schema traits live
      rw [keys, sets]
      exact ⟨List.Subset.refl _, List.Subset.refl _⟩
  | true =>
      cases onBehalf with
      | addForeignKey => exact ⟨List.subset_append_left _ _, List.Subset.refl _⟩
      | addUnique => exact ⟨List.Subset.refl _, List.subset_append_left _ _⟩
      | _ => cases constrains

end DdlAction.OnBehalf

theorem TableState.HasConstraint.effect (has : live.HasConstraint action)
    (onBehalf : other.OnBehalf table name) :
    (other.effect schema traits live).HasConstraint action := by
  obtain ⟨keys, sets⟩ := onBehalf.subset_effect schema traits live
  cases action with
  | addForeignKey =>
      obtain ⟨key, member, columns⟩ := has
      exact ⟨key, keys member, columns⟩
  | addUnique =>
      obtain ⟨set, member, columns⟩ := has
      exact ⟨set, sets member, columns⟩
  | _ => cases has

end Effect

namespace Field

variable {field : Field} {schema : Schema} {table name : String} {live : TableState}
  {traits : BackendTraits} {action : DdlAction}

/-- A constraint that is there is not planned. -/
theorem Plans.not_hasConstraint (plans : field.Plans schema table name live traits action) :
    ¬live.HasConstraint action := by
  intro has
  cases plans with
  | addForeignKey reference target constrains refers found lacks =>
      obtain ⟨key, member, columns⟩ := has
      have there : live.hasForeignKey (foreignKeyName table name) name = true :=
        List.any_eq_true.mpr ⟨key, member, by simp [columns]⟩
      rw [lacks] at there
      cases there
  | addUnique unique lacks =>
      obtain ⟨set, member, columns⟩ := has
      have there : live.hasUnique name = true :=
        List.any_eq_true.mpr ⟨set, member, by simp [columns]⟩
      rw [lacks] at there
      cases there
  | _ => cases has

theorem Plans.mem_constraintFindings (plans : field.Plans schema table name live traits action)
    (constrains : action.isAbsorbable = true) :
    action ∈ changes (field.constraintFindings schema table name live traits) := by
  rw [constraintFindings, Finding.changes_append, List.mem_append]
  cases plans with
  | addForeignKey reference target can refers found lacks =>
      left
      simp [foreignKeyFindings, refers, found, lacks, can]
  | addUnique unique lacks =>
      right
      simp [uniqueFindings, unique, lacks]
  | _ => cases constrains

/-- A missing constraint is planned if the column of the field is there or can be added. -/
theorem mem_changes_findings_iff (constrains : action.isAbsorbable = true) :
    action ∈ changes (field.findings schema table name live traits) ↔
      field.Plans schema table name live traits action ∧
        (live.columns.has name = true ∨ field.canBeAdded traits = true) := by
  cases found : live.columns.get? name with
  | some column =>
      have has : live.columns.has name = true := by
        rw [Record.has_eq_isSome_get?, found]
        rfl
      constructor
      · exact fun planned => ⟨plans_of_findings planned, .inl has⟩
      · rintro ⟨plans, -⟩
        rw [findings_of_column found, Finding.changes_append, List.mem_append]
        exact .inr (plans.mem_constraintFindings constrains)
  | none =>
      have lacks : ¬live.columns.has name = true := by
        rw [Record.has_eq_isSome_get?, found]
        simp
      rw [or_iff_right lacks]
      constructor
      · intro planned
        refine ⟨plans_of_findings planned, ?_⟩
        rw [findings_of_missing found] at planned
        split at planned
        · assumption
        · cases planned
      · rintro ⟨plans, can⟩
        rw [findings_of_missing found, if_pos can, Finding.changes_change]
        exact List.mem_cons_of_mem _ (plans.mem_constraintFindings constrains)

/-- A planned constraint stays planned after another change on behalf of the same field. -/
theorem Plans.effect (plans : field.Plans schema table name live traits action)
    (constrains : action.isAbsorbable = true) {other : DdlAction} {before : TableState}
    (otherPlans : field.Plans schema table name before traits other) (different : other ≠ action) :
    field.Plans schema table name (other.effect schema traits live) traits action := by
  have sameConstraints (amends : other.isAbsorbable = false) :=
    otherPlans.onBehalf.effect_constraints amends schema traits live
  cases plans with
  | addForeignKey reference target can refers found lacks =>
      refine .addForeignKey reference target can refers found ?_
      cases otherPlans with
      | addForeignKey otherReference otherTarget _ otherRefers otherFound _ =>
          rw [refers] at otherRefers
          cases otherRefers
          rw [found] at otherFound
          cases otherFound
          exact absurd rfl different
      | addUnique => exact lacks
      | _ =>
          rw [TableState.hasForeignKey, (sameConstraints rfl).1]
          exact lacks
  | addUnique unique lacks =>
      refine .addUnique unique ?_
      cases otherPlans with
      | addForeignKey => exact lacks
      | addUnique => exact absurd rfl different
      | _ =>
          rw [TableState.hasUnique, (sameConstraints rfl).2]
          exact lacks
  | _ => cases constrains

end Field

section Plan

variable {entity : Entity} {schema : Schema} {live before : TableState} {traits : BackendTraits}
  {action other : DdlAction}

/-- The constraints of a plan, by field. -/
theorem mem_planEntity_iff (constrains : action.isAbsorbable = true) :
    action ∈ (planEntity entity schema live traits).actions ↔
      live.present = true ∧ ∃ name field, (name, field) ∈ entity.fields ∧
        field.Plans schema entity.tableName name live traits action ∧
        (live.columns.has name = true ∨ field.canBeAdded traits = true) := by
  rw [ReconciliationPlan.actions_eq]
  cases present : live.present with
  | false =>
      simp only [planEntity, present, Bool.false_eq_true, if_false, Finding.changes_change,
        Finding.changes_nil, List.mem_singleton, false_and, iff_false]
      rintro rfl
      cases constrains
  | true =>
      simp only [planEntity_findings present, tableFindings, changes, List.filterMap_flatMap,
        List.mem_flatMap, true_and]
      constructor
      · rintro ⟨⟨name, field⟩, declared, planned⟩
        exact ⟨name, field, declared, (Field.mem_changes_findings_iff constrains).mp planned⟩
      · rintro ⟨name, field, declared, plans⟩
        exact ⟨(name, field), declared, (Field.mem_changes_findings_iff constrains).mpr plans⟩

/-- A planned constraint stays planned after another change of a plan. -/
theorem planEntity_effect (distinct : entity.fields.keys.Nodup)
    (constrains : action.isAbsorbable = true)
    (planned : action ∈ (planEntity entity schema live traits).actions)
    (present : before.present = true)
    (otherPlanned : other ∈ (planEntity entity schema before traits).actions)
    (different : other ≠ action) :
    action ∈ (planEntity entity schema (other.effect schema traits live) traits).actions := by
  obtain ⟨there, name, field, declared, plans, reach⟩ :=
    (mem_planEntity_iff constrains).mp planned
  rcases planEntity_cases otherPlanned with
    ⟨missing, -⟩ | ⟨-, otherName, otherField, otherDeclared, otherPlans⟩
  · rw [present] at missing
    cases missing
  have stillThere := DdlAction.effect_present schema traits live otherPlans.onBehalf
  rw [mem_planEntity_iff constrains]
  refine ⟨stillThere.trans there, name, field, declared, ?_⟩
  by_cases same : name = otherName
  · subst same
    have sameField := List.inj_on_of_nodup_map distinct declared otherDeclared rfl
    cases sameField
    refine ⟨plans.effect constrains otherPlans different, reach.imp_left fun has => ?_⟩
    exact DdlAction.effect_has schema traits live otherPlans.onBehalf has
  · have agrees := DdlAction.effect_agrees schema traits live otherPlans.onBehalf same
    rw [← Field.mem_changes_findings_iff constrains, Field.findings_congr agrees]
    exact (Field.mem_changes_findings_iff constrains).mpr ⟨plans, reach⟩

/-- A constraint that is not among the changes that were made stays planned. -/
theorem planEntity_of_not_mem (distinct : entity.fields.keys.Nodup)
    (constrains : action.isAbsorbable = true)
    (planned : action ∈ (planEntity entity schema live traits).actions)
    (present : before.present = true) {made : List DdlAction}
    (ofPlan : ∀ other ∈ made, other ∈ (planEntity entity schema before traits).actions)
    (refused : action ∉ made) :
    action ∈ (planEntity entity schema (live.after schema traits made) traits).actions := by
  induction made generalizing live with
  | nil => exact planned
  | cons other rest induction =>
      obtain ⟨first, others⟩ := List.forall_mem_cons.mp ofPlan
      obtain ⟨different, absent⟩ := not_or.mp (mt List.mem_cons.mpr refused)
      exact induction (planEntity_effect distinct constrains planned present first
        (Ne.symm different)) others absent

/-- A constraint that was made is there after the other changes of its plan, too. -/
theorem hasConstraint_after (constrains : action.isAbsorbable = true)
    (present : before.present = true) {made : List DdlAction}
    (ofPlan : ∀ other ∈ made, other ∈ (planEntity entity schema before traits).actions)
    (member : action ∈ made) : (live.after schema traits made).HasConstraint action := by
  have keeps {others : List DdlAction} (live : TableState) (has : live.HasConstraint action)
      (ofPlan : ∀ other ∈ others, other ∈ (planEntity entity schema before traits).actions) :
      (live.after schema traits others).HasConstraint action := by
    induction others generalizing live with
    | nil => exact has
    | cons other rest induction =>
        obtain ⟨first, later⟩ := List.forall_mem_cons.mp ofPlan
        rcases planEntity_cases first with ⟨missing, -⟩ | ⟨-, name, field, -, plans⟩
        · rw [present] at missing
          cases missing
        · exact induction _ (has.effect plans.onBehalf) later
  obtain ⟨earlier, later, rfl⟩ := List.append_of_mem member
  rw [TableState.after, List.foldl_append, List.foldl_cons]
  exact keeps _ (DdlAction.effect_hasConstraint constrains) fun other late =>
    ofPlan other (by simp [late])

end Plan

section Tables

variable {schema : Schema} {traits : BackendTraits} {tables final : LiveTables}
  {entities : List Entity} {plans : List ReconciliationPlan} {made : List DdlAction}

/-- Changes of one table change it one after the other. -/
theorem afterAll_own {table : String} {actions : List DdlAction}
    (onTable : ∀ action ∈ actions, action.table = table) :
    tables.afterAll schema traits actions table = (tables table).after schema traits actions := by
  induction actions generalizing tables with
  | nil => rfl
  | cons action rest induction =>
      obtain ⟨first, others⟩ := List.forall_mem_cons.mp onTable
      rw [LiveTables.afterAll, List.foldl_cons]
      refine (induction others).trans ?_
      rw [DdlAction.perform, first, Function.update_self]
      rfl

namespace Reconciled

/-- A table that belongs to none of the entities is not changed. -/
theorem other (reconciled : Reconciled schema traits tables entities plans made final)
    {table : String} (foreign : ∀ entity ∈ entities, entity.tableName ≠ table) :
    final table = tables table ∧ ∀ action ∈ made, action.table ≠ table := by
  induction reconciled with
  | none => exact ⟨rfl, by simp⟩
  | @next tables final entity others plans made later planned rest induction =>
      obtain ⟨first, foreignOthers⟩ := List.forall_mem_cons.mp foreign
      obtain ⟨same, elsewhere⟩ := induction foreignOthers
      have onTable : ∀ action ∈ made, action.table = entity.tableName :=
        fun action member => planEntity_onTable (planned.subset member)
      refine ⟨same.trans (afterAll_other (Ne.symm first) onTable), fun action member => ?_⟩
      rcases List.mem_append.mp member with now | late
      · rw [onTable action now]
        exact first
      · exact elsewhere action late

theorem planned_onTable (reconciled : Reconciled schema traits tables entities plans made final)
    {plan : ReconciliationPlan} (reported : plan ∈ plans) {action : DdlAction}
    (planned : action ∈ plan.actions) : ∃ entity ∈ entities, action.table = entity.tableName := by
  induction reconciled with
  | none => cases reported
  | @next tables final entity others plans made later _ rest induction =>
      rcases List.mem_cons.mp reported with rfl | late
      · exact ⟨entity, List.mem_cons_self, planEntity_onTable planned⟩
      · obtain ⟨other, member, onTable⟩ := induction late
        exact ⟨other, List.mem_cons_of_mem _ member, onTable⟩

/-- A planned constraint is there if it was made, and planned again if it was not. -/
theorem constraint (reconciled : Reconciled schema traits tables entities plans made final)
    (distinct : (entities.map Entity.tableName).Nodup)
    (named : ∀ entity ∈ entities, entity.fields.keys.Nodup)
    {plan : ReconciliationPlan} (reported : plan ∈ plans) {action : DdlAction}
    (planned : action ∈ plan.actions) (constrains : action.isAbsorbable = true) :
    (action ∈ made → (final action.table).HasConstraint action) ∧
      (action ∉ made → ∃ entity ∈ entities,
        action ∈ (planEntity entity schema (final entity.tableName) traits).actions) := by
  induction reconciled with
  | none => cases reported
  | @next tables final entity others plans made later ofPlan rest induction =>
      obtain ⟨ownNamed, othersNamed⟩ := List.forall_mem_cons.mp named
      rw [List.map_cons, List.nodup_cons] at distinct
      obtain ⟨fresh, othersDistinct⟩ := distinct
      have foreign (other : Entity) (member : other ∈ others) :
          other.tableName ≠ entity.tableName :=
        fun same => fresh (same ▸ List.mem_map_of_mem member)
      have onTable : ∀ other ∈ made, other.table = entity.tableName :=
        fun other member => planEntity_onTable (ofPlan.subset member)
      obtain ⟨sameTable, elsewhere⟩ := rest.other foreign
      rcases List.mem_cons.mp reported with rfl | late
      · -- The constraint belongs to the table of this entity, which the rest leaves alone.
        have own := planEntity_onTable planned
        have present := ((mem_planEntity_iff constrains).mp planned).1
        have reached : final entity.tableName =
            (tables entity.tableName).after schema traits made :=
          sameTable.trans (afterAll_own onTable)
        constructor
        · intro member
          rcases List.mem_append.mp member with now | after
          · rw [own, reached]
            exact hasConstraint_after constrains present (fun _ one => ofPlan.subset one) now
          · exact absurd own (elsewhere action after)
        · intro refused
          refine ⟨entity, List.mem_cons_self, ?_⟩
          rw [reached]
          exact planEntity_of_not_mem ownNamed constrains planned present
            (fun _ one => ofPlan.subset one) (mt (List.mem_append_left later) refused)
      · obtain ⟨other, member, otherTable⟩ := rest.planned_onTable late planned
        have absent : action ∉ made := fun now =>
          foreign other member (otherTable.symm.trans (onTable action now))
        obtain ⟨there, again⟩ := induction othersDistinct othersNamed late
        rw [List.mem_append, or_iff_right absent]
        refine ⟨there, fun refused => ?_⟩
        obtain ⟨later, laterMember, plannedAgain⟩ := again refused
        exact ⟨later, List.mem_cons_of_mem _ laterMember, plannedAgain⟩

end Reconciled

/-- A constraint that is there is not planned by any entity of a schema. -/
theorem not_mem_plannedChanges {action : DdlAction}
    (has : (tables action.table).HasConstraint action) (constrains : action.isAbsorbable = true) :
    action ∉ schema.plannedChanges tables traits := by
  intro planned
  obtain ⟨entity, -, ofEntity⟩ := List.mem_flatMap.mp planned
  obtain ⟨-, name, field, -, plans, -⟩ := (mem_planEntity_iff constrains).mp ofEntity
  rw [planEntity_onTable ofEntity] at has
  exact plans.not_hasConstraint has

end Tables

/-- After a completed run, a planned foreign key or unique set is on exactly its column if the
backend made it, and the next run plans it again if the backend refused it. -/
theorem run_constraint_iff {State : Type} {reconciler : Reconciler} {backend : Backend State}
    {tables : State → LiveTables} (valid : reconciler.schema.Valid)
    (tracks : reconciler.Tracks backend tables) {state final : State} {report : RunReport}
    {events : List (Event Request Request.Reply)}
    (completed : reconciler.run.run backend state = ⟨.ok report, events, final⟩)
    {plan : ReconciliationPlan} (reported : plan ∈ report.progress.plans) {action : DdlAction}
    (planned : action ∈ plan.actions) (constrains : action.isAbsorbable = true) :
    ((tables final action.table).HasConstraint action ↔ action ∈ changesMade events) ∧
      (action ∈ reconciler.schema.plannedChanges (tables final) reconciler.traits ↔
        action ∉ changesMade events) := by
  have reconciled := reconciler.run_reconciled tracks completed
  have distinct : (reconciler.schema.entities.map Entity.tableName).Nodup :=
    (List.Nodup.of_map _ valid.keys_nodup).map_on fun entity member other otherMember same =>
      valid.tableName_inj member otherMember same
  obtain ⟨there, again⟩ := reconciled.constraint distinct
    (fun entity member => (valid.entities entity member).distinct) reported planned constrains
  have plannedAgain (refused : action ∉ changesMade events) :
      action ∈ reconciler.schema.plannedChanges (tables final) reconciler.traits := by
    obtain ⟨entity, member, ofEntity⟩ := again refused
    exact List.mem_flatMap.mpr ⟨entity, member, ofEntity⟩
  refine ⟨⟨fun has => ?_, there⟩, ⟨fun again made => ?_, plannedAgain⟩⟩
  · by_contra refused
    exact not_mem_plannedChanges has constrains (plannedAgain refused)
  · exact not_mem_plannedChanges (there made) constrains again

/-- A constraint of the name of a new one is on the same table. -/
def LiveTables.nameTaken (tables : LiveTables) : DdlAction → Bool
  | .addForeignKey table _ name _ _ _ => (tables table).foreignKeys.any (·.name == some name)
  | .addUnique table _ name => (tables table).uniqueSets.any (·.name == some name)
  | _ => false

/-- A backend that is made of live tables.  It makes every change unless the name of a constraint
is taken. -/
def tableBackend (traits : BackendTraits) : Backend LiveTables
  | .openPool .., tables => (.ok 0, tables)
  | .ping _, tables | .commit _, tables => (.ok (), tables)
  | .disposePool _, tables | .rollback _, tables => ((), tables)
  | .execute .., tables => (.ok {}, tables)
  | .inspect _ table, tables => (.ok (tables table), tables)
  | .alter _ schema action, tables =>
      if tables.nameTaken action then
        (.error (Database.operational "index already exists"), tables)
      else
        (.ok (), action.perform schema traits tables)
  | .lock .., tables => (.ok ⟨0, .int 1⟩, tables)
  | .unlock .., tables => (.ok (), tables)

theorem tracks_tableBackend (reconciler : Reconciler) :
    reconciler.Tracks (tableBackend reconciler.traits) id := by
  have altered (action : DdlAction) (tables : LiveTables) :
      tableBackend reconciler.traits (.alter reconciler.pool reconciler.schema action) tables =
        if tables.nameTaken action then
          (.error (Database.operational "index already exists"), tables)
        else
          (.ok (), action.perform reconciler.schema reconciler.traits tables) := rfl
  constructor
  · rintro table tables live next ⟨⟩
    rfl
  · exact fun _ _ => rfl
  · intro action tables next made
    rw [altered] at made
    split at made
    · cases made
    · cases made
      rfl
  · intro action tables failure next refused
    rw [altered] at refused
    split at refused
    · cases refused
      rfl
    · cases refused
  · exact fun _ _ _ => rfl
  · exact fun _ _ _ => rfl

/-- The name of the unique set that the email of a user needs is taken by one on the name.  The run
completes, but the email is not unique, and the next run plans it again. -/
theorem run_constraint_iff_users :
    let id : Field := { type := .int, isId := true }
    let email : Field := { type := .string, isUnique := true }
    let user : Entity := ⟨"User", [("id", id), ("name", { type := .string }), ("email", email)]⟩
    let reconciler : Reconciler := {
      schema := { datasource := { provider := .sqlite, url := "file:./dev.db" }, entities := [user] }
      traits := .ofName "sqlite"
      settings := {}
      pool := 0 }
    let live : LiveTables := fun table =>
      { name := table
        present := true
        columns := [("id", { name := "id", type := "integer" }),
          ("name", { name := "name", type := "varchar(255)" }),
          ("email", { name := "email", type := "varchar(255)" })]
        uniqueSets := [⟨some "users_email_unique", ["name"]⟩] }
    let held := reconciler.run.run (tableBackend reconciler.traits) live
    let unique : DdlAction := .addUnique "users" "email" "users_email_unique"
    ∃ report, held.result = .ok report ∧
      report.progress.plans = [⟨"User", "users", [.change unique]⟩] ∧
      ¬(held.state "users").HasConstraint unique ∧
      unique ∈ reconciler.schema.plannedChanges held.state reconciler.traits := by
  intro id email user reconciler live held unique
  have valid : reconciler.schema.Valid := by
    have address : reconciler.schema.datasource.connection.toOption.isSome = true := by
      decide +kernel
    refine ⟨?_, ?_, by decide +kernel⟩
    · cases connection : reconciler.schema.datasource.connection with
      | error cause =>
          rw [connection] at address
          cases address
      | ok url => exact ⟨url, rfl⟩
    · intro entity member
      rw [List.mem_singleton.mp member]
      exact Entity.valid_iff.mpr ⟨by decide, by decide +kernel, by decide +kernel⟩
  have plans : held.result.toOption.map (·.progress.plans) =
      some [⟨"User", "users", [.change unique]⟩] := by
    decide +kernel
  have made : changesMade held.events = [] := by decide +kernel
  have ran : reconciler.run.run (tableBackend reconciler.traits) live = held := rfl
  clear_value held
  obtain ⟨result, events, final⟩ := held
  cases result with
  | error failure => cases plans
  | ok report =>
      have reported : report.progress.plans = [⟨"User", "users", [.change unique]⟩] :=
        Option.some.inj plans
      obtain ⟨constraint, again⟩ := run_constraint_iff valid (tracks_tableBackend reconciler) ran
        (reported ▸ List.mem_singleton_self _) List.mem_cons_self rfl
      have refused : unique ∉ changesMade events := by simp [made]
      exact ⟨report, rfl, reported, fun has => refused (constraint.mp has), again.mpr refused⟩

end SchemaStore
