import SchemaStore.Proofs.Ddl.Distinct
import SchemaStore.Proofs.Reconciliation.Sequence

/-!
# The schedule of a run

A run probes the table of an entity, makes the changes that it plans for it, and
goes on with the next entity.  `Reconciler.scheduled` lists these steps, as far as
the tables that were shown decide them.  In a valid schema they are all different.
-/

namespace SchemaStore

def RunStep.table : RunStep → String
  | .probe table => table
  | .change action => action.table

theorem RunStep.countP_isProbe_changes (actions : List DdlAction) :
    (actions.map RunStep.change).countP RunStep.isProbe = 0 :=
  List.countP_eq_zero.mpr (by simp [isProbe, change?])

def changesIn (steps : List RunStep) : List DdlAction :=
  steps.filterMap RunStep.change?

@[simp] theorem changesIn_append (steps others : List RunStep) :
    changesIn (steps ++ others) = changesIn steps ++ changesIn others :=
  List.filterMap_append

theorem mem_changesIn {action : DdlAction} {steps : List RunStep} :
    action ∈ changesIn steps ↔ .change action ∈ steps := by
  rw [changesIn, List.mem_filterMap]
  constructor
  · rintro ⟨step, member, same⟩
    cases step with
    | probe table => cases same
    | change other =>
        cases same
        exact member
  · exact fun member => ⟨_, member, rfl⟩

/-- All changes of a plan are among these. -/
def ReconciliationPlan.isWithin (plan : ReconciliationPlan) (done : List DdlAction) : Bool :=
  plan.actions.all done.contains

theorem ReconciliationPlan.isWithin_iff {plan : ReconciliationPlan} {done : List DdlAction} :
    plan.isWithin done = true ↔ ∀ action ∈ plan.actions, action ∈ done := by
  simp [isWithin]

namespace Reconciler

/-- The plan for an entity whose table was shown. -/
def planFor (reconciler : Reconciler) (entity : Entity) (live : TableState) : ReconciliationPlan :=
  planEntity entity reconciler.schema live reconciler.traits

/-- The steps for an entity whose table is shown. -/
def entitySteps (reconciler : Reconciler) (entity : Entity) (live : TableState) : List RunStep :=
  .probe entity.tableName :: (reconciler.planFor entity live).actions.map .change

/-- The steps for entities, up to the probe of the first one whose table is not shown. -/
def scheduled (reconciler : Reconciler) : List Entity → List TableState → List RunStep
  | [], _ => []
  | entity :: _, [] => [.probe entity.tableName]
  | entity :: rest, live :: lives =>
      reconciler.entitySteps entity live ++ reconciler.scheduled rest lives

/-- The plans for the entities whose tables are shown. -/
def plansFor (reconciler : Reconciler) (entities : List Entity) (lives : List TableState) :
    List ReconciliationPlan :=
  List.zipWith reconciler.planFor entities lives

variable {reconciler : Reconciler} {entity : Entity} {live : TableState}
  {entities : List Entity} {lives : List TableState}

theorem plansFor_cons (entities : List Entity) (lives : List TableState) :
    reconciler.plansFor (entity :: entities) (live :: lives) =
      reconciler.planFor entity live :: reconciler.plansFor entities lives :=
  rfl

theorem plansFor_nil (entities : List Entity) : reconciler.plansFor entities [] = [] :=
  List.zipWith_nil_right

theorem table_of_mem_entitySteps {step : RunStep}
    (member : step ∈ reconciler.entitySteps entity live) : step.table = entity.tableName := by
  rcases List.mem_cons.mp member with rfl | planned
  · rfl
  · obtain ⟨action, ofPlan, rfl⟩ := List.mem_map.mp planned
    exact planEntity_onTable ofPlan

theorem table_of_mem_scheduled {step : RunStep}
    (member : step ∈ reconciler.scheduled entities lives) :
    step.table ∈ entities.map Entity.tableName := by
  induction entities generalizing lives with
  | nil => cases member
  | cons entity rest induction =>
      cases lives with
      | nil =>
          rw [List.mem_singleton.mp member]
          exact List.mem_cons_self
      | cons live lives =>
          rcases List.mem_append.mp member with own | later
          · rw [table_of_mem_entitySteps own]
            exact List.mem_cons_self
          · exact List.mem_cons_of_mem _ (induction later)

theorem entitySteps_nodup (distinct : entity.fields.keys.Nodup) :
    (reconciler.entitySteps entity live).Nodup := by
  refine List.nodup_cons.mpr ⟨by simp, ?_⟩
  exact (planEntity_nodup distinct).map fun action other same => RunStep.change.inj same

theorem scheduled_nodup (tables : (entities.map Entity.tableName).Nodup)
    (distinct : ∀ entity ∈ entities, entity.fields.keys.Nodup) :
    (reconciler.scheduled entities lives).Nodup := by
  induction entities generalizing lives with
  | nil => exact List.nodup_nil
  | cons entity rest induction =>
      obtain ⟨first, others⟩ := List.forall_mem_cons.mp distinct
      obtain ⟨fresh, different⟩ := List.nodup_cons.mp tables
      cases lives with
      | nil => exact List.nodup_singleton _
      | cons live lives =>
          refine List.Nodup.append (entitySteps_nodup first) (induction different others) ?_
          intro step own later
          exact fresh (table_of_mem_entitySteps own ▸ table_of_mem_scheduled later)

theorem changes_entitySteps :
    changesIn (reconciler.entitySteps entity live) =
      (reconciler.planFor entity live).actions := by
  rw [changesIn, entitySteps, List.filterMap_cons_none rfl, List.filterMap_map]
  exact List.filterMap_some

/-- The scheduled changes are those of the plans, in order. -/
theorem changes_scheduled :
    changesIn (reconciler.scheduled entities lives) =
      (reconciler.plansFor entities lives).flatMap ReconciliationPlan.actions := by
  induction entities generalizing lives with
  | nil => rfl
  | cons entity rest induction =>
      cases lives with
      | nil => rfl
      | cons live lives =>
          rw [scheduled, changesIn_append, changes_entitySteps, induction]
          rfl

theorem exists_scheduled_cons (reconciler : Reconciler) (entity : Entity) (rest : List Entity)
    (lives : List TableState) :
    ∃ steps, reconciler.scheduled (entity :: rest) lives = .probe entity.tableName :: steps := by
  cases lives with
  | nil => exact ⟨[], rfl⟩
  | cons live lives => exact ⟨_, rfl⟩

/-- What is reached in two lists is reached in the second one, unless it is in the first one. -/
theorem prefix_append_of_not_mem {α : Type} {done first second : List α} {a : α}
    (upTo : done ++ [a] <+: first ++ second) (absent : a ∉ first) :
    ∃ rest, done = first ++ rest ∧ rest ++ [a] <+: second := by
  obtain ⟨after, split⟩ := upTo
  rw [List.append_assoc, List.append_eq_append_iff] at split
  rcases split with ⟨middle, rfl, split⟩ | ⟨middle, rfl, split⟩
  · cases middle with
    | nil => exact ⟨[], by simp, after, split⟩
    | cons other middle =>
        obtain ⟨rfl, -⟩ := List.cons.inj split
        exact absurd (List.mem_append_right _ List.mem_cons_self) absent
  · exact ⟨middle, rfl, after, by rw [split, List.append_assoc]⟩

/-- The steps before the probe of a table are those for the entities before its own. -/
theorem scheduled_before_probe {earlier later : List Entity} {done : List RunStep}
    (tables : ((earlier ++ entity :: later).map Entity.tableName).Nodup)
    (upTo : done ++ [.probe entity.tableName] <+:
      reconciler.scheduled (earlier ++ entity :: later) lives)
    (different : (reconciler.scheduled (earlier ++ entity :: later) lives).Nodup) :
    done = reconciler.scheduled earlier lives ∧ earlier.length ≤ lives.length := by
  induction earlier generalizing lives done with
  | nil =>
      refine ⟨?_, Nat.zero_le _⟩
      obtain ⟨rest, begins⟩ := reconciler.exists_scheduled_cons entity later lives
      rw [List.nil_append, begins] at upTo different
      cases done with
      | nil => rfl
      | cons step done =>
          -- The table would be probed twice.
          obtain ⟨-, again⟩ := List.cons_prefix_cons.mp upTo
          have member := again.subset (List.mem_append_right _ List.mem_cons_self)
          exact absurd member (List.nodup_cons.mp different).1
  | cons other earlier induction =>
      obtain ⟨fresh, others⟩ := List.nodup_cons.mp tables
      have elsewhere : other.tableName ≠ entity.tableName := by
        rintro same
        exact fresh (by simp [same])
      cases lives with
      | nil =>
          have member := upTo.subset (List.mem_append_right _ List.mem_cons_self)
          exact absurd (RunStep.probe.inj (List.mem_singleton.mp member)).symm elsewhere
      | cons live lives =>
          have absent : RunStep.probe entity.tableName ∉ reconciler.entitySteps other live :=
            fun member => elsewhere (table_of_mem_entitySteps member).symm
          obtain ⟨rest, rfl, within⟩ := prefix_append_of_not_mem upTo absent
          obtain ⟨rfl, covered⟩ := induction others within (List.nodup_append.mp different).2.1
          exact ⟨rfl, Nat.succ_le_succ covered⟩

/-- The probes of a schedule are those of the entities that it covers. -/
theorem countP_scheduled (covered : entities.length ≤ lives.length) :
    (reconciler.scheduled entities lives).countP RunStep.isProbe = entities.length := by
  induction entities generalizing lives with
  | nil => rfl
  | cons entity rest induction =>
      cases lives with
      | nil => cases covered
      | cons live lives =>
          rw [scheduled, entitySteps, List.countP_append, List.countP_cons_of_pos rfl,
            RunStep.countP_isProbe_changes, induction (Nat.le_of_succ_le_succ covered),
            List.length_cons]
          omega

/-- There is a plan for each entity whose table is shown. -/
theorem entity_plansFor (covered : entities.length ≤ lives.length) :
    (reconciler.plansFor entities lives).map ReconciliationPlan.entity =
      entities.map Entity.name := by
  induction entities generalizing lives with
  | nil => rfl
  | cons entity rest induction =>
      cases lives with
      | nil => cases covered
      | cons live lives =>
          rw [plansFor_cons, List.map_cons, induction (Nat.le_of_succ_le_succ covered)]
          rfl

theorem plansFor_append_lives (covered : entities.length ≤ lives.length)
    (others : List TableState) :
    reconciler.plansFor entities (lives ++ others) = reconciler.plansFor entities lives := by
  induction entities generalizing lives with
  | nil => rfl
  | cons entity rest induction =>
      cases lives with
      | nil => cases covered
      | cons live lives =>
          rw [List.cons_append, plansFor_cons, plansFor_cons,
            induction (Nat.le_of_succ_le_succ covered)]

theorem plansFor_append_entities (uncovered : lives.length ≤ entities.length)
    (others : List Entity) :
    reconciler.plansFor (entities ++ others) lives = reconciler.plansFor entities lives := by
  induction lives generalizing entities with
  | nil => rw [plansFor_nil, plansFor_nil]
  | cons live lives induction =>
      cases entities with
      | nil => cases uncovered
      | cons entity rest =>
          rw [List.cons_append, plansFor_cons, plansFor_cons,
            induction (Nat.le_of_succ_le_succ uncovered)]

end Reconciler
end SchemaStore
