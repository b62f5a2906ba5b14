import SchemaStore.Proofs.Ddl.Distinct
import SchemaStore.Proofs.Ddl.Naming
import SchemaStore.Proofs.Dsl.Reading
import SchemaStore.Proofs.Dsl.Valid

/-!
# How plans are arranged

The changes of a plan stand in the order in which the fields are declared, and the changes about
one field in the order of their stages.  What is proposed about a field, be it made or withheld,
does not depend on whether the backend alters columns or adds constraints; that only decides
which of it is withheld.
-/

namespace SchemaStore

open Finding (changes skips)

namespace DdlAction

/-- When a change is made among the changes about its field. -/
def stage : DdlAction → Nat
  | .createTable .. | .addColumn .. => 0
  | .alterType .. | .setDefault .. => 1
  | .addForeignKey .. => 2
  | .addUnique .. => 3

/-- A change comes before another one: its field is declared earlier, or it is about the same
field and of an earlier stage. -/
inductive Before (names : List String) (first second : DdlAction) : Prop where
  | field {name other : String} (about : first.field? = some name)
      (otherAbout : second.field? = some other)
      (earlier : names.idxOf name < names.idxOf other)
  | stage {name : String} (about : first.field? = some name)
      (otherAbout : second.field? = some name) (earlier : first.stage < second.stage)

/-- The start of the words for a change, by which its kind is told. -/
def opening : DdlAction → String
  | .createTable .. => "creat"
  | .addColumn .. => "add c"
  | .alterType .. => "alter"
  | .setDefault .. => "set d"
  | .addForeignKey .. => "add f"
  | .addUnique .. => "add u"

section Words

variable (table field name : String)

theorem describe_createTable : (createTable table).describe = "create table " ++ table := rfl

theorem describe_addColumn :
    (addColumn table field).describe = "add column " ++ table ++ "." ++ field := rfl

theorem describe_alterType (target : TypeTarget) :
    (alterType table field target).describe =
      "alter " ++ table ++ "." ++ field ++ " type to " ++ target.label := rfl

theorem describe_setDefault :
    (setDefault table field).describe = "set default of " ++ table ++ "." ++ field := rfl

theorem describe_addForeignKey (targetTable targetField : String) (onDelete : Option String) :
    (addForeignKey table field name targetTable targetField onDelete).describe =
      "add foreign key " ++ name ++ " (" ++ table ++ "." ++ field ++ " → " ++ targetTable ++
        "." ++ targetField ++ ")" := rfl

theorem describe_addUnique :
    (addUnique table field name).describe = "add unique constraint " ++ name := rfl

end Words

theorem take_describe (action : DdlAction) :
    action.describe.toList.take 5 = action.opening.toList := by
  cases action <;>
    simp [describe_createTable, describe_addColumn, describe_alterType, describe_setDefault,
      describe_addForeignKey, describe_addUnique, opening]

theorem opening_of_describe {first second : DdlAction}
    (same : first.describe = second.describe) : first.opening = second.opening := by
  apply String.toList_inj.mp
  rw [← take_describe, ← take_describe, same]

end DdlAction

/-- Two texts without blanks that are followed by a blank in the same text. -/
theorem eq_of_append_blank {name other rest otherRest : String} (clear : ' ' ∉ name.toList)
    (otherClear : ' ' ∉ other.toList) (same : name ++ (" " ++ rest) = other ++ (" " ++ otherRest)) :
    name = other := by
  have onLists : name.toList ++ ' ' :: rest.toList = other.toList ++ ' ' :: otherRest.toList := by
    simpa using congrArg String.toList same
  rcases append_cons_eq_iff.mp onLists with ⟨whole, -⟩ | ⟨part, longer, -⟩ | ⟨part, longer, -⟩
  · exact String.toList_inj.mp whole
  · simp [longer] at otherClear
  · simp [longer] at clear

namespace DdlAction

/-- The words for a change on behalf of a field tell the field and the stage of the change. -/
theorem OnBehalf.of_describe {first second : DdlAction} {table name other : String}
    (onBehalf : first.OnBehalf table name) (otherOnBehalf : second.OnBehalf table other)
    (clear : ' ' ∉ name.toList) (otherClear : ' ' ∉ other.toList)
    (same : first.describe = second.describe) : name = other ∧ first.stage = second.stage := by
  have opening := opening_of_describe same
  cases onBehalf with
  | addColumn =>
      cases otherOnBehalf with
      | addColumn =>
          rw [describe_addColumn, describe_addColumn, String.append_right_inj] at same
          exact ⟨same, rfl⟩
      | _ => simp [DdlAction.opening] at opening
  | alterType target =>
      cases otherOnBehalf with
      | alterType otherTarget =>
          rw [describe_alterType, describe_alterType] at same
          have split : " type to " = " " ++ "type to " := rfl
          simp only [String.append_assoc, String.append_right_inj, split] at same
          exact ⟨eq_of_append_blank clear otherClear same, rfl⟩
      | _ => simp [DdlAction.opening] at opening
  | setDefault =>
      cases otherOnBehalf with
      | setDefault =>
          rw [describe_setDefault, describe_setDefault, String.append_right_inj] at same
          exact ⟨same, rfl⟩
      | _ => simp [DdlAction.opening] at opening
  | addForeignKey targetTable targetField onDelete =>
      cases otherOnBehalf with
      | addForeignKey otherTable otherField otherOnDelete =>
          rw [describe_addForeignKey, describe_addForeignKey] at same
          have split : " (" = " " ++ "(" := rfl
          simp only [foreignKeyName, String.append_assoc, String.append_right_inj, split] at same
          refine ⟨?_, rfl⟩
          have named : name ++ "_foreign" = other ++ "_foreign" := by
            apply eq_of_append_blank _ _ (by simpa only [String.append_assoc] using same)
            · simpa using clear
            · simpa using otherClear
          exact String.append_left_inj _ |>.mp named
      | _ => simp [DdlAction.opening] at opening
  | addUnique =>
      cases otherOnBehalf with
      | addUnique =>
          rw [describe_addUnique, describe_addUnique, String.append_right_inj] at same
          exact ⟨by simpa [uniqueName, String.append_assoc] using same, rfl⟩
      | _ => simp [DdlAction.opening] at opening

end DdlAction

namespace Finding

/-- The change that a finding proposes, made or withheld. -/
def proposal? : Finding → Option DdlAction
  | .change action | .withheld action _ => some action
  | .present _ => none

/-- The proposed changes, in order. -/
def proposals (findings : List Finding) : List DdlAction :=
  findings.filterMap proposal?

@[simp] theorem proposals_nil : proposals [] = [] := rfl

@[simp] theorem proposals_append (findings others : List Finding) :
    proposals (findings ++ others) = proposals findings ++ proposals others :=
  List.filterMap_append

@[simp] theorem proposals_change (action : DdlAction) (others : List Finding) :
    proposals (.change action :: others) = action :: proposals others := rfl

@[simp] theorem proposals_withheld (action : DdlAction) (reason : Withheld)
    (others : List Finding) :
    proposals (.withheld action reason :: others) = action :: proposals others := rfl

@[simp] theorem proposals_present (name : String) (others : List Finding) :
    proposals (.present name :: others) = proposals others := rfl

variable {findings : List Finding} {action : DdlAction}

theorem mem_changes_iff : action ∈ changes findings ↔ .change action ∈ findings := by
  simp only [changes, List.mem_filterMap]
  constructor
  · rintro ⟨finding, member, found⟩
    cases finding with
    | change made => rwa [← Option.some.inj found]
    | withheld | present => cases found
  · intro member
    exact ⟨_, member, rfl⟩

theorem mem_skips_iff {words : String} :
    words ∈ skips findings ↔ ∃ action reason, .withheld action reason ∈ findings ∧
      action.describe = words := by
  simp only [skips, List.mem_filterMap]
  constructor
  · rintro ⟨finding, member, found⟩
    cases finding with
    | withheld action reason => exact ⟨action, reason, member, Option.some.inj found⟩
    | change | present => cases found
  · rintro ⟨action, reason, member, words⟩
    exact ⟨_, member, congrArg some words⟩

theorem mem_proposals_iff :
    action ∈ proposals findings ↔
      .change action ∈ findings ∨ ∃ reason, .withheld action reason ∈ findings := by
  simp only [proposals, List.mem_filterMap]
  constructor
  · rintro ⟨finding, member, found⟩
    cases finding with
    | change made => exact .inl (by rwa [← Option.some.inj found])
    | withheld held reason => exact .inr ⟨reason, by rwa [← Option.some.inj found]⟩
    | present => cases found
  · rintro (member | ⟨reason, member⟩)
    · exact ⟨_, member, rfl⟩
    · exact ⟨_, member, rfl⟩

/-- What is made together with what is skipped are the words for all that is proposed. -/
theorem perm_describe_proposals (findings : List Finding) :
    ((changes findings).map DdlAction.describe ++ skips findings).Perm
      ((proposals findings).map DdlAction.describe) := by
  induction findings with
  | nil => exact .refl []
  | cons finding others induction =>
      cases finding with
      | change action => exact induction.cons action.describe
      | withheld action reason => exact List.perm_middle.trans (induction.cons action.describe)
      | present name => exact induction

/-- The same is proposed, and what is not made any more is skipped instead. -/
structure Restricts (less more : List Finding) : Prop where
  proposals : Finding.proposals less = Finding.proposals more
  changes : (changes less).Sublist (changes more)
  skips : (skips more).Sublist (skips less)

theorem Restricts.refl (findings : List Finding) : Restricts findings findings :=
  ⟨rfl, .refl _, .refl _⟩

theorem Restricts.append {less more others otherMore : List Finding}
    (first : Restricts less more) (second : Restricts others otherMore) :
    Restricts (less ++ others) (more ++ otherMore) := by
  constructor
  · rw [proposals_append, proposals_append, first.proposals, second.proposals]
  · rw [changes_append, changes_append]
    exact first.changes.append second.changes
  · rw [skips_append, skips_append]
    exact first.skips.append second.skips

theorem Restricts.flatMap {α : Type} {items : List α} {less more : α → List Finding}
    (each : ∀ item ∈ items, Restricts (less item) (more item)) :
    Restricts (items.flatMap less) (items.flatMap more) := by
  induction items with
  | nil => exact .refl []
  | cons item others induction =>
      rw [List.flatMap_cons, List.flatMap_cons]
      apply (each item List.mem_cons_self).append
      exact induction fun other member => each other (List.mem_cons_of_mem _ member)

/-- Changes that are withheld, and the same changes made. -/
theorem Restricts.withheld (actions : List DdlAction) (reason : Withheld) :
    Restricts (actions.map (.withheld · reason)) (actions.map .change) := by
  induction actions with
  | nil => exact .refl []
  | cons action others induction =>
      constructor
      · simp [induction.proposals]
      · simpa using induction.changes.cons action
      · simpa using induction.skips.cons action.describe

/-- Whatever is withheld of the same findings, the words for changes and skips are the same. -/
theorem Restricts.perm {less other more : List Finding} (restricts : Restricts less more)
    (otherRestricts : Restricts other more) :
    ((Finding.changes less).map DdlAction.describe ++ Finding.skips less).Perm
      ((Finding.changes other).map DdlAction.describe ++ Finding.skips other) := by
  apply (perm_describe_proposals less).trans
  rw [restricts.proposals, ← otherRestricts.proposals]
  exact (perm_describe_proposals other).symm

end Finding

open Finding (Restricts proposals)

/-- The same backend, if it can alter columns or add constraints only as stated. -/
def BackendTraits.supporting (traits : BackendTraits) (alters constrains : Bool) :
    BackendTraits :=
  { traits with alterColumn := alters, addConstraint := constrains }

namespace Field

variable {field : Field} {schema : Schema} {table name : String} {live : TableState}
  {traits : BackendTraits} {action : DdlAction}

section Sorted

/-- The changes about constraints are of the last stages, each of its own. -/
theorem constraintFindings_sorted (field : Field) (schema : Schema) (table name : String)
    (live : TableState) (traits : BackendTraits) :
    (changes (field.constraintFindings schema table name live traits)).Pairwise
        (fun first second => first.stage < second.stage) ∧
      ∀ action ∈ changes (field.constraintFindings schema table name live traits),
        1 < action.stage := by
  have unique : changes (field.uniqueFindings table name live) = [] ∨
      changes (field.uniqueFindings table name live) =
        [.addUnique table name (uniqueName table name)] := by
    unfold uniqueFindings
    split
    · exact .inr rfl
    · exact .inl rfl
  rw [constraintFindings, Finding.changes_append]
  rcases field.foreignKeyFindings_cases schema table name live traits with
    none | ⟨targetTable, targetField, onDelete, one⟩
  · rw [none]
    rcases unique with none | one
    · simp [none]
    · simp [one, DdlAction.stage]
  · rw [one]
    rcases unique with none | one
    · simp [none, DdlAction.stage]
    · simp [one, DdlAction.stage]

/-- At most one change is made to a column. -/
theorem columnFindings_sorted (valid : field.Valid) (table name : String) (column : LiveColumn)
    (traits : BackendTraits) :
    (changes (field.columnFindings table name column traits)).Pairwise
        (fun first second => first.stage < second.stage) ∧
      ∀ action ∈ changes (field.columnFindings table name column traits), action.stage = 1 := by
  have atMostOne : field.columnChanges table name column traits = [] ∨ _ :=
    columnChanges_cases valid table name column
  rw [changes_columnFindings]
  rcases atMostOne with none | ⟨target, one, -⟩ | ⟨one, -⟩
  · simp [none]
  · rw [one]
    cases traits.alterColumn <;> simp [DdlAction.stage]
  · rw [one]
    cases traits.alterColumn <;> simp [DdlAction.stage]

/-- The changes about a field are made stage by stage. -/
theorem findings_sorted (valid : field.Valid) (schema : Schema) (table name : String)
    (live : TableState) (traits : BackendTraits) :
    (changes (field.findings schema table name live traits)).Pairwise
      (fun first second => first.stage < second.stage) := by
  obtain ⟨sorted, late⟩ := field.constraintFindings_sorted schema table name live traits
  cases found : live.columns.get? name with
  | some column =>
      have single := columnFindings_sorted valid table name column traits
      rw [findings_of_column found, Finding.changes_append, List.pairwise_append]
      refine ⟨single.1, sorted, fun first made second constraint => ?_⟩
      rw [single.2 first made]
      exact late second constraint
  | none =>
      rw [findings_of_missing found]
      split
      · rw [Finding.changes_change, List.pairwise_cons]
        refine ⟨fun constraint later => ?_, sorted⟩
        exact Nat.zero_lt_of_lt (late constraint later)
      · exact .nil

end Sorted

section Proposals

theorem proposals_columnFindings (column : LiveColumn) :
    proposals (field.columnFindings table name column traits) =
      field.columnChanges table name column traits := by
  unfold columnFindings proposals
  rw [List.filterMap_map]
  cases traits.alterColumn <;> simp [Finding.proposal?, Function.comp_def]

theorem onBehalf_of_columnChanges {column : LiveColumn}
    (proposed : action ∈ field.columnChanges table name column traits) :
    action.OnBehalf table name ∧ action.stage = 1 := by
  simp only [columnChanges, List.mem_append, List.mem_ite_nil_right, List.mem_singleton]
    at proposed
  rcases proposed with ((⟨-, rfl⟩ | ⟨-, rfl⟩) | ⟨-, rfl⟩) | ⟨-, rfl⟩
  · exact ⟨.setDefault, rfl⟩
  · exact ⟨.alterType .text, rfl⟩
  · exact ⟨.setDefault, rfl⟩
  · exact ⟨.alterType .unsigned, rfl⟩

theorem onBehalf_of_constraintFindings
    (proposed : action ∈ proposals (field.constraintFindings schema table name live traits)) :
    action.OnBehalf table name ∧ 1 < action.stage := by
  rw [constraintFindings, Finding.proposals_append, List.mem_append] at proposed
  rcases proposed with foreignKey | unique
  · unfold foreignKeyFindings at foreignKey
    split at foreignKey
    · cases foreignKey
    · dsimp only at foreignKey
      split at foreignKey
      · cases foreignKey
      · split at foreignKey
        · cases foreignKey
        · have proposes (reason : Withheld) (add : DdlAction) (constrains : Bool)
              (member : action ∈ proposals
                (if constrains then [.change add] else [.withheld add reason])) :
              action = add := by
            cases constrains <;> exact List.mem_singleton.mp member
          rw [proposes _ _ _ foreignKey]
          exact ⟨.addForeignKey _ _ _, Nat.lt_succ_self 1⟩
  · unfold uniqueFindings at unique
    split at unique
    · rw [List.mem_singleton.mp unique]
      exact ⟨.addUnique, Nat.lt_of_sub_eq_succ rfl⟩
    · cases unique

/-- What is proposed about a field, and what its stage says about the live column. -/
structure Proposed (table name : String) (live : TableState) (action : DdlAction) : Prop where
  onBehalf : action.OnBehalf table name
  lacks : action.stage = 0 → live.columns.has name = false
  has : action.stage = 1 → live.columns.has name = true

theorem proposed_of_findings
    (proposed : action ∈ proposals (field.findings schema table name live traits)) :
    Proposed table name live action := by
  have ofConstraints
      (constraint : action ∈ proposals (field.constraintFindings schema table name live traits)) :
      Proposed table name live action := by
    obtain ⟨onBehalf, late⟩ := onBehalf_of_constraintFindings constraint
    exact ⟨onBehalf, by omega, by omega⟩
  cases found : live.columns.get? name with
  | some column =>
      rw [findings_of_column found, Finding.proposals_append, proposals_columnFindings,
        List.mem_append] at proposed
      rcases proposed with change | constraint
      · obtain ⟨onBehalf, stage⟩ := onBehalf_of_columnChanges change
        refine ⟨onBehalf, by omega, fun _ => ?_⟩
        rw [Record.has_eq_isSome_get?, found]
        rfl
      · exact ofConstraints constraint
  | none =>
      have added (same : action = .addColumn table name) : Proposed table name live action := by
        rw [same]
        refine ⟨.addColumn, fun _ => ?_, nofun⟩
        rw [Record.has_eq_isSome_get?, found]
        rfl
      rw [findings_of_missing found] at proposed
      split at proposed
      · rw [Finding.proposals_change, List.mem_cons] at proposed
        exact proposed.elim added ofConstraints
      · exact added (List.mem_singleton.mp proposed)

/-- If the column of a field cannot be added, that is all that is found about the field. -/
theorem findings_of_withheld {reason : Withheld}
    (held : .withheld action reason ∈ field.findings schema table name live traits)
    (first : action.stage = 0) :
    field.findings schema table name live traits =
      [.withheld (.addColumn table name) .noConstantDefault] := by
  have missing := (proposed_of_findings
    (Finding.mem_proposals_iff.mpr (.inr ⟨reason, held⟩))).lacks first
  have found : live.columns.get? name = none := by
    rwa [Record.has_eq_isSome_get?, Option.isSome_eq_false_iff, Option.isNone_iff_eq_none]
      at missing
  rw [findings_of_missing found] at held ⊢
  split at held
  · have constraint : .withheld action reason ∈
        field.constraintFindings schema table name live traits :=
      (List.mem_cons.mp held).resolve_left nofun
    have late := (onBehalf_of_constraintFindings
      (Finding.mem_proposals_iff.mpr (.inr ⟨reason, constraint⟩))).2
    omega
  · next cannot => rw [if_neg cannot]

end Proposals

section Support

variable {alters constrains : Bool}

theorem columnFindings_restricts (column : LiveColumn)
    (less : alters = true → traits.alterColumn = true) :
    Restricts (field.columnFindings table name column (traits.supporting alters constrains))
      (field.columnFindings table name column traits) := by
  change Restricts ((field.columnChanges table name column traits).map fun action =>
    if alters then .change action else .withheld action .notInPlace) _
  unfold columnFindings
  cases able : traits.alterColumn with
  | true =>
      cases alters with
      | true => exact .refl _
      | false => exact .withheld _ .notInPlace
  | false =>
      cases alters with
      | true => cases (less rfl).symm.trans able
      | false => exact .refl _

theorem foreignKeyFindings_restricts (field : Field) (schema : Schema) (table name : String)
    (live : TableState) (alters : Bool) (less : constrains = true → traits.addConstraint = true) :
    Restricts (field.foreignKeyFindings schema table name live
        (traits.supporting alters constrains))
      (field.foreignKeyFindings schema table name live traits) := by
  unfold foreignKeyFindings
  split
  · exact .refl []
  · dsimp only
    split
    · exact .refl _
    · split
      · exact .refl []
      · next reference _ _ target _ =>
        change Restricts (if constrains then _ else _) _
        cases able : traits.addConstraint with
        | true =>
            cases constrains with
            | true => exact .refl _
            | false => exact .withheld [_] .tableExists
        | false =>
            cases constrains with
            | true => cases (less rfl).symm.trans able
            | false => exact .refl _

/-- Less support withholds what is found about a field, and changes nothing else of it. -/
theorem findings_restricts (field : Field) (schema : Schema) (table name : String)
    (live : TableState) (alterLess : alters = true → traits.alterColumn = true)
    (constrainLess : constrains = true → traits.addConstraint = true) :
    Restricts (field.findings schema table name live (traits.supporting alters constrains))
      (field.findings schema table name live traits) := by
  have constraints := (field.foreignKeyFindings_restricts schema table name live
    alters constrainLess).append (.refl (field.uniqueFindings table name live))
  cases found : live.columns.get? name with
  | some column =>
      rw [findings_of_column found, findings_of_column found]
      exact (columnFindings_restricts column alterLess).append constraints
  | none =>
      rw [findings_of_missing found, findings_of_missing found]
      change Restricts (if field.canBeAdded traits then _ else _) _
      split
      · exact Restricts.append (.refl [.change (.addColumn table name)]) constraints
      · exact .refl _

end Support

end Field

namespace ReconciliationPlan

/-- A plan proposes a change if it makes it or skips what describes it. -/
def Proposes (plan : ReconciliationPlan) (action : DdlAction) : Prop :=
  action ∈ plan.actions ∨ action.describe ∈ plan.skipped

/-- The changes of a plan are about declared fields, in order, and each is made once. -/
structure Ordered (plan : ReconciliationPlan) (names : List String) : Prop where
  declared : ∀ action ∈ plan.actions, ∃ name ∈ names, action.field? = some name
  sorted : plan.actions.Pairwise (DdlAction.Before names)
  once : plan.actions.Nodup

/-- A column that a plan adds is not changed as well, and if it cannot be added, nothing else is
proposed about the field. -/
structure AddsAlone (plan : ReconciliationPlan) (name : String) : Prop where
  keepsDefault : plan.Proposes (.addColumn plan.table name) →
    ¬plan.Proposes (.setDefault plan.table name)
  keepsType : plan.Proposes (.addColumn plan.table name) →
    ∀ target, ¬plan.Proposes (.alterType plan.table name target)
  unchanged : (DdlAction.addColumn plan.table name).describe ∈ plan.skipped →
    ∀ action ∈ plan.actions, action.field? ≠ some name
  unmentioned : (DdlAction.addColumn plan.table name).describe ∈ plan.skipped →
    ∀ action : DdlAction, action.OnBehalf plan.table name → action.describe ∈ plan.skipped →
      action = .addColumn plan.table name

/-- The words for what a plan makes and for what it skips. -/
def words (plan : ReconciliationPlan) : List String :=
  plan.actions.map DdlAction.describe ++ plan.skipped

end ReconciliationPlan

section Plan

variable {entity : Entity} {schema : Schema} {live : TableState} {traits : BackendTraits}

theorem fields_sorted {fields : Record Field} (distinct : fields.keys.Nodup) :
    fields.Pairwise fun entry other =>
      fields.keys.idxOf entry.1 < fields.keys.idxOf other.1 := by
  have sorted : fields.keys.Pairwise fun name other =>
      fields.keys.idxOf name < fields.keys.idxOf other := by
    rw [List.pairwise_iff_getElem]
    intro i j here there earlier
    rwa [distinct.idxOf_getElem, distinct.idxOf_getElem]
  rwa [Record.keys, List.pairwise_map] at sorted

/-- The changes of a plan stand in the order of the fields and of their stages. -/
theorem planEntity_ordered (valid : entity.Valid) (present : live.present = true) :
    (planEntity entity schema live traits).Ordered entity.fields.keys := by
  refine ⟨fun action planned => ?_, ?_, planEntity_nodup valid.distinct⟩
  · rcases planEntity_cases planned with ⟨missing, -⟩ | ⟨-, name, field, declared, plans⟩
    · cases present.symm.trans missing
    · exact ⟨name, List.mem_map_of_mem declared, plans.onBehalf.field?⟩
  · rw [ReconciliationPlan.actions_eq, planEntity_findings present, tableFindings, changes,
      List.filterMap_flatMap, List.pairwise_flatMap]
    have about {entry : String × Field} {action : DdlAction} (planned : action ∈ changes
        (entry.2.findings schema entity.tableName entry.1 live traits)) :
        action.field? = some entry.1 :=
      (Field.plans_of_findings planned).onBehalf.field?
    constructor
    · intro entry declared
      have sorted := Field.findings_sorted (valid.fields entry.1 entry.2 declared) schema
        entity.tableName entry.1 live traits
      exact sorted.imp_of_mem fun first second earlier =>
        .stage (about first) (about second) earlier
    · exact (fields_sorted valid.distinct).imp fun earlier first made second alsoMade =>
        .field (about made) (about alsoMade) earlier

/-- The words of a proposal tell the field that it was found about. -/
theorem finding_about (present : live.present = true)
    (clear : ∀ name ∈ entity.fields.keys, ' ' ∉ name.toList) {name : String}
    (declared : name ∈ entity.fields.keys) {action proposal : DdlAction}
    (onBehalf : action.OnBehalf entity.tableName name) {finding : Finding}
    (member : finding ∈ (planEntity entity schema live traits).findings)
    (proposes : finding.proposal? = some proposal)
    (words : proposal.describe = action.describe) :
    proposal.stage = action.stage ∧ ∃ field, (name, field) ∈ entity.fields ∧
      finding ∈ field.findings schema entity.tableName name live traits := by
  rw [planEntity_findings present, tableFindings, List.mem_flatMap] at member
  obtain ⟨⟨other, field⟩, otherDeclared, there⟩ := member
  have proposed := Field.proposed_of_findings (List.mem_filterMap.mpr ⟨finding, there, proposes⟩)
  obtain ⟨rfl, stage⟩ := proposed.onBehalf.of_describe onBehalf
    (clear other (List.mem_map_of_mem otherDeclared)) (clear name declared) words
  exact ⟨stage, field, otherDeclared, there⟩

theorem proposed_of_proposes (present : live.present = true)
    (clear : ∀ name ∈ entity.fields.keys, ' ' ∉ name.toList) {name : String}
    (declared : name ∈ entity.fields.keys) {action : DdlAction}
    (onBehalf : action.OnBehalf entity.tableName name)
    (proposes : (planEntity entity schema live traits).Proposes action) :
    ∃ proposal, proposal.stage = action.stage ∧
      Field.Proposed entity.tableName name live proposal := by
  have found : ∃ finding ∈ (planEntity entity schema live traits).findings, ∃ proposal,
      finding.proposal? = some proposal ∧ proposal.describe = action.describe := by
    rcases proposes with made | skipped
    · rw [ReconciliationPlan.actions_eq] at made
      exact ⟨.change action, Finding.mem_changes_iff.mp made, action, rfl, rfl⟩
    · rw [ReconciliationPlan.skipped_eq] at skipped
      obtain ⟨proposal, reason, held, words⟩ := Finding.mem_skips_iff.mp skipped
      exact ⟨.withheld proposal reason, held, proposal, rfl, words⟩
  obtain ⟨finding, member, proposal, proposesIt, words⟩ := found
  obtain ⟨stage, field, -, there⟩ := finding_about present clear declared onBehalf member
    proposesIt words
  exact ⟨proposal, stage,
    Field.proposed_of_findings (List.mem_filterMap.mpr ⟨finding, there, proposesIt⟩)⟩

/-- A change about a field that is skipped is withheld there. -/
theorem withheld_of_skipped (present : live.present = true)
    (clear : ∀ name ∈ entity.fields.keys, ' ' ∉ name.toList) {name : String}
    (declared : name ∈ entity.fields.keys) {action : DdlAction}
    (onBehalf : action.OnBehalf entity.tableName name)
    (skipped : action.describe ∈ (planEntity entity schema live traits).skipped) :
    ∃ field held reason, (name, field) ∈ entity.fields ∧ held.stage = action.stage ∧
      .withheld held reason ∈ field.findings schema entity.tableName name live traits := by
  rw [ReconciliationPlan.skipped_eq] at skipped
  obtain ⟨held, reason, member, words⟩ := Finding.mem_skips_iff.mp skipped
  obtain ⟨stage, field, fieldDeclared, there⟩ := finding_about present clear declared onBehalf
    member rfl words
  exact ⟨field, held, reason, fieldDeclared, stage, there⟩

/-- If the column of a field is skipped, that is the only finding about the field. -/
theorem findings_of_skipped (distinct : entity.fields.keys.Nodup) (present : live.present = true)
    (clear : ∀ name ∈ entity.fields.keys, ' ' ∉ name.toList) {name : String} {field : Field}
    (declared : (name, field) ∈ entity.fields)
    (skipped : (DdlAction.addColumn entity.tableName name).describe ∈
      (planEntity entity schema live traits).skipped) :
    field.findings schema entity.tableName name live traits =
      [.withheld (.addColumn entity.tableName name) .noConstantDefault] := by
  obtain ⟨other, held, reason, otherDeclared, stage, there⟩ := withheld_of_skipped present clear
    (List.mem_map_of_mem declared) .addColumn skipped
  have same : (name, other) = (name, field) :=
    List.inj_on_of_nodup_map distinct otherDeclared declared rfl
  cases same
  exact Field.findings_of_withheld there stage

theorem planEntity_addsAlone (distinct : entity.fields.keys.Nodup)
    (present : live.present = true)
    (clear : ∀ name ∈ entity.fields.keys, ' ' ∉ name.toList) {name : String}
    (declared : name ∈ entity.fields.keys) :
    (planEntity entity schema live traits).AddsAlone name := by
  have apart {amending : DdlAction} (onBehalf : amending.OnBehalf entity.tableName name)
      (amends : amending.stage = 1)
      (adds : (planEntity entity schema live traits).Proposes (.addColumn entity.tableName name))
      (changes : (planEntity entity schema live traits).Proposes amending) : False := by
    obtain ⟨addition, first, added⟩ :=
      proposed_of_proposes present clear declared .addColumn adds
    obtain ⟨amendment, second, amended⟩ :=
      proposed_of_proposes present clear declared onBehalf changes
    cases (added.lacks first).symm.trans (amended.has (second.trans amends))
  constructor
  · exact apart .setDefault rfl
  · exact fun adds target => apart (.alterType target) rfl adds
  · intro skipped action planned about
    rcases planEntity_cases planned with ⟨missing, -⟩ | ⟨-, other, field, there, plans⟩
    · cases present.symm.trans missing
    · have onBehalf := plans.onBehalf
      obtain rfl : other = name := Option.some.inj (onBehalf.field?.symm.trans about)
      rw [mem_actions_iff distinct present there onBehalf,
        findings_of_skipped distinct present clear there skipped] at planned
      cases planned
  · intro skipped action onBehalf alsoSkipped
    obtain ⟨other, held, reason, otherDeclared, stage, there⟩ := withheld_of_skipped present clear
      declared onBehalf alsoSkipped
    rw [findings_of_skipped distinct present clear otherDeclared skipped] at there
    cases List.mem_singleton.mp there
    cases onBehalf with
    | addColumn => rfl
    | _ => cases stage

/-- Less support withholds what a plan proposes, and changes nothing else of it. -/
theorem planEntity_restricts (entity : Entity) (schema : Schema) (live : TableState)
    {alters constrains : Bool} (alterLess : alters = true → traits.alterColumn = true)
    (constrainLess : constrains = true → traits.addConstraint = true) :
    Restricts (planEntity entity schema live (traits.supporting alters constrains)).findings
      (planEntity entity schema live traits).findings := by
  cases present : live.present with
  | true =>
      rw [planEntity_findings present, planEntity_findings present]
      exact Restricts.flatMap fun entry _ => entry.2.findings_restricts schema entity.tableName
        entry.1 live alterLess constrainLess
  | false =>
      simp only [planEntity, present]
      exact .refl _

/-- The words of a plan are the same whatever is supported. -/
theorem planEntity_words_perm (entity : Entity) (schema : Schema) (live : TableState)
    (traits : BackendTraits) (alters constrains : Bool) :
    (planEntity entity schema live (traits.supporting alters constrains)).words.Perm
      (planEntity entity schema live traits).words := by
  -- Both plans withhold of the plan for a backend that supports everything.
  have restricts (alters constrains : Bool) :
      Restricts (planEntity entity schema live (traits.supporting alters constrains)).findings
        (planEntity entity schema live (traits.supporting true true)).findings := by
    change Restricts (planEntity entity schema live
      ((traits.supporting true true).supporting alters constrains)).findings _
    exact planEntity_restricts entity schema live (fun _ => rfl) (fun _ => rfl)
  unfold ReconciliationPlan.words
  simp only [ReconciliationPlan.actions_eq, ReconciliationPlan.skipped_eq]
  exact (restricts alters constrains).perm (restricts traits.alterColumn traits.addConstraint)

/-- A plan for a parsed entity is in order, adds columns alone, proposes the same whatever
changes the backend supports, and makes none that it does not support. -/
theorem planEntity_arranged {env : Record String} {text : String} {parsed : Dsl.Parsed}
    (accepted : Dsl.parse env text = .ok parsed) (member : entity ∈ parsed.schema.entities)
    (live : TableState) (present : live.present = true) (traits : BackendTraits) :
    let plan := planEntity entity parsed.schema live traits
    plan.Ordered entity.fields.keys ∧
      (∀ name ∈ entity.fields.keys, plan.AddsAlone name) ∧
      (∀ alters constrains : Bool,
        let other := traits.supporting alters constrains
        let otherPlan := planEntity entity parsed.schema live other
        entity.checkPlan live other = entity.checkPlan live traits ∧
          otherPlan.words.Perm plan.words ∧
          ((alters = true → traits.alterColumn = true) →
            (constrains = true → traits.addConstraint = true) →
            otherPlan.actions.Sublist plan.actions ∧ plan.skipped.Sublist otherPlan.skipped)) ∧
      (traits.alterColumn = false → ∀ action ∈ plan.actions,
        action.kindLabel ≠ "set_default" ∧ action.kindLabel ≠ "alter_column_type") ∧
      (traits.addConstraint = false → ∀ action ∈ plan.actions,
        action.kindLabel ≠ "add_foreign_key") := by
  intro plan
  have valid := (Dsl.parse_valid accepted).entities entity member
  have clear : ∀ name ∈ entity.fields.keys, ' ' ∉ name.toList := by
    intro name declared blank
    obtain ⟨⟨_, field⟩, fieldDeclared, rfl⟩ := List.mem_map.mp declared
    cases Dsl.isIdentifierChar_of_isIdentifier
      (Dsl.parse_read accepted member fieldDeclared).name blank
  refine ⟨planEntity_ordered valid present,
    fun name declared => planEntity_addsAlone valid.distinct present clear declared, ?_, ?_, ?_⟩
  · intro alters constrains other otherPlan
    refine ⟨rfl, planEntity_words_perm entity parsed.schema live traits alters constrains, ?_⟩
    intro alterLess constrainLess
    have restricts := planEntity_restricts entity parsed.schema live alterLess constrainLess
    rw [ReconciliationPlan.actions_eq, ReconciliationPlan.actions_eq,
      ReconciliationPlan.skipped_eq, ReconciliationPlan.skipped_eq]
    exact ⟨restricts.changes, restricts.skips⟩
  · intro fixed action planned
    rcases planEntity_cases planned with ⟨missing, -⟩ | ⟨-, name, field, -, plans⟩
    · cases present.symm.trans missing
    · cases plans with
      | alterType target alters => cases fixed.symm.trans alters
      | setDefault alters => cases fixed.symm.trans alters
      | _ => simp [DdlAction.kindLabel]
  · intro fixed action planned
    rcases planEntity_cases planned with ⟨missing, -⟩ | ⟨-, name, field, -, plans⟩
    · cases present.symm.trans missing
    · cases plans with
      | addForeignKey reference target constrains => cases fixed.symm.trans constrains
      | _ => simp [DdlAction.kindLabel]

/-- Four changes of a table of posts are made where all of them are supported; two of them are
skipped where no column is altered and no constraint added. -/
theorem planEntity_arranged_posts :
    let text := "datasource db \x7b\nprovider = \"mysql\"\n" ++
      "url = \"mysql://u:p@h/d\"\n\x7d\n" ++
      "model User \x7b\nid Int @id\n\x7d\nmodel Post \x7b\nid Int @id\n" ++
      "userId Int? @references(User.id)\ntitle String @unique @default(\"a'b\")\n\x7d\n"
    let post : Entity :=
      { name := "Post"
        fields := [("id", { type := .int, isId := true }),
          ("userId", { type := .int, isOptional := true, reference := some ⟨"User", "id"⟩ }),
          ("title", { type := .string, isUnique := true, defaultText := some "a'b" })] }
    let schema : Schema :=
      { datasource := { provider := .mysql, url := "mysql://u:p@h/d" }
        entities := [⟨"User", [("id", { type := .int, isId := true })]⟩, post] }
    let live : TableState :=
      { name := "posts"
        present := true
        columns := [("id", { name := "id", type := "int unsigned" }),
          ("title", { name := "title", type := "varchar(255)" })] }
    let traits := BackendTraits.ofName "mysql"
    let plan := planEntity post schema live traits
    let less := planEntity post schema live (traits.supporting false false)
    Dsl.parse [] text = .ok ⟨schema, []⟩ ∧ post ∈ schema.entities ∧ live.present = true ∧
      plan.Ordered ["id", "userId", "title"] ∧
      plan.actions = [.addColumn "posts" "userId",
        .addForeignKey "posts" "userId" "posts_userId_foreign" "users" "id" none,
        .setDefault "posts" "title", .addUnique "posts" "title" "posts_title_unique"] ∧
      less.words.Perm plan.words ∧
      less.skipped = ["add foreign key posts_userId_foreign (posts.userId → users.id)",
        "set default of posts.title"] := by
  intro text post schema live traits plan less
  have accepted : Dsl.parse [] text = .ok ⟨schema, []⟩ := by decide +kernel
  have member : post ∈ schema.entities := by decide
  obtain ⟨ordered, -, support, -⟩ := planEntity_arranged accepted member live rfl traits
  exact ⟨accepted, member, rfl, ordered, by decide +kernel, (support false false).2.1,
    by decide +kernel⟩

end Plan

end SchemaStore
