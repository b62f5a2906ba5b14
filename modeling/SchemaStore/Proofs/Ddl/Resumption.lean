import Mathlib.Data.List.Basic
import SchemaStore.Proofs.Ddl.Declared
import SchemaStore.Proofs.Ddl.Findings
import SchemaStore.Proofs.Dsl.Valid

/-!
# Interrupted reconciliation

A change that is first in the findings about a field clears exactly its own
finding, and leaves the findings about all other fields as they are.  So the plan
for the table that the first changes of a plan lead to holds the remaining
changes, and skips the same.
-/

namespace SchemaStore

open Finding (Leaves changes skips)

namespace Field

variable {field : Field} {schema : Schema} {table name : String} {live : TableState}
  {traits : BackendTraits} {action : DdlAction}

/-- What is found about the constraints of a field. -/
def constraintFindings (field : Field) (schema : Schema) (table name : String)
    (live : TableState) (traits : BackendTraits) : List Finding :=
  field.foreignKeyFindings schema table name live traits ++ field.uniqueFindings table name live

theorem findings_of_column {column : LiveColumn} (found : live.columns.get? name = some column) :
    field.findings schema table name live traits =
      field.columnFindings table name column traits ++
        field.constraintFindings schema table name live traits := by
  simp only [findings, found, constraintFindings]

theorem findings_of_missing (missing : live.columns.get? name = none) :
    field.findings schema table name live traits =
      if field.canBeAdded traits then
        .change (.addColumn table name) ::
          field.constraintFindings schema table name live traits
      else [.withheld (.addColumn table name) .noConstantDefault] := by
  simp only [findings, missing, constraintFindings]

/-- Nothing is to be done about a foreign key that is there. -/
theorem foreignKeyFindings_of_has (field : Field) (schema : Schema) (traits : BackendTraits)
    (has : live.hasForeignKey (foreignKeyName table name) name = true) :
    changes (field.foreignKeyFindings schema table name live traits) = [] ∧
      skips (field.foreignKeyFindings schema table name live traits) = [] := by
  unfold foreignKeyFindings
  cases field.reference with
  | none => exact ⟨rfl, rfl⟩
  | some reference =>
      simp only [has, if_true]
      exact ⟨rfl, rfl⟩

theorem foreignKeyFindings_cases (field : Field) (schema : Schema) (table name : String)
    (live : TableState) (traits : BackendTraits) :
    changes (field.foreignKeyFindings schema table name live traits) = [] ∨
      ∃ targetTable targetField onDelete,
        field.foreignKeyFindings schema table name live traits =
          [.change (.addForeignKey table name (foreignKeyName table name) targetTable
            targetField onDelete)] := by
  unfold foreignKeyFindings
  cases field.reference with
  | none => exact .inl rfl
  | some reference =>
      by_cases has : live.hasForeignKey (foreignKeyName table name) name
      · simp only [has, if_true]
        exact .inl rfl
      · simp only [has]
        cases schema.entity? reference.entity with
        | none => exact .inl rfl
        | some target =>
            cases traits.addConstraint with
            | false => exact .inl rfl
            | true => exact .inr ⟨_, _, _, rfl⟩

/-- The first change about the constraints of a field clears exactly its own finding. -/
theorem constraintFindings_step {rest : List DdlAction}
    (found : changes (field.constraintFindings schema table name live traits) = action :: rest) :
    action.OnBehalf table name ∧
      (action.effect schema traits live).columns = live.columns ∧
      Leaves action (field.constraintFindings schema table name live traits)
        (field.constraintFindings schema table name (action.effect schema traits live) traits) := by
  rw [constraintFindings, Finding.changes_append] at found
  rcases field.foreignKeyFindings_cases schema table name live traits with
    none | ⟨targetTable, targetField, onDelete, missing⟩
  · rw [none, List.nil_append] at found
    unfold uniqueFindings at found
    split at found
    · next lacks =>
      obtain ⟨rfl, -⟩ := List.cons.inj found
      refine ⟨.addUnique, rfl, ?_⟩
      have cleared : field.uniqueFindings table name
          (DdlAction.effect schema traits live
            (.addUnique table name (uniqueName table name))) = [] := by
        simp [uniqueFindings, DdlAction.effect, TableState.hasUnique]
      unfold constraintFindings
      refine Leaves.after ?_ none
      rw [cleared, uniqueFindings, if_pos lacks]
      exact ⟨rfl, rfl⟩
    · cases found
  · rw [missing] at found
    obtain ⟨rfl, -⟩ := List.cons.inj found
    refine ⟨.addForeignKey targetTable targetField onDelete, rfl, ?_⟩
    have has : TableState.hasForeignKey
        (DdlAction.effect schema traits live (.addForeignKey table name
          (foreignKeyName table name) targetTable targetField onDelete))
        (foreignKeyName table name) name = true := by
      simp [DdlAction.effect, TableState.hasForeignKey]
    obtain ⟨noChange, noSkip⟩ := foreignKeyFindings_of_has field schema traits has
    refine Leaves.append ?_ _
    constructor
    · rw [missing, noChange]
      rfl
    · rw [missing, noSkip]
      rfl

/-- Changes of an existing column are either all withheld, or there is at most one; once it took
effect nothing is found about the column. -/
theorem columnFindings_cases (valid : field.Valid) (traits : BackendTraits)
    (declared : DdlAction.fieldOf schema table name = .ok field) {column : LiveColumn}
    (found : live.columns.get? name = some column) :
    changes (field.columnFindings table name column traits) = [] ∨
      ∃ action changed,
        field.columnFindings table name column traits = [.change action] ∧
        action.OnBehalf table name ∧
        action.effect schema traits live =
          { live with columns := live.columns.put name changed } ∧
        field.columnFindings table name changed traits = [] := by
  have settledFindings {changed : LiveColumn} (settled : field.Settled traits changed) :
      field.columnFindings table name changed traits = [] := by
    rw [columnFindings, (columnChanges_eq_nil_iff valid table name changed).mpr settled]
    rfl
  cases alters : traits.alterColumn with
  | false =>
      left
      simp [columnFindings, alters, changes, Finding.change?, Function.comp_def]
  | true =>
      rcases columnChanges_cases valid table name column with
        none | ⟨target, single, planned⟩ | ⟨single, planned⟩
      · left
        rw [columnFindings, none]
        rfl
      · right
        refine ⟨_, _, ?_, .alterType target, ?_,
          settledFindings (settled_alterType valid name column planned)⟩
        · rw [columnFindings, single, List.map_singleton, if_pos alters]
        · simp only [DdlAction.effect, declared, TableState.changeColumn, found]
      · right
        refine ⟨_, _, ?_, .setDefault, ?_,
          settledFindings (settled_setDefault valid name column planned)⟩
        · rw [columnFindings, single, List.map_singleton, if_pos alters]
        · simp only [DdlAction.effect, declared, TableState.changeColumn, found]

/-- The first change about a field clears exactly its own finding. -/
theorem findings_step (valid : field.Valid)
    (declared : DdlAction.fieldOf schema table name = .ok field) {rest : List DdlAction}
    (first : changes (field.findings schema table name live traits) = action :: rest) :
    action.OnBehalf table name ∧
      Leaves action (field.findings schema table name live traits)
        (field.findings schema table name (action.effect schema traits live) traits) := by
  cases found : live.columns.get? name with
  | none =>
      rw [findings_of_missing found] at first ⊢
      split at first
      · next canBeAdded =>
        obtain ⟨rfl, -⟩ := List.cons.inj first
        refine ⟨.addColumn, ?_⟩
        have added : DdlAction.effect schema traits live (.addColumn table name) =
            { live with
              columns := live.columns.put name ((field.column name traits).reported traits) } := by
          simp only [DdlAction.effect, declared]
        have settled : field.Settled traits ((field.column name traits).reported traits) :=
          settled_column valid name
        rw [if_pos canBeAdded, added, findings_of_column (by rw [Record.get?_put, if_pos rfl]),
          columnFindings, (columnChanges_eq_nil_iff valid table name _).mpr settled]
        constructor <;> rfl
      · cases first
  | some column =>
      rw [findings_of_column found] at first ⊢
      rcases columnFindings_cases valid traits declared found with
        none | ⟨change, changed, single, onBehalf, effect, cleared⟩
      · rw [Finding.changes_append, none, List.nil_append] at first
        obtain ⟨onBehalf, sameColumns, leaves⟩ := constraintFindings_step first
        refine ⟨onBehalf, ?_⟩
        have stillFound :
            (action.effect schema traits live).columns.get? name = some column := by
          rw [sameColumns, found]
        rw [findings_of_column stillFound]
        exact leaves.after none
      · rw [single] at first ⊢
        obtain ⟨rfl, -⟩ := List.cons.inj first
        refine ⟨onBehalf, ?_⟩
        rw [effect, findings_of_column (by rw [Record.get?_put, if_pos rfl]), cleared]
        constructor <;> rfl

end Field

/-- What is found about the fields of a table that exists. -/
def tableFindings (fields : Record Field) (schema : Schema) (table : String)
    (live : TableState) (traits : BackendTraits) : List Finding :=
  fields.flatMap fun (name, field) => field.findings schema table name live traits

section Table

variable {fields : Record Field} {schema : Schema} {table : String} {live : TableState}
  {traits : BackendTraits} {action : DdlAction}

/-- A change on behalf of another field leaves the findings as they are. -/
theorem tableFindings_of_onBehalf {name : String} (onBehalf : action.OnBehalf table name)
    (absent : name ∉ fields.keys) :
    tableFindings fields schema table (action.effect schema traits live) traits =
      tableFindings fields schema table live traits := by
  apply List.flatMap_congr
  rintro ⟨other, field⟩ member
  apply Field.findings_congr
  apply DdlAction.effect_agrees schema traits live onBehalf
  rintro rfl
  exact absent (List.mem_map_of_mem member)

/-- The first change of a table clears exactly its own finding. -/
theorem tableFindings_step (distinct : fields.keys.Nodup)
    (valid : ∀ name field, (name, field) ∈ fields → field.Valid)
    (declared : ∀ name field, (name, field) ∈ fields →
      DdlAction.fieldOf schema table name = .ok field) {rest : List DdlAction}
    (first : changes (tableFindings fields schema table live traits) = action :: rest) :
    (∃ name ∈ fields.keys, action.OnBehalf table name) ∧
      Leaves action (tableFindings fields schema table live traits)
        (tableFindings fields schema table (action.effect schema traits live) traits) := by
  -- The step is about the first field with a change; the fields before it have none.
  induction fields with
  | nil => cases first
  | cons entry others induction =>
      obtain ⟨name, field⟩ := entry
      obtain ⟨fresh, othersDistinct⟩ := List.nodup_cons.mp distinct
      have split (state : TableState) :
          tableFindings ((name, field) :: others) schema table state traits =
            field.findings schema table name state traits ++
              tableFindings others schema table state traits :=
        List.flatMap_cons
      rw [split, Finding.changes_append] at first
      rw [split, split]
      cases own : changes (field.findings schema table name live traits) with
      | nil =>
          rw [own, List.nil_append] at first
          obtain ⟨⟨other, member, onBehalf⟩, leaves⟩ := induction othersDistinct
            (fun name field later => valid name field (List.mem_cons_of_mem _ later))
            (fun name field later => declared name field (List.mem_cons_of_mem _ later)) first
          refine ⟨⟨other, List.mem_cons_of_mem _ member, onBehalf⟩, ?_⟩
          have different : name ≠ other := by
            rintro rfl
            exact fresh member
          rw [Field.findings_congr
            (DdlAction.effect_agrees schema traits live onBehalf different)]
          exact leaves.after own
      | cons change more =>
          rw [own, List.cons_append] at first
          obtain ⟨rfl, -⟩ := List.cons.inj first
          obtain ⟨onBehalf, leaves⟩ := Field.findings_step
            (valid name field List.mem_cons_self) (declared name field List.mem_cons_self) own
          refine ⟨⟨name, List.mem_cons_self, onBehalf⟩, ?_⟩
          rw [tableFindings_of_onBehalf onBehalf fresh]
          exact leaves.append _

end Table

/-- The live table after changes took effect one after the other. -/
def TableState.after (schema : Schema) (traits : BackendTraits) (live : TableState)
    (actions : List DdlAction) : TableState :=
  actions.foldl (DdlAction.effect schema traits) live

section Plan

variable {entity : Entity} {schema : Schema} {live : TableState} {traits : BackendTraits}

theorem planEntity_findings (present : live.present = true) :
    (planEntity entity schema live traits).findings =
      tableFindings entity.fields schema entity.tableName live traits := by
  simp only [planEntity, present, if_true]
  rfl

/-- A table with more columns passes the check of the defaults, too. -/
theorem checkPlan_of_has {other : TableState}
    (present : other.present = live.present)
    (more : ∀ name, live.columns.has name = true → other.columns.has name = true)
    (checked : entity.checkPlan live traits = .ok ()) :
    entity.checkPlan other traits = .ok () := by
  unfold Entity.checkPlan at checked ⊢
  rw [present]
  split
  · next there =>
    rw [if_pos there, Except.forM_eq_ok] at checked
    apply Except.forM_eq_ok.mpr
    rintro ⟨name, field⟩ member
    have fieldChecked := checked (name, field) member
    dsimp only at fieldChecked ⊢
    by_cases has : live.columns.has name = true
    · simp [more name has]
    · split
      · rfl
      · next needed =>
        have stillNeeded :
            ¬(live.columns.has name || traits.addRequiredColumn || field.isOptional) = true := by
          simp only [Bool.or_eq_true, not_or] at needed ⊢
          exact ⟨⟨has, needed.1.2⟩, needed.2⟩
        rwa [if_neg stillNeeded] at fieldChecked
  · rfl

/-- After some changes of a plan were made, the next plan holds the remaining ones. -/
theorem planEntity_after (valid : schema.Valid) (member : entity ∈ schema.entities)
    (present : live.present = true) {made rest : List DdlAction}
    (planned : (planEntity entity schema live traits).actions = made ++ rest) :
    (planEntity entity schema (live.after schema traits made) traits).actions = rest ∧
      (planEntity entity schema (live.after schema traits made) traits).skipped =
        (planEntity entity schema live traits).skipped ∧
      (entity.checkPlan live traits = .ok () →
        entity.checkPlan (live.after schema traits made) traits = .ok ()) := by
  induction made generalizing live with
  | nil => exact ⟨planned, rfl, id⟩
  | cons action others induction =>
      have entityValid := valid.entities entity member
      have first := planned
      rw [ReconciliationPlan.actions_eq, planEntity_findings present] at first
      obtain ⟨⟨name, -, onBehalf⟩, leaves⟩ := tableFindings_step entityValid.distinct
        entityValid.fields (fun name field declared => valid.fieldOf_tableName member declared)
        first
      have stillPresent := DdlAction.effect_present schema traits live onBehalf
      have remaining : (planEntity entity schema (action.effect schema traits live) traits).actions
          = others ++ rest := by
        rw [ReconciliationPlan.actions_eq, planEntity_findings (stillPresent.trans present)]
        exact (List.cons.inj (leaves.changes.symm.trans first)).2
      obtain ⟨actions, skipped, checks⟩ := induction (stillPresent.trans present) remaining
      refine ⟨actions, ?_, ?_⟩
      · rw [TableState.after, List.foldl_cons]
        refine skipped.trans ?_
        rw [ReconciliationPlan.skipped_eq, ReconciliationPlan.skipped_eq,
          planEntity_findings present, planEntity_findings (stillPresent.trans present)]
        exact leaves.skips.symm
      · intro checked
        apply checks
        exact checkPlan_of_has stillPresent
          (fun column has => DdlAction.effect_has schema traits live onBehalf has) checked

/-- A reconciliation that was interrupted resumes where it stopped: after any number of its
changes were made, the next plan holds the remaining changes in order and skips the same, and
it can be made if the first one could. -/
theorem planEntity_resumes {env : Record String} {text : String} {parsed : Dsl.Parsed}
    (accepted : Dsl.parse env text = .ok parsed) (member : entity ∈ parsed.schema.entities)
    (live : TableState) (present : live.present = true) (traits : BackendTraits) (count : Nat) :
    let plan := planEntity entity parsed.schema live traits
    let reached := live.after parsed.schema traits (plan.actions.take count)
    let resumed := planEntity entity parsed.schema reached traits
    resumed.actions = plan.actions.drop count ∧
      resumed.skipped = plan.skipped ∧
      (entity.checkPlan live traits = .ok () → entity.checkPlan reached traits = .ok ()) := by
  intro plan
  have planned : plan.actions = plan.actions.take count ++ plan.actions.drop count :=
    (List.take_append_drop count plan.actions).symm
  exact planEntity_after (Dsl.parse_valid accepted) member present planned

/-- Two of the four changes of a table of posts were made; the other two remain. -/
theorem planEntity_resumes_posts :
    let text := "datasource db \x7b\nprovider = \"mysql\"\n" ++
      "url = \"mysql://u:p@h/d\"\n\x7d\n" ++
      "model User \x7b\nid Int @id\n\x7d\nmodel Post \x7b\nid Int @id\n" ++
      "userId Int @references(User.id)\ntitle String @unique @default(\"a'b\")\n\x7d\n"
    let post : Entity :=
      { name := "Post"
        fields := [("id", { type := .int, isId := true }),
          ("userId", { type := .int, reference := some ⟨"User", "id"⟩ }),
          ("title", { type := .string, isUnique := true, defaultText := some "a'b" })] }
    let schema : Schema :=
      { datasource := { provider := .mysql, url := "mysql://u:p@h/d" }
        entities := [⟨"User", [("id", { type := .int, isId := true })]⟩, post] }
    let live : TableState :=
      { name := "posts"
        present := true
        columns := [("id", { name := "id", type := "int unsigned" }),
          ("title", { name := "title", type := "varchar(255)" })] }
    let traits := BackendTraits.ofName "mysql"
    let plan := planEntity post schema live traits
    let reached := live.after schema traits (plan.actions.take 2)
    Dsl.parse [] text = .ok ⟨schema, []⟩ ∧ post ∈ schema.entities ∧ live.present = true ∧
      plan.actions.take 2 =
        [.addColumn "posts" "userId",
          .addForeignKey "posts" "userId" "posts_userId_foreign" "users" "id" none] ∧
      (planEntity post schema reached traits).actions =
        [.setDefault "posts" "title", .addUnique "posts" "title" "posts_title_unique"] := by
  intro text post schema live traits plan reached
  have accepted : Dsl.parse [] text = .ok ⟨schema, []⟩ := by decide +kernel
  have member : post ∈ schema.entities := by decide
  obtain ⟨actions, -, -⟩ := planEntity_resumes accepted member live rfl traits 2
  refine ⟨accepted, member, rfl, by decide +kernel, ?_⟩
  rw [actions]
  decide +kernel

end Plan

end SchemaStore
