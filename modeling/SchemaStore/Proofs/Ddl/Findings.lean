import SchemaStore.Proofs.Ddl.Effect

/-!
# Findings about one field

The findings about a field hold changes of the table of the field, each about the
field itself.  They read the live table only where the field is concerned, so a
change that is about another field leaves them as they are.
-/

namespace SchemaStore

namespace Finding

/-- The change to make, if the finding is one. -/
def change? : Finding → Option DdlAction
  | .change action => some action
  | _ => none

/-- What is skipped, in words, if the finding is a change that is withheld. -/
def skip? : Finding → Option String
  | .withheld action _ => some action.describe
  | _ => none

/-- The changes to make, in order. -/
def changes (findings : List Finding) : List DdlAction :=
  findings.filterMap change?

/-- What is skipped, in order. -/
def skips (findings : List Finding) : List String :=
  findings.filterMap skip?

@[simp] theorem changes_nil : changes [] = [] := rfl

@[simp] theorem skips_nil : skips [] = [] := rfl

@[simp] theorem changes_append (findings others : List Finding) :
    changes (findings ++ others) = changes findings ++ changes others :=
  List.filterMap_append

@[simp] theorem skips_append (findings others : List Finding) :
    skips (findings ++ others) = skips findings ++ skips others :=
  List.filterMap_append

@[simp] theorem changes_change (action : DdlAction) (others : List Finding) :
    changes (.change action :: others) = action :: changes others := rfl

@[simp] theorem skips_change (action : DdlAction) (others : List Finding) :
    skips (.change action :: others) = skips others := rfl

@[simp] theorem changes_withheld (action : DdlAction) (reason : Withheld)
    (others : List Finding) :
    changes (.withheld action reason :: others) = changes others := rfl

@[simp] theorem skips_withheld (action : DdlAction) (reason : Withheld)
    (others : List Finding) :
    skips (.withheld action reason :: others) = action.describe :: skips others := rfl

@[simp] theorem changes_present (name : String) (others : List Finding) :
    changes (.present name :: others) = changes others := rfl

@[simp] theorem skips_present (name : String) (others : List Finding) :
    skips (.present name :: others) = skips others := rfl

/-- Once a change is made, the later findings hold the remaining changes and skip the same. -/
structure Leaves (action : DdlAction) (before after : List Finding) : Prop where
  changes : changes before = action :: changes after
  skips : skips before = skips after

theorem Leaves.append {action : DdlAction} {before after : List Finding}
    (leaves : Leaves action before after) (others : List Finding) :
    Leaves action (before ++ others) (after ++ others) := by
  constructor
  · rw [changes_append, changes_append, leaves.changes, List.cons_append]
  · rw [skips_append, skips_append, leaves.skips]

theorem Leaves.after {action : DdlAction} {before after : List Finding}
    (leaves : Leaves action before after) {earlier : List Finding}
    (unchanged : Finding.changes earlier = []) :
    Leaves action (earlier ++ before) (earlier ++ after) := by
  constructor
  · rw [changes_append, changes_append, unchanged, leaves.changes]
    rfl
  · rw [skips_append, skips_append, leaves.skips]

end Finding

theorem ReconciliationPlan.actions_eq (plan : ReconciliationPlan) :
    plan.actions = Finding.changes plan.findings := by
  unfold actions Finding.changes
  congr 1

theorem ReconciliationPlan.skipped_eq (plan : ReconciliationPlan) :
    plan.skipped = Finding.skips plan.findings := by
  unfold skipped Finding.skips
  congr 1

/-- A change that a plan makes on behalf of one field of a table that exists. -/
inductive DdlAction.OnBehalf (table name : String) : DdlAction → Prop where
  | addColumn : OnBehalf table name (.addColumn table name)
  | alterType (target : TypeTarget) : OnBehalf table name (.alterType table name target)
  | setDefault : OnBehalf table name (.setDefault table name)
  | addForeignKey (targetTable targetField : String) (onDelete : Option String) :
      OnBehalf table name
        (.addForeignKey table name (foreignKeyName table name) targetTable targetField onDelete)
  | addUnique : OnBehalf table name (.addUnique table name (uniqueName table name))

theorem foreignKeyName_inj {table name other : String} :
    foreignKeyName table name = foreignKeyName table other ↔ name = other := by
  simp [foreignKeyName, String.append_left_inj, String.append_right_inj]

namespace TableState

/-- Two live tables are the same where a field is concerned. -/
structure AgreesAbout (table name : String) (state other : TableState) : Prop where
  column : other.columns.get? name = state.columns.get? name
  foreignKey : other.hasForeignKey (foreignKeyName table name) name =
    state.hasForeignKey (foreignKeyName table name) name
  unique : other.hasUnique name = state.hasUnique name

theorem AgreesAbout.refl (table name : String) (state : TableState) :
    AgreesAbout table name state state :=
  ⟨rfl, rfl, rfl⟩

theorem changeColumn_get? (state : TableState) (name other : String)
    (change : LiveColumn → LiveColumn) :
    (state.changeColumn name change).columns.get? other =
      if other = name then (state.columns.get? name).map change
      else state.columns.get? other := by
  unfold changeColumn
  split
  · next column found =>
    rw [Record.get?_put]
    split <;> simp [found]
  · next missing =>
    split
    · next same => simp [same, missing]
    · rfl

theorem changeColumn_present (state : TableState) (name : String)
    (change : LiveColumn → LiveColumn) :
    (state.changeColumn name change).present = state.present := by
  unfold changeColumn
  split <;> rfl

theorem changeColumn_hasForeignKey (state : TableState) (name : String)
    (change : LiveColumn → LiveColumn) (key column : String) :
    (state.changeColumn name change).hasForeignKey key column = state.hasForeignKey key column := by
  unfold changeColumn
  split <;> rfl

theorem changeColumn_hasUnique (state : TableState) (name : String)
    (change : LiveColumn → LiveColumn) (column : String) :
    (state.changeColumn name change).hasUnique column = state.hasUnique column := by
  unfold changeColumn
  split <;> rfl

/-- A change of one column is none about another field. -/
theorem changeColumn_agrees (state : TableState) (table : String) {name other : String}
    (different : other ≠ name) (change : LiveColumn → LiveColumn) :
    AgreesAbout table other state (state.changeColumn name change) := by
  constructor
  · rw [changeColumn_get?, if_neg different]
  · exact changeColumn_hasForeignKey state name change _ _
  · exact changeColumn_hasUnique state name change _

theorem changeColumn_has (state : TableState) (name : String)
    (change : LiveColumn → LiveColumn) {column : String}
    (has : state.columns.has column = true) :
    (state.changeColumn name change).columns.has column = true := by
  rw [Record.has_eq_isSome_get?] at has ⊢
  rw [changeColumn_get?]
  split
  · next same => simpa [same] using has
  · exact has

end TableState

namespace DdlAction

variable {table name : String} {action : DdlAction}

/-- A change on behalf of a field keeps that the table exists. -/
theorem effect_present (schema : Schema) (traits : BackendTraits) (live : TableState)
    (onBehalf : action.OnBehalf table name) :
    (effect schema traits live action).present = live.present := by
  cases onBehalf with
  | addColumn =>
      simp only [effect]
      split <;> rfl
  | alterType target =>
      simp only [effect]
      split
      · exact TableState.changeColumn_present live name _
      · rfl
  | setDefault =>
      simp only [effect]
      split
      · exact TableState.changeColumn_present live name _
      · rfl
  | addForeignKey targetTable targetField onDelete => rfl
  | addUnique => rfl

/-- A change on behalf of a field keeps the columns that are there. -/
theorem effect_has (schema : Schema) (traits : BackendTraits) (live : TableState)
    (onBehalf : action.OnBehalf table name) {column : String}
    (has : live.columns.has column = true) :
    (effect schema traits live action).columns.has column = true := by
  cases onBehalf with
  | addColumn =>
      simp only [effect]
      split
      · rw [Record.has_eq_isSome_get?] at has ⊢
        rw [Record.get?_put]
        split
        · rfl
        · exact has
      · exact has
  | alterType target =>
      simp only [effect]
      split
      · exact TableState.changeColumn_has live name _ has
      · exact has
  | setDefault =>
      simp only [effect]
      split
      · exact TableState.changeColumn_has live name _ has
      · exact has
  | addForeignKey targetTable targetField onDelete => exact has
  | addUnique => exact has

/-- A change on behalf of a field is none about another field. -/
theorem effect_agrees (schema : Schema) (traits : BackendTraits) (live : TableState)
    (onBehalf : action.OnBehalf table name) {other : String} (different : other ≠ name) :
    TableState.AgreesAbout table other live (effect schema traits live action) := by
  cases onBehalf with
  | addColumn =>
      simp only [effect]
      split
      · constructor
        · rw [Record.get?_put, if_neg different]
        · rfl
        · rfl
      · exact .refl table other live
  | alterType target =>
      simp only [effect]
      split
      · exact TableState.changeColumn_agrees live table different _
      · exact .refl table other live
  | setDefault =>
      simp only [effect]
      split
      · exact TableState.changeColumn_agrees live table different _
      · exact .refl table other live
  | addForeignKey targetTable targetField onDelete =>
      constructor
      · rfl
      · simp [effect, TableState.hasForeignKey, foreignKeyName_inj, different.symm]
      · rfl
  | addUnique =>
      constructor
      · rfl
      · rfl
      · simp [effect, TableState.hasUnique, different.symm]

end DdlAction

namespace Field

variable {field : Field} {schema : Schema} {table name : String} {live : TableState}
  {traits : BackendTraits}

/-- The findings read of the live table only what is about the field. -/
theorem findings_congr {other : TableState} (agrees : live.AgreesAbout table name other) :
    field.findings schema table name other traits =
      field.findings schema table name live traits := by
  simp only [findings, foreignKeyFindings, uniqueFindings, agrees.column, agrees.foreignKey,
    agrees.unique]

end Field

end SchemaStore
