import SchemaStore.Proofs.Ddl.Creation
import SchemaStore.Proofs.Ddl.Planned

/-!
# What changes presuppose

A change may only name tables and columns that are there when its turn comes.
`DdlAction.Ready` says what a change needs, and `InOrder` that every change of a
sequence has it.  The changes that a schema plans for all its tables are in order
unless a missing foreign key leads ahead: to a field of the same entity that is
declared later and has no column yet.
-/

namespace SchemaStore

open Finding (changes)

/-- The live tables of a database by name. -/
abbrev LiveTables := String → TableState

namespace DdlAction

/-- The live tables after a change took effect. -/
def perform (schema : Schema) (traits : BackendTraits) (tables : LiveTables)
    (action : DdlAction) : LiveTables :=
  Function.update tables action.table (action.effect schema traits (tables action.table))

end DdlAction

namespace LiveTables

/-- A table is there and has a column. -/
def HasColumn (tables : LiveTables) (table column : String) : Prop :=
  (tables table).present = true ∧ (tables table).hasColumn column = true

/-- The live tables after several changes took effect in order. -/
def afterAll (schema : Schema) (traits : BackendTraits) (tables : LiveTables)
    (actions : List DdlAction) : LiveTables :=
  actions.foldl (DdlAction.perform schema traits) tables

end LiveTables

/-- What a change names is there.  The foreign keys of a new table may lead to the table itself. -/
def DdlAction.Ready (schema : Schema) (traits : BackendTraits) (tables : LiveTables) :
    DdlAction → Prop
  | .createTable table =>
      ∀ entity ∈ schema.entities, entity.tableName = table →
        ∀ key ∈ (entity.table schema traits).foreignKeys,
          LiveTables.HasColumn (DdlAction.perform schema traits tables (.createTable table))
            key.targetTable key.targetColumn
  | .addColumn table _ => (tables table).present = true
  | .alterType table field _ | .setDefault table field | .addUnique table field _ =>
      tables.HasColumn table field
  | .addForeignKey table field _ targetTable targetField _ =>
      tables.HasColumn table field ∧ tables.HasColumn targetTable targetField

/-- Every change of a sequence is ready when its turn comes. -/
def InOrder (schema : Schema) (traits : BackendTraits) (tables : LiveTables) :
    List DdlAction → Prop
  | [] => True
  | action :: rest =>
      action.Ready schema traits tables ∧
        InOrder schema traits (action.perform schema traits tables) rest

/-- The changes that are planned for the tables of a schema, in the order of declaration. -/
def Schema.plannedChanges (schema : Schema) (live : LiveTables) (traits : BackendTraits) :
    List DdlAction :=
  schema.entities.flatMap fun entity =>
    (planEntity entity schema (live entity.tableName) traits).actions

/-- A missing foreign key of a live table leads to a field of its own entity that is declared
later and has no column yet. -/
def Entity.LeadsAhead (entity : Entity) (live : TableState) : Prop :=
  ∃ before name field after reference,
    entity.fields = before ++ (name, field) :: after ∧
      field.reference = some reference ∧
      Text.lower reference.entity = entity.key ∧
      reference.field ∈ Record.keys after ∧
      live.hasColumn reference.field = false ∧
      live.hasForeignKey (foreignKeyName entity.tableName name) name = false

section

variable {schema : Schema} {traits : BackendTraits} {tables : LiveTables}

theorem inOrder_append (actions others : List DdlAction) :
    InOrder schema traits tables (actions ++ others) ↔
      InOrder schema traits tables actions ∧
        InOrder schema traits (tables.afterAll schema traits actions) others := by
  induction actions generalizing tables with
  | nil => simp [InOrder, LiveTables.afterAll]
  | cons action rest induction =>
      rw [List.cons_append, InOrder, InOrder, induction, and_assoc]
      rfl

theorem afterAll_append (actions others : List DdlAction) :
    tables.afterAll schema traits (actions ++ others) =
      (tables.afterAll schema traits actions).afterAll schema traits others :=
  List.foldl_append

/-- Changes of one table leave the other tables as they are. -/
theorem afterAll_other {table other : String} (different : other ≠ table)
    {actions : List DdlAction} (onTable : ∀ action ∈ actions, action.table = table) :
    tables.afterAll schema traits actions other = tables other := by
  induction actions generalizing tables with
  | nil => rfl
  | cons action rest induction =>
      obtain ⟨first, others⟩ := List.forall_mem_cons.mp onTable
      rw [LiveTables.afterAll, List.foldl_cons]
      refine (induction others).trans ?_
      rw [DdlAction.perform, first, Function.update_of_ne different]

end

/-- A change on behalf of a field that adds no column. -/
structure DdlAction.Amends (table name : String) (action : DdlAction) : Prop where
  onBehalf : action.OnBehalf table name
  notAdded : action ≠ .addColumn table name

section Amends

variable {schema : Schema} {traits : BackendTraits} {tables : LiveTables}
  {table name : String} {action : DdlAction}

theorem TableState.changeColumn_hasColumn (state : TableState) (name : String)
    (change : LiveColumn → LiveColumn) (column : String) :
    (state.changeColumn name change).hasColumn column = state.hasColumn column := by
  simp only [hasColumn, Record.has_eq_isSome_get?, changeColumn_get?]
  split
  · next same => simp [same]
  · rfl

/-- An amendment keeps the columns of its table. -/
theorem DdlAction.Amends.effect_hasColumn (amends : action.Amends table name)
    (schema : Schema) (traits : BackendTraits) (live : TableState) (column : String) :
    (action.effect schema traits live).hasColumn column = live.hasColumn column := by
  cases amends.onBehalf with
  | addColumn => exact absurd rfl amends.notAdded
  | alterType target =>
      simp only [effect]
      split
      · exact TableState.changeColumn_hasColumn live name _ column
      · rfl
  | setDefault =>
      simp only [effect]
      split
      · exact TableState.changeColumn_hasColumn live name _ column
      · rfl
  | addForeignKey targetTable targetField onDelete => rfl
  | addUnique => rfl

theorem hasColumn_perform_of_amends (amends : action.Amends table name) (other column : String) :
    (action.perform schema traits tables).HasColumn other column ↔
      tables.HasColumn other column := by
  by_cases same : other = action.table
  · subst same
    rw [LiveTables.HasColumn, DdlAction.perform, Function.update_self, amends.effect_hasColumn,
      DdlAction.effect_present schema traits _ amends.onBehalf]
    rfl
  · rw [LiveTables.HasColumn, DdlAction.perform, Function.update_of_ne same]
    rfl

/-- What an amendment needs is no matter of other amendments. -/
theorem ready_perform_of_amends {other : DdlAction} {otherTable otherName : String}
    (amends : action.Amends table name) (otherAmends : other.Amends otherTable otherName) :
    other.Ready schema traits (action.perform schema traits tables) ↔
      other.Ready schema traits tables := by
  cases otherAmends.onBehalf with
  | addColumn => exact absurd rfl otherAmends.notAdded
  | alterType target => exact hasColumn_perform_of_amends amends _ _
  | setDefault => exact hasColumn_perform_of_amends amends _ _
  | addForeignKey targetTable targetField onDelete =>
      exact and_congr (hasColumn_perform_of_amends amends _ _)
        (hasColumn_perform_of_amends amends _ _)
  | addUnique => exact hasColumn_perform_of_amends amends _ _

/-- Amendments are in order as soon as each of them is ready. -/
theorem inOrder_iff_of_amends {actions : List DdlAction}
    (amends : ∀ action ∈ actions, action.Amends table name) :
    InOrder schema traits tables actions ↔
      ∀ action ∈ actions, action.Ready schema traits tables := by
  induction actions generalizing tables with
  | nil => simp [InOrder]
  | cons action rest induction =>
      obtain ⟨first, others⟩ := List.forall_mem_cons.mp amends
      rw [InOrder, induction others, List.forall_mem_cons]
      apply and_congr_right
      intro _
      exact forall₂_congr fun other member => ready_perform_of_amends first (others other member)

end Amends

namespace Field

variable {field : Field} {schema : Schema} {table name : String} {live : TableState}
  {traits : BackendTraits}

/-- If the foreign key of a field is missing, the column that it leads to is there. -/
def TargetReady (field : Field) (schema : Schema) (table name : String) (live : TableState)
    (tables : LiveTables) : Prop :=
  ∀ reference target, field.reference = some reference →
    schema.entity? reference.entity = some target →
    live.hasForeignKey (foreignKeyName table name) name = false →
    tables.HasColumn target.tableName reference.field

theorem columnChanges_amends (schema : Schema) {column : LiveColumn} {action : DdlAction}
    (planned : action ∈ field.columnChanges table name column traits) :
    action.Amends table name ∧ ∀ tables : LiveTables, tables.HasColumn table name →
      action.Ready schema traits tables := by
  simp only [columnChanges, List.mem_append, List.mem_ite_nil_right, List.mem_singleton] at planned
  rcases planned with ((⟨-, rfl⟩ | ⟨-, rfl⟩) | ⟨-, rfl⟩) | ⟨-, rfl⟩
  · exact ⟨⟨.setDefault, by simp⟩, fun _ => id⟩
  · exact ⟨⟨.alterType .text, by simp⟩, fun _ => id⟩
  · exact ⟨⟨.setDefault, by simp⟩, fun _ => id⟩
  · exact ⟨⟨.alterType .unsigned, by simp⟩, fun _ => id⟩

/-- A foreign key is only added once, and only if its target is known. -/
theorem changes_foreignKeyFindings (field : Field) (schema : Schema) (table name : String)
    (live : TableState) (constrains : traits.addConstraint = true) :
    (∀ action ∈ changes (field.foreignKeyFindings schema table name live traits),
      action.Amends table name) ∧
      ∀ tables : LiveTables, tables.HasColumn table name →
        ((∀ action ∈ changes (field.foreignKeyFindings schema table name live traits),
            action.Ready schema traits tables) ↔
          field.TargetReady schema table name live tables) := by
  unfold foreignKeyFindings TargetReady
  cases refers : field.reference with
  | none => simp
  | some reference =>
      dsimp only
      cases has : live.hasForeignKey (foreignKeyName table name) name with
      | true => simp
      | false =>
          cases found : schema.entity? reference.entity with
          | none =>
              refine ⟨by simp, fun tables _ => ⟨?_, by simp⟩⟩
              rintro - _ target ⟨⟩ foundTarget
              rw [found] at foundTarget
              cases foundTarget
          | some target =>
              simp only [constrains, Bool.false_eq_true, if_false, if_true,
                Finding.changes_change, Finding.changes_nil, List.forall_mem_singleton]
              refine ⟨⟨.addForeignKey _ _ _, by simp⟩, ?_⟩
              intro tables own
              constructor
              · rintro ⟨-, ready⟩ _ _ ⟨⟩ sameTarget -
                rw [found] at sameTarget
                cases sameTarget
                exact ready
              · intro ready
                exact ⟨own, ready reference target rfl found trivial⟩

theorem changes_uniqueFindings (schema : Schema) (traits : BackendTraits) {action : DdlAction}
    (planned : action ∈ changes (field.uniqueFindings table name live)) :
    action.Amends table name ∧ ∀ tables : LiveTables, tables.HasColumn table name →
      action.Ready schema traits tables := by
  unfold uniqueFindings at planned
  split at planned
  · simp only [Finding.changes_change, Finding.changes_nil, List.mem_singleton] at planned
    subst planned
    exact ⟨⟨.addUnique, by simp⟩, fun _ => id⟩
  · cases planned

/-- The changes on behalf of a field add its column if it is missing, and then amend it.  The
amendments need the column and the target of a missing foreign key. -/
theorem changes_findings (field : Field) (schema : Schema) (table name : String)
    (live : TableState) (adds : traits.addRequiredColumn = true)
    (constrains : traits.addConstraint = true) (alters : traits.alterColumn = true) :
    ∃ amendments, changes (field.findings schema table name live traits) =
        (if live.hasColumn name then [] else [.addColumn table name]) ++ amendments ∧
      (∀ action ∈ amendments, action.Amends table name) ∧
      ∀ tables : LiveTables, tables.HasColumn table name →
        ((∀ action ∈ amendments, action.Ready schema traits tables) ↔
          field.TargetReady schema table name live tables) := by
  obtain ⟨keyAmends, keyReady⟩ := field.changes_foreignKeyFindings schema table name
    live constrains
  have constraintsAmend (action : DdlAction)
      (planned : action ∈ changes (field.constraintFindings schema table name live traits)) :
      action.Amends table name := by
    rw [constraintFindings, Finding.changes_append, List.mem_append] at planned
    rcases planned with key | unique
    · exact keyAmends action key
    · exact (changes_uniqueFindings schema traits unique).1
  have constraintsReady (tables : LiveTables) (own : tables.HasColumn table name) :
      (∀ action ∈ changes (field.constraintFindings schema table name live traits),
        action.Ready schema traits tables) ↔ field.TargetReady schema table name live tables := by
    rw [constraintFindings, Finding.changes_append, List.forall_mem_append, keyReady tables own]
    exact and_iff_left fun action unique => (changes_uniqueFindings schema traits unique).2 tables own
  cases found : live.columns.get? name with
  | none =>
      have lacks : live.hasColumn name = false := by
        rw [TableState.hasColumn, Record.has_eq_isSome_get?, found]
        rfl
      refine ⟨_, ?_, constraintsAmend, constraintsReady⟩
      rw [findings_of_missing found, lacks]
      simp [canBeAdded, adds]
  | some column =>
      have has : live.hasColumn name = true := by
        rw [TableState.hasColumn, Record.has_eq_isSome_get?, found]
        rfl
      have columnChanges : changes (field.columnFindings table name column traits) =
          field.columnChanges table name column traits := by
        simp [columnFindings, alters, changes, Finding.change?, Function.comp_def]
      refine ⟨field.columnChanges table name column traits ++
        changes (field.constraintFindings schema table name live traits), ?_, ?_, ?_⟩
      · rw [findings_of_column found, Finding.changes_append, columnChanges, has]
        rfl
      · intro action planned
        rcases List.mem_append.mp planned with own | constraint
        · exact (columnChanges_amends schema own).1
        · exact constraintsAmend action constraint
      · intro tables own
        rw [List.forall_mem_append, constraintsReady tables own]
        exact and_iff_right fun action planned => (columnChanges_amends schema planned).2 tables own

end Field

section Table

variable {schema : Schema} {traits : BackendTraits} {tables : LiveTables} {table name : String}
  {live : TableState} {field : Field} {fields : Record Field}

theorem hasColumn_afterAll_of_amends {actions : List DdlAction}
    (amends : ∀ action ∈ actions, action.Amends table name) (other column : String) :
    (tables.afterAll schema traits actions).HasColumn other column ↔
      tables.HasColumn other column := by
  induction actions generalizing tables with
  | nil => rfl
  | cons action rest induction =>
      obtain ⟨first, others⟩ := List.forall_mem_cons.mp amends
      rw [LiveTables.afterAll, List.foldl_cons]
      exact (induction others).trans (hasColumn_perform_of_amends first other column)

theorem hasColumn_perform_addColumn
    (declared : DdlAction.fieldOf schema table name = .ok field)
    (present : (tables table).present = true) (other column : String) :
    (DdlAction.perform schema traits tables (.addColumn table name)).HasColumn other column ↔
      tables.HasColumn other column ∨ other = table ∧ column = name := by
  by_cases same : other = table
  · subst same
    simp only [LiveTables.HasColumn, DdlAction.perform, DdlAction.table, Function.update_self,
      DdlAction.effect, declared, TableState.hasColumn, Record.has_eq_true_iff, Record.keys_put,
      present, true_and]
    split
    · next member =>
      constructor
      · exact .inl
      · rintro (known | rfl)
        · exact known
        · exact member
    · simp
  · simp [LiveTables.HasColumn, DdlAction.perform, DdlAction.table, same]

theorem afterAll_present {actions : List DdlAction}
    (onBehalf : ∀ action ∈ actions, action.OnBehalf table name) :
    (tables.afterAll schema traits actions table).present = (tables table).present := by
  induction actions generalizing tables with
  | nil => rfl
  | cons action rest induction =>
      obtain ⟨first, others⟩ := List.forall_mem_cons.mp onBehalf
      rw [LiveTables.afterAll, List.foldl_cons]
      refine (induction others).trans ?_
      rw [DdlAction.perform, first.table, Function.update_self]
      exact DdlAction.effect_present schema traits _ first

/-- The changes on behalf of a field are in order if the target of a missing foreign key is known
or is the field itself.  They leave the field with a column. -/
theorem inOrder_findings (adds : traits.addRequiredColumn = true)
    (constrains : traits.addConstraint = true) (alters : traits.alterColumn = true)
    (declared : DdlAction.fieldOf schema table name = .ok field)
    (present : (tables table).present = true)
    (sameColumn : (tables table).hasColumn name = live.hasColumn name) :
    let planned := changes (field.findings schema table name live traits)
    (InOrder schema traits tables planned ↔
        ∀ reference target, field.reference = some reference →
          schema.entity? reference.entity = some target →
          live.hasForeignKey (foreignKeyName table name) name = false →
          tables.HasColumn target.tableName reference.field ∨
            target.tableName = table ∧ reference.field = name) ∧
      (tables.afterAll schema traits planned table).present = true ∧
      ∀ other column, (tables.afterAll schema traits planned).HasColumn other column ↔
        tables.HasColumn other column ∨ other = table ∧ column = name := by
  intro planned
  obtain ⟨amendments, split, amends, ready⟩ := field.changes_findings schema table name live adds
    constrains alters
  have onBehalf (action : DdlAction) (member : action ∈ planned) :
      action.OnBehalf table name := by
    simp only [planned, split, List.mem_append] at member
    rcases member with added | amendment
    · split at added
      · cases added
      · rw [List.mem_singleton.mp added]
        exact .addColumn
    · exact (amends action amendment).onBehalf
  -- With its column, the field has all that its amendments need but the target.
  let added : List DdlAction := if live.hasColumn name then [] else [.addColumn table name]
  have columns (other column : String) :
      (tables.afterAll schema traits added).HasColumn other column ↔
        tables.HasColumn other column ∨ other = table ∧ column = name := by
    simp only [added]
    split
    · next has =>
      constructor
      · exact .inl
      · rintro (known | ⟨rfl, rfl⟩)
        · exact known
        · exact ⟨present, sameColumn.trans has⟩
    · exact hasColumn_perform_addColumn declared present other column
  have addedInOrder : InOrder schema traits tables added := by
    simp only [added]
    split
    · trivial
    · exact ⟨present, trivial⟩
  have plannedSplit : planned = added ++ amendments := split
  refine ⟨?_, ?_, ?_⟩
  · rw [plannedSplit, inOrder_append, inOrder_iff_of_amends amends,
      ready _ ((columns table name).mpr (.inr ⟨rfl, rfl⟩)), Field.TargetReady]
    simp only [columns, and_iff_right addedInOrder]
  · rw [afterAll_present onBehalf]
    exact present
  · intro other column
    rw [plannedSplit, afterAll_append, hasColumn_afterAll_of_amends amends]
    exact columns other column

/-- The target of each missing foreign key is known, or is a field of the table that comes no
later. -/
def TargetsInTime (schema : Schema) (table : String) (live : TableState) (tables : LiveTables)
    (fields : Record Field) : Prop :=
  ∀ before name field after, fields = before ++ (name, field) :: after →
    ∀ reference target, field.reference = some reference →
      schema.entity? reference.entity = some target →
      live.hasForeignKey (foreignKeyName table name) name = false →
      tables.HasColumn target.tableName reference.field ∨
        target.tableName = table ∧
          (reference.field ∈ Record.keys before ∨ reference.field = name)

/-- The fields after the first one find the column of the first one there. -/
theorem targetsInTime_cons {next : LiveTables}
    (columns : ∀ other column, next.HasColumn other column ↔
      tables.HasColumn other column ∨ other = table ∧ column = name) :
    TargetsInTime schema table live tables ((name, field) :: fields) ↔
      (∀ reference target, field.reference = some reference →
        schema.entity? reference.entity = some target →
        live.hasForeignKey (foreignKeyName table name) name = false →
        tables.HasColumn target.tableName reference.field ∨
          target.tableName = table ∧ reference.field = name) ∧
      TargetsInTime schema table live next fields := by
  constructor
  · intro all
    constructor
    · intro reference target refers found missing
      refine (all [] name field fields rfl reference target refers found missing).imp_right ?_
      rintro ⟨own, earlier | same⟩
      · cases earlier
      · exact ⟨own, same⟩
    · intro before other otherField after split reference target refers found missing
      rw [columns]
      rcases all ((name, field) :: before) other otherField after (by rw [split]; rfl)
        reference target refers found missing with known | ⟨own, earlier | same⟩
      · exact .inl (.inl known)
      · rcases List.mem_cons.mp earlier with isFirst | later
        · exact .inl (.inr ⟨own, isFirst⟩)
        · exact .inr ⟨own, .inl later⟩
      · exact .inr ⟨own, .inr same⟩
  · rintro ⟨first, others⟩ before other otherField after split
    cases before with
    | nil =>
        obtain ⟨⟨rfl, rfl⟩, rfl⟩ : (name = other ∧ field = otherField) ∧ fields = after := by
          simpa using split
        intro reference target refers found missing
        refine (first reference target refers found missing).imp_right ?_
        exact And.imp_right .inr
    | cons head tail =>
        obtain ⟨rfl, restSplit⟩ : (name, field) = head ∧ fields = tail ++ _ := by
          simpa using split
        intro reference target refers found missing
        rcases others tail other otherField after restSplit reference target refers found
          missing with known | ⟨own, earlier⟩
        · rcases (columns _ _).mp known with known | ⟨own, isFirst⟩
          · exact .inl known
          · exact .inr ⟨own, .inl (by simp [Record.keys, isFirst])⟩
        · refine .inr ⟨own, earlier.imp_left ?_⟩
          exact List.mem_cons_of_mem _

/-- The changes of a table are in order if the targets of its foreign keys come in time.  They
leave all fields with columns. -/
theorem inOrder_tableFindings (live : TableState) (adds : traits.addRequiredColumn = true)
    (constrains : traits.addConstraint = true) (alters : traits.alterColumn = true)
    (distinct : fields.keys.Nodup)
    (declared : ∀ name field, (name, field) ∈ fields →
      DdlAction.fieldOf schema table name = .ok field)
    (present : (tables table).present = true)
    (sameColumns : ∀ name ∈ fields.keys, (tables table).hasColumn name = live.hasColumn name) :
    let planned := changes (tableFindings fields schema table live traits)
    (InOrder schema traits tables planned ↔ TargetsInTime schema table live tables fields) ∧
      ∀ other column, (tables.afterAll schema traits planned).HasColumn other column ↔
        tables.HasColumn other column ∨ other = table ∧ column ∈ fields.keys := by
  induction fields generalizing tables with
  | nil =>
      simp [tableFindings, InOrder, LiveTables.afterAll, Record.keys, TargetsInTime]
  | cons entry rest induction =>
      obtain ⟨name, field⟩ := entry
      obtain ⟨fresh, restDistinct⟩ := List.nodup_cons.mp distinct
      obtain ⟨firstInOrder, stillPresent, firstColumns⟩ := inOrder_findings adds constrains alters
        (declared name field List.mem_cons_self) present (sameColumns name List.mem_cons_self)
      have restColumns (other : String) (member : other ∈ Record.keys rest) :
          (tables.afterAll schema traits
            (changes (field.findings schema table name live traits)) table).hasColumn other =
              live.hasColumn other := by
        have different : other ≠ name := by
          rintro rfl
          exact fresh member
        have iff := firstColumns table other
        simp only [LiveTables.HasColumn, stillPresent, present, true_and, different, and_false,
          or_false] at iff
        rw [Bool.eq_iff_iff.mpr iff]
        exact sameColumns other (List.mem_cons_of_mem _ member)
      obtain ⟨restInOrder, allColumns⟩ := induction restDistinct
        (fun other field member => declared other field (List.mem_cons_of_mem _ member))
        stillPresent restColumns
      intro planned
      have split : planned = changes (field.findings schema table name live traits) ++
          changes (tableFindings rest schema table live traits) := by
        simp only [planned, tableFindings, List.flatMap_cons, Finding.changes_append]
      constructor
      · rw [split, inOrder_append, firstInOrder, restInOrder, targetsInTime_cons firstColumns]
      · intro other column
        rw [split, afterAll_append, allColumns, firstColumns]
        simp only [Record.keys, List.map_cons, List.mem_cons]
        tauto

end Table

section Schema

variable {schema : Schema} {traits : BackendTraits} {tables : LiveTables} {entity : Entity}

/-- The entity that a reference finds is the entity itself or one declared before it. -/
theorem mem_of_referenceDefect? {known : List Entity} (sound : entity.referenceDefect? known = none)
    {name : String} {field : Field} (declared : (name, field) ∈ entity.fields)
    {reference : Reference} (refers : field.reference = some reference) {others : List Entity}
    (entities : schema.entities = known ++ others) {target : Entity}
    (found : schema.entity? reference.entity = some target) :
    target ∈ known ∧ target.key = Text.lower reference.entity ∧
      reference.field ∈ target.fields.keys := by
  obtain ⟨early, foundEarly, has⟩ := target_of_referenceDefect? sound declared refers
  have same : early = target := by
    rw [Schema.entity?, entities, List.find?_append, foundEarly] at found
    exact Option.some.inj found
  subst same
  have key : (early.key == Text.lower reference.entity) = true :=
    List.find?_some (p := fun other : Entity => other.key == _) foundEarly
  exact ⟨List.mem_of_find?_eq_some foundEarly, beq_iff_eq.mp key, Record.has_eq_true_iff.mp has⟩

theorem Schema.Valid.tableName_inj (valid : schema.Valid) {other : Entity}
    (member : entity ∈ schema.entities) (otherMember : other ∈ schema.entities)
    (same : entity.tableName = other.tableName) : entity = other := by
  have found := valid.entityOf_tableName member
  rw [same, valid.entityOf_tableName otherMember] at found
  exact (Except.ok.inj found).symm

theorem Schema.Valid.tableNames_nodup (valid : schema.Valid) :
    (schema.entities.map Entity.tableName).Nodup :=
  (List.Nodup.of_map _ valid.keys_nodup).map_on fun _ member _ otherMember same =>
    valid.tableName_inj member otherMember same

/-- All fields of an entity have columns. -/
def LiveTables.Holds (tables : LiveTables) (entity : Entity) : Prop :=
  ∀ column ∈ entity.fields.keys, tables.HasColumn entity.tableName column

/-- A new table has columns for all fields of its entity. -/
theorem holds_perform_createTable (valid : schema.Valid) (member : entity ∈ schema.entities) :
    LiveTables.Holds
      (DdlAction.perform schema traits tables (.createTable entity.tableName)) entity := by
  intro column declared
  obtain ⟨⟨name, field⟩, fieldDeclared, rfl⟩ := List.mem_map.mp declared
  have created : DdlAction.perform schema traits tables (.createTable entity.tableName)
      entity.tableName = (entity.table schema traits).reported traits := by
    simp [DdlAction.perform, DdlAction.table, DdlAction.effect, valid.entityOf_tableName member]
  refine ⟨by rw [created]; rfl, ?_⟩
  rw [created, TableState.hasColumn, Record.has_eq_isSome_get?,
    reported_column (valid.entities entity member).distinct fieldDeclared]
  rfl

section Entity

variable {known others : List Entity} (valid : schema.Valid)
  (entities : schema.entities = known ++ entity :: others)
  (sound : entity.referenceDefect? (known ++ [entity]) = none)
  (complete : ∀ earlier ∈ known, tables.Holds earlier)

include valid entities sound complete

/-- A table can be created as soon as the earlier entities have their columns. -/
theorem ready_createTable :
    DdlAction.Ready schema traits tables (.createTable entity.tableName) := by
  have member : entity ∈ schema.entities := by simp [entities]
  have toKnown : schema.entities = (known ++ [entity]) ++ others := by simp [entities]
  intro other otherMember sameTable key keyMember
  obtain rfl := valid.tableName_inj otherMember member sameTable
  obtain ⟨⟨name, field⟩, declared, made⟩ := List.mem_filterMap.mp keyMember
  obtain ⟨reference, target, refers, found, rfl⟩ := Field.foreignKey?_eq_some made
  obtain ⟨targetKnown, -, targetHas⟩ :=
    mem_of_referenceDefect? sound declared refers toKnown found
  rcases List.mem_append.mp targetKnown with earlier | itself
  · have targetMember : target ∈ schema.entities := by simp [entities, earlier]
    have different : target.tableName ≠ other.tableName := by
      intro same
      obtain rfl := valid.tableName_inj targetMember member same
      have distinct := valid.keys_nodup
      rw [entities, List.map_append, List.map_cons] at distinct
      exact (List.nodup_append.mp distinct).2.2 _ (List.mem_map_of_mem earlier) _
        List.mem_cons_self rfl
    have kept := complete target earlier reference.field targetHas
    rw [LiveTables.HasColumn, DdlAction.perform, DdlAction.table,
      Function.update_of_ne different]
    exact kept
  · obtain rfl := List.mem_singleton.mp itself
    exact holds_perform_createTable valid member reference.field targetHas

/-- The targets of the missing foreign keys of a live table come in time exactly when none of the
keys leads ahead. -/
theorem targetsInTime_iff_not_leadsAhead (present : (tables entity.tableName).present = true) :
    TargetsInTime schema entity.tableName (tables entity.tableName) tables entity.fields ↔
      ¬entity.LeadsAhead (tables entity.tableName) := by
  have member : entity ∈ schema.entities := by simp [entities]
  constructor
  · rintro ready ⟨before, name, field, after, reference, split, refers, own, later, missing, lacks⟩
    have found : schema.entity? reference.entity = some entity := by
      have byKey := find?_eq_some_of_nodup Entity.key valid.keys_nodup member
      rw [Schema.entity?, own]
      exact byKey
    have distinct := (valid.entities entity member).distinct
    rw [split, Record.keys, List.map_append, List.map_cons] at distinct
    obtain ⟨-, tailDistinct, apart⟩ := List.nodup_append.mp distinct
    rcases ready before name field after split reference entity refers found lacks with
      known | ⟨-, earlier | same⟩
    · rw [LiveTables.HasColumn, missing] at known
      exact absurd known.2 (by simp)
    · exact apart _ earlier _ (List.mem_cons_of_mem _ later) rfl
    · rw [same] at later
      exact (List.nodup_cons.mp tailDistinct).1 later
  · intro noneAhead before name field after split reference target refers found lacks
    have toKnown : schema.entities = (known ++ [entity]) ++ others := by simp [entities]
    have declared : (name, field) ∈ entity.fields := by simp [split]
    obtain ⟨targetKnown, key, targetHas⟩ :=
      mem_of_referenceDefect? sound declared refers toKnown found
    rcases List.mem_append.mp targetKnown with earlier | itself
    · exact .inl (complete target earlier reference.field targetHas)
    · obtain rfl := List.mem_singleton.mp itself
      rw [split, Record.keys, List.map_append, List.map_cons, List.mem_append,
        List.mem_cons] at targetHas
      rcases targetHas with earlier | same | later
      · exact .inr ⟨rfl, .inl earlier⟩
      · exact .inr ⟨rfl, .inr same⟩
      · refine .inl ⟨present, ?_⟩
        apply Decidable.byContradiction
        intro missing
        exact noneAhead ⟨before, name, field, after, reference, split, refers, key.symm,
          later, Bool.eq_false_iff.mpr missing, lacks⟩

/-- The changes for one entity are in order if the earlier entities have their columns and no
foreign key leads ahead.  They leave all its fields with columns. -/
theorem inOrder_planEntity (adds : traits.addRequiredColumn = true)
    (constrains : traits.addConstraint = true) (alters : traits.alterColumn = true) :
    let planned := (planEntity entity schema (tables entity.tableName) traits).actions
    (InOrder schema traits tables planned ↔
        ((tables entity.tableName).present = true →
          ¬entity.LeadsAhead (tables entity.tableName))) ∧
      (tables.afterAll schema traits planned).Holds entity := by
  intro planned
  have member : entity ∈ schema.entities := by simp [entities]
  cases present : (tables entity.tableName).present with
  | false =>
      have single : planned = [.createTable entity.tableName] := by
        simp [planned, planEntity, present, ReconciliationPlan.actions]
      rw [single]
      refine ⟨?_, holds_perform_createTable valid member⟩
      simp only [Bool.false_eq_true, false_implies, iff_true]
      exact ⟨ready_createTable valid entities sound complete, trivial⟩
  | true =>
      have plannedFound : planned = changes (tableFindings entity.fields schema entity.tableName
          (tables entity.tableName) traits) := by
        simp only [planned]
        rw [ReconciliationPlan.actions_eq, planEntity_findings present]
      obtain ⟨inOrder, columns⟩ := inOrder_tableFindings (tables entity.tableName) adds
        constrains alters (valid.entities entity member).distinct
        (fun name field declared => valid.fieldOf_tableName member declared) present
        (fun _ _ => rfl)
      constructor
      · rw [plannedFound, inOrder,
          targetsInTime_iff_not_leadsAhead valid entities sound complete present]
        simp only [true_implies]
      · intro column declared
        rw [plannedFound, columns]
        exact .inr ⟨rfl, declared⟩

end Entity

/-- The changes for entities that follow the `known` ones are in order exactly when no foreign
key of theirs leads ahead, provided that the fields of the known ones have columns. -/
theorem inOrder_entities (valid : schema.Valid) (adds : traits.addRequiredColumn = true)
    (constrains : traits.addConstraint = true) (alters : traits.alterColumn = true)
    (live : LiveTables) {known others : List Entity}
    (entities : schema.entities = known ++ others)
    (sound : entitiesDefect? known others = none)
    (complete : ∀ earlier ∈ known, tables.Holds earlier)
    (untouched : ∀ later ∈ others, tables later.tableName = live later.tableName) :
    InOrder schema traits tables
        (others.flatMap fun entity =>
          (planEntity entity schema (live entity.tableName) traits).actions) ↔
      ∀ entity ∈ others, (live entity.tableName).present = true →
        ¬entity.LeadsAhead (live entity.tableName) := by
  induction others generalizing known tables with
  | nil => simp [InOrder]
  | cons entity rest induction =>
      have member : entity ∈ schema.entities := by simp [entities]
      have distinct := valid.keys_nodup
      rw [entitiesDefect?] at sound
      split at sound
      · cases sound
      · split at sound
        · cases sound
        · next referencesSound =>
          obtain ⟨inOrder, holds⟩ :=
            inOrder_planEntity valid entities referencesSound complete adds constrains alters
          rw [untouched entity List.mem_cons_self] at inOrder holds
          let planned := (planEntity entity schema (live entity.tableName) traits).actions
          have frame {other : Entity} (otherMember : other ∈ schema.entities)
              (different : other ≠ entity) :
              tables.afterAll schema traits planned other.tableName = tables other.tableName := by
            refine afterAll_other ?_ fun action => planEntity_onTable
            intro same
            exact different (valid.tableName_inj otherMember member same)
          have apart : (known ++ entity :: rest).Nodup := by
            rw [entities] at distinct
            exact .of_map _ distinct
          obtain ⟨-, entityApart, knownApart⟩ := List.nodup_append.mp apart
          have entitiesSplit : schema.entities = (known ++ [entity]) ++ rest := by simp [entities]
          have completeNext (earlier : Entity) (early : earlier ∈ known ++ [entity]) :
              (tables.afterAll schema traits planned).Holds earlier := by
            rcases List.mem_append.mp early with before | itself
            · have different : earlier ≠ entity :=
                knownApart earlier before entity List.mem_cons_self
              have earlierMember : earlier ∈ schema.entities := by simp [entities, before]
              intro column declared
              rw [LiveTables.HasColumn, frame earlierMember different]
              exact complete earlier before column declared
            · rw [List.mem_singleton.mp itself]
              exact holds
          have untouchedNext (later : Entity) (late : later ∈ rest) :
              tables.afterAll schema traits planned later.tableName = live later.tableName := by
            have different : later ≠ entity := by
              rintro rfl
              exact (List.nodup_cons.mp entityApart).1 late
            have laterMember : later ∈ schema.entities := by simp [entities, late]
            rw [frame laterMember different]
            exact untouched later (List.mem_cons_of_mem _ late)
          rw [List.flatMap_cons, inOrder_append, inOrder, List.forall_mem_cons]
          exact and_congr_right fun _ =>
            induction entitiesSplit sound completeNext untouchedNext

/-- The changes that a schema plans for its tables name only what is there when their turn comes,
exactly when no missing foreign key of a live table leads to a field of the same entity that is
declared later and has no column yet. -/
theorem plannedChanges_inOrder_iff (valid : schema.Valid) (live : LiveTables)
    (adds : traits.addRequiredColumn = true) (constrains : traits.addConstraint = true)
    (alters : traits.alterColumn = true) :
    InOrder schema traits live (schema.plannedChanges live traits) ↔
      ∀ entity ∈ schema.entities, (live entity.tableName).present = true →
        ¬entity.LeadsAhead (live entity.tableName) :=
  inOrder_entities valid adds constrains alters live rfl valid.references (by simp) (by simp)

/-- A node refers to the key of another node, which is declared after the reference.  In a table
that has only the id, the foreign key is planned before the column that it leads to. -/
theorem plannedChanges_inOrder_nodes :
    let text := "datasource db \x7b\nprovider = \"mysql\"\n" ++
      "url = \"mysql://u:p@h/d\"\n\x7d\n" ++
      "model Node \x7b\nid Int @id\nparent Int? @references(Node.key)\n" ++
      "key Int @unique\n\x7d\n"
    let id : Field := { type := .int, isId := true }
    let parent : Field := { type := .int, isOptional := true, reference := some ⟨"Node", "key"⟩ }
    let key : Field := { type := .int, isUnique := true }
    let node : Entity := ⟨"Node", [("id", id), ("parent", parent), ("key", key)]⟩
    let schema : Schema :=
      { datasource := { provider := .mysql, url := "mysql://u:p@h/d" }, entities := [node] }
    let traits := BackendTraits.ofName "mysql"
    let live : LiveTables := fun table =>
      { name := table
        present := true
        columns := [("id", { name := "id", type := "int unsigned" })] }
    Dsl.parse [] text = .ok ⟨schema, []⟩ ∧ schema.Valid ∧
      schema.plannedChanges live traits =
        [.addColumn "nodes" "parent",
          .addForeignKey "nodes" "parent" "nodes_parent_foreign" "nodes" "key" none,
          .addColumn "nodes" "key", .addUnique "nodes" "key" "nodes_key_unique"] ∧
      ¬InOrder schema traits live (schema.plannedChanges live traits) := by
  intro text id parent key node schema traits live
  have accepted : Dsl.parse [] text = .ok ⟨schema, []⟩ := by decide +kernel
  have valid : schema.Valid := Dsl.parse_valid accepted
  have leadsAhead : node.LeadsAhead (live node.tableName) :=
    ⟨[("id", id)], "parent", parent, [("key", key)], ⟨"Node", "key"⟩, rfl, rfl, rfl, by decide,
      by decide +kernel, by decide +kernel⟩
  refine ⟨accepted, valid, by decide +kernel, ?_⟩
  intro inOrder
  have noneAhead := (plannedChanges_inOrder_iff valid live rfl rfl rfl).mp inOrder
  exact noneAhead node (by simp [schema]) rfl leadsAhead

end Schema

end SchemaStore
