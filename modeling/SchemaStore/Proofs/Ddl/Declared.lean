import SchemaStore.Proofs.Ddl.Effect
import SchemaStore.Proofs.Schema.Valid

/-!
# Columns that are as declared

The creation of columns and the search for missing changes decide separately
what type and default a field has.  They agree: no change is found about a
column that was just created, whose type was just altered or whose default was
just set.
-/

namespace SchemaStore

namespace LiveColumn

private theorem mentions_currentTimestamp :
    mentions (Text.lower "CURRENT_TIMESTAMP") "current_timestamp" = true := by
  decide +kernel

private theorem mentions_onUpdate :
    mentions (Text.lower "DEFAULT_GENERATED on update CURRENT_TIMESTAMP") "on update" = true := by
  decide +kernel

theorem isText_of_type {column : LiveColumn} (type : column.type = "text") :
    column.isText = true := by
  rw [isText, type]
  decide

theorem isUnsigned_of_type {column : LiveColumn} (type : column.type = "int unsigned") :
    column.isUnsigned = true := by
  rw [isUnsigned, type]
  decide

theorem normalizedDefault_of_literal {column : LiveColumn} {text : String}
    (default : column.default = some (quotedLiteral text)) :
    column.normalizedDefault = some text := by
  rw [normalizedDefault, default, Option.map_some, normalizeDefault_quotedLiteral]

theorem hasNowDefault_of_default {column : LiveColumn}
    (default : column.default = some "CURRENT_TIMESTAMP") : column.hasNowDefault = true := by
  rw [hasNowDefault, smallDefault, default, Option.getD_some, mentions_currentTimestamp]
  rfl

theorem hasOnUpdate_of_extra {column : LiveColumn}
    (extra : column.extra = "DEFAULT_GENERATED on update CURRENT_TIMESTAMP") :
    column.hasOnUpdate = true := by
  rw [hasOnUpdate, extra, mentions_onUpdate]
  rfl

end LiveColumn

namespace Field

/-- A live column has what the declaration of a field asks of it. -/
structure Settled (field : Field) (traits : BackendTraits) (column : LiveColumn) : Prop where
  plainDefault : field.type = .string → field.isText = false →
    ∀ text, field.defaultText = some text → column.normalizedDefault = some text
  largeText : field.isText = true → column.isText = true
  currentTime : field.needsNow = true → column.hasNowDefault = true
  refreshed : field.isUpdatedAt = true → traits.onUpdate = true → column.hasOnUpdate = true
  unsigned : field.reference.isSome → traits.unsigned = true → column.isUnsigned = true

variable {field : Field} {traits : BackendTraits}

theorem type_of_needsNow (needs : field.needsNow = true) : field.type = .dateTime := by
  unfold needsNow at needs
  simp only [Bool.and_eq_true, beq_iff_eq] at needs
  exact needs.1

/-- No change is found about a column exactly when it is settled. -/
theorem columnChanges_eq_nil_iff (valid : field.Valid) (table name : String)
    (column : LiveColumn) :
    field.columnChanges table name column traits = [] ↔ field.Settled traits column := by
  simp only [columnChanges, List.append_eq_nil_iff, ite_eq_right_iff, List.cons_ne_nil,
    imp_false]
  constructor
  · rintro ⟨⟨⟨plain, large⟩, timestamp⟩, unsigned⟩
    constructor
    · intro string short text declared
      apply Decidable.byContradiction
      intro other
      apply plain
      simp [string, short, declared, other]
    · intro isText
      simpa [isText] using large
    · intro needs
      have dateTime := type_of_needsNow needs
      apply Decidable.byContradiction
      intro missing
      apply timestamp
      simp [dateTime, needs, Bool.eq_false_iff.mpr missing]
    · intro updatedAt refreshes
      have dateTime := valid.updatedAtDateTime updatedAt
      apply Decidable.byContradiction
      intro missing
      apply timestamp
      simp [dateTime, updatedAt, refreshes, Bool.eq_false_iff.mpr missing]
    · intro refers supports
      simpa [refers, supports] using unsigned
  · intro settled
    refine ⟨⟨⟨?_, ?_⟩, ?_⟩, ?_⟩
    · intro found
      simp only [Bool.and_eq_true, beq_iff_eq, Bool.not_eq_true', bne_iff_ne] at found
      obtain ⟨⟨⟨string, short⟩, declared⟩, differs⟩ := found
      obtain ⟨text, default⟩ := Option.isSome_iff_exists.mp declared
      rw [default] at differs
      exact differs (settled.plainDefault string short text default)
    · intro found
      simp only [Bool.and_eq_true, Bool.not_eq_true'] at found
      obtain ⟨large, small⟩ := found
      rw [settled.largeText large] at small
      cases small
    · intro found
      simp only [Bool.and_eq_true, Bool.or_eq_true, Bool.not_eq_true'] at found
      rcases found.2 with ⟨needs, missing⟩ | ⟨⟨updatedAt, refreshes⟩, missing⟩
      · rw [settled.currentTime needs] at missing
        cases missing
      · rw [settled.refreshed updatedAt refreshes] at missing
        cases missing
    · intro found
      simp only [Bool.and_eq_true, Bool.not_eq_true'] at found
      obtain ⟨⟨refers, supports⟩, missing⟩ := found
      rw [settled.unsigned refers supports] at missing
      cases missing

/-- At most one change is made to a column, and it is of the kind that the type of the field
allows. -/
theorem columnChanges_cases (valid : field.Valid) (table name : String) (column : LiveColumn) :
    field.columnChanges table name column traits = [] ∨
      (∃ target, field.columnChanges table name column traits = [.alterType table name target] ∧
        (field.isText = true ∨ field.reference.isSome)) ∨
      (field.columnChanges table name column traits = [.setDefault table name] ∧
        ((field.type = .string ∧ field.isText = false) ∨ field.type = .dateTime)) := by
  unfold columnChanges
  cases type : field.type with
  | string =>
      have alone := valid.reference_eq_none (by simp [type])
      cases large : field.isText with
      | false =>
          simp only [alone]
          by_cases changed : field.defaultText.isSome &&
              column.normalizedDefault != field.defaultText
          · right; right
            simp [changed]
          · left
            simp [changed]
      | true =>
          simp only [alone]
          by_cases changed : column.isText
          · left
            simp [changed]
          · right; left
            simp [changed]
  | int =>
      have short := valid.isText_eq_false (by simp [type])
      simp only [short]
      by_cases changed : field.reference.isSome && traits.unsigned && !column.isUnsigned
      · right; left
        refine ⟨.unsigned, by simp [changed], .inr ?_⟩
        simp only [Bool.and_eq_true] at changed
        exact changed.1.1
      · left
        simp [changed]
  | dateTime =>
      have alone := valid.reference_eq_none (by simp [type])
      have short := valid.isText_eq_false (by simp [type])
      simp only [alone, short]
      by_cases changed : field.needsNow && !column.hasNowDefault ||
          field.isUpdatedAt && traits.onUpdate && !column.hasOnUpdate
      · right; right
        simp [changed]
      · left
        simp [changed]

theorem needsNow_of_updatedAt (valid : field.Valid) (updatedAt : field.isUpdatedAt = true) :
    field.needsNow = true := by
  simp [needsNow, valid.updatedAtDateTime updatedAt, updatedAt]

theorem serverDefault_string (valid : field.Valid) (string : field.type = .string)
    (short : field.isText = false) :
    field.serverDefault traits = field.defaultText.map .literal := by
  have notId := valid.isId_eq_false (by simp [string])
  simp [serverDefault, notId, string, short]

/-- A field that needs the current time has it as the default of its column. -/
theorem serverDefault_now (valid : field.Valid) (needs : field.needsNow = true) :
    field.serverDefault traits =
      if field.isUpdatedAt && traits.onUpdate then some .nowOnUpdate else some .now := by
  have dateTime := type_of_needsNow needs
  have notId := valid.isId_eq_false (by simp [dateTime])
  simp [serverDefault, notId, dateTime, needs]

/-- Only the default of an integer is a number. -/
theorem of_serverDefault_number {text : String}
    (kept : field.serverDefault traits = some (.number text)) :
    field.isId = false ∧ field.type = .int ∧ field.defaultText = some text := by
  unfold serverDefault at kept
  cases id : field.isId <;> cases type : field.type <;>
    simp only [id, type, if_true, Bool.false_eq_true, if_false, reduceCtorEq] at kept
  all_goals
    repeat' split at kept
    all_goals simp_all

theorem columnType_of_isText (valid : field.Valid) (large : field.isText = true) :
    field.columnType = .text := by
  have string := valid.textString large
  have notId := valid.isId_eq_false (by simp [string])
  simp [columnType, notId, string, large]

theorem columnType_of_int (int : field.type = .int) : field.columnType = .integer := by
  unfold columnType
  split
  · rfl
  · rw [int]

/-- A column that is shown as it was declared is settled. -/
theorem settled_reported (valid : field.Valid) {column : Column}
    (type : column.type = field.columnType)
    (fallback : column.fallback = field.serverDefault traits) :
    field.Settled traits (column.reported traits) := by
  have nowShown (needs : field.needsNow = true) :
      (column.reported traits).default = some "CURRENT_TIMESTAMP" := by
    rw [Column.reported, fallback, serverDefault_now valid needs]
    split <;> rfl
  constructor
  · intro string short text declared
    apply LiveColumn.normalizedDefault_of_literal
    rw [Column.reported, fallback, serverDefault_string valid string short, declared]
    rfl
  · intro large
    apply LiveColumn.isText_of_type
    rw [Column.reported, type, columnType_of_isText valid large]
    rfl
  · intro needs
    exact LiveColumn.hasNowDefault_of_default (nowShown needs)
  · intro updatedAt refreshes
    apply LiveColumn.hasOnUpdate_of_extra
    have needs := needsNow_of_updatedAt valid updatedAt
    simp [Column.reported, fallback, serverDefault_now valid needs, updatedAt, refreshes,
      ColumnDefault.reportedExtra]
  · intro refers supports
    apply LiveColumn.isUnsigned_of_type
    rw [Column.reported, type, columnType_of_int (valid.referenceInt refers)]
    simp [BackendTraits.typeText, supports]

theorem column_type (field : Field) (name : String) :
    (field.column name traits).type = field.columnType := by
  unfold column
  split <;> rfl

theorem column_fallback (field : Field) (name : String) :
    (field.column name traits).fallback = field.serverDefault traits := by
  unfold column
  split
  · next id => simp [serverDefault, id]
  · rfl

/-- A column that was just created is settled. -/
theorem settled_column (valid : field.Valid) (name : String) :
    field.Settled traits ((field.column name traits).reported traits) :=
  settled_reported valid (column_type field name) (column_fallback field name)

/-- A column of large text, or one that refers, is settled once its type was altered. -/
theorem settled_alterType (valid : field.Valid) (name : String) (column : LiveColumn)
    (planned : field.isText = true ∨ field.reference.isSome) :
    field.Settled traits
      (column.alterType traits (DdlAction.restated field name traits)) := by
  unfold LiveColumn.alterType
  split
  · exact settled_reported valid (column_type field name) (column_fallback field name)
  · have type : (DdlAction.restated field name traits).type = field.columnType :=
      column_type field name
    have notDateTime : field.type ≠ .dateTime := by
      rcases planned with large | refers
      · simp [valid.textString large]
      · simp [valid.referenceInt refers]
    constructor
    · intro string short
      rcases planned with large | refers
      · simp [large] at short
      · simp [valid.referenceInt refers] at string
    · intro large
      apply LiveColumn.isText_of_type
      dsimp only
      rw [type, columnType_of_isText valid large]
      rfl
    · intro needs
      exact absurd (type_of_needsNow needs) notDateTime
    · intro updatedAt
      exact absurd (valid.updatedAtDateTime updatedAt) notDateTime
    · intro refers supports
      apply LiveColumn.isUnsigned_of_type
      dsimp only
      rw [type, columnType_of_int (valid.referenceInt refers)]
      simp [BackendTraits.typeText, supports]

/-- A column of short text or of a time is settled once its default was set. -/
theorem settled_setDefault (valid : field.Valid) (name : String) (column : LiveColumn)
    (planned : (field.type = .string ∧ field.isText = false) ∨ field.type = .dateTime) :
    field.Settled traits
      (column.setDefault traits (DdlAction.restated field name traits)) := by
  unfold LiveColumn.setDefault
  split
  · exact settled_reported valid (column_type field name) (column_fallback field name)
  · next alone =>
    have fallback :
        (DdlAction.restated field name traits).fallback = field.serverDefault traits :=
      column_fallback field name
    constructor
    · intro string short text declared
      apply LiveColumn.normalizedDefault_of_literal
      dsimp only
      rw [fallback, serverDefault_string valid string short, declared]
      rfl
    · intro large
      rcases planned with ⟨-, short⟩ | dateTime
      · simp [large] at short
      · simp [valid.textString large] at dateTime
    · intro needs
      apply LiveColumn.hasNowDefault_of_default
      dsimp only
      rw [fallback, serverDefault_now valid needs]
      split <;> rfl
    · intro updatedAt refreshes
      -- A backend that refreshes columns states those of a time anew.
      have dateTime := valid.updatedAtDateTime updatedAt
      have notId := valid.isId_eq_false (by simp [dateTime])
      have type : (DdlAction.restated field name traits).type = field.columnType :=
        column_type field name
      exact absurd (by simp [type, columnType, notId, dateTime, refreshes]) alone
    · intro refers
      have int := valid.referenceInt refers
      rcases planned with ⟨string, -⟩ | dateTime
      · simp [int] at string
      · simp [int] at dateTime

end Field

end SchemaStore
