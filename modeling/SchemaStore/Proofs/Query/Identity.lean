import SchemaStore.Proofs.Query.Assignment

/-!
# Rows by their ids

An id is written like any other value, but it is compared by the kind of value that it
is given as.  Both lead to the same key, so a comparison with the ids of rows, old or
new, holds on just these rows.
-/

namespace SchemaStore

namespace Parameter

theorem boundCell_int {n : Int} (storable : Cell.isStorable n = true) :
    (⟨.plain, .int n⟩ : Parameter).boundCell = .int n := by
  have bound : (⟨.plain, .int n⟩ : Parameter).cell = .ok (.int n) := if_pos storable
  rw [boundCell, bound]

theorem isStorable_of_cell {conversion : Conversion} {n : Int} (plain : conversion = .plain)
    (bound : Except.Succeeds (⟨conversion, .int n⟩ : Parameter).cell) :
    Cell.isStorable n = true := by
  subst plain
  obtain ⟨cell, bound⟩ := bound
  have stored : (if Cell.isStorable n then .ok (.int n) else .error .oversizedNumber :
      Except Failure Cell) = .ok cell := bound
  split at stored
  · assumption
  · cases stored

/-- A value that is stored as a key is compared as that key. -/
theorem operandCell_of_key {column : ColumnRef} (number : column.type.affinity = .number)
    {s : Scalar} {key : Int}
    (stored : (⟨.plain, .scalar s⟩ : Parameter).boundCell.prefer .number = .int key) :
    Clause.operandCell column (.operand column (.scalar s)) = .int key := by
  have plain {parameter : Parameter} (same : parameter.boundCell =
      (⟨.plain, .scalar s⟩ : Parameter).boundCell) :
      Clause.operandCell column parameter = .int key := by
    rw [Clause.operandCell, number, same, stored]
  cases s with
  | null => cases stored
  | bool b =>
      refine plain ?_
      cases b <;> rfl
  | int n => exact plain rfl
  | real x => exact plain rfl
  | text s => exact plain rfl
  | bytes octets => cases stored
  | moment m =>
      -- A moment is stored as a text with a colon.
      have text : (⟨.plain, .scalar (.moment m)⟩ : Parameter).boundCell =
          .text (m.display " ") := rfl
      rw [text, Cell.prefer_of_colon (m.colon_mem_display " ")] at stored
      cases stored

end Parameter

theorem Comparison.holds_equal_int (m n : Int) :
    (Comparison.equal.truth (.int m) (.int n)).holds = (m == n) := by
  have same : (Cell.int m).compare (.int n) = Ord.compare m n := rfl
  rw [truth_of_present (by simp) (by simp), same]
  cases order : Ord.compare m n with
  | eq =>
      cases compare_eq_iff_eq.mp order
      simp [holds, Truth.ofBool, Truth.holds]
  | lt =>
      have before := compare_lt_iff_lt.mp order
      have apart : (m == n) = false := beq_eq_false_iff_ne.mpr (Int.ne_of_lt before)
      rw [apart]
      rfl
  | gt =>
      have after := compare_gt_iff_gt.mp order
      have apart : (m == n) = false := beq_eq_false_iff_ne.mpr (Int.ne_of_gt after)
      rw [apart]
      rfl

namespace Model

variable {model : Model} {row : CellRow} {n : Int}

theorem eval_id {s : Scalar} {key : Int}
    (operand : Clause.operandCell model.key (.operand model.key (.scalar s)) = .int key)
    (id : CellRow.cell row model.idField = .int n) :
    ((Clause.compare .equal model.key (.scalar s)).eval (rowScope model.table row).cell).holds =
      (n == key) := by
  have cell : (rowScope model.table row).cell model.key = .int n :=
    (rowScope_cell model.table row rfl).trans id
  have given : s ≠ .null := by
    rintro rfl
    cases operand
  have compared : Clause.comparisonTruth .equal model.key (.scalar s) (.int n) =
      Comparison.equal.truth (.int n) (.int key) := by
    rw [← operand]
    cases s <;> first | rfl | exact absurd rfl given
  rw [Clause.eval, cell, compared, Comparison.holds_equal_int]

theorem conversion_ids (ids : List Int) :
    Conversion.ofOperands model.key.type (ids.map .int) = .plain := by
  cases ids <;> rfl

/-- Ids that can be bound can be stored. -/
theorem storable_of_ids {ids : List Int}
    (bound : ∀ parameter ∈ (Clause.member false model.key (ids.map .int)).parameters,
      Except.Succeeds parameter.cell) :
    ∀ key ∈ ids, Cell.isStorable key = true := fun _ member =>
  Parameter.isStorable_of_cell (conversion_ids ids)
    (bound _ (List.mem_map_of_mem (List.mem_map_of_mem member)))

theorem eval_ids {ids : List Int} (storable : ∀ key ∈ ids, Cell.isStorable key = true)
    (id : CellRow.cell row model.idField = .int n) :
    ((Clause.member false model.key (ids.map .int)).eval (rowScope model.table row).cell).holds =
      decide (n ∈ ids) := by
  have cell : (rowScope model.table row).cell model.key = .int n :=
    (rowScope_cell model.table row rfl).trans id
  have operands : (Parameter.operands model.key (ids.map .int)).map
      (Clause.operandCell model.key) = ids.map .int := by
    rw [Parameter.operands, conversion_ids, List.map_map, List.map_map]
    refine List.map_congr_left fun key member => ?_
    exact congrArg (Cell.prefer .number) (Parameter.boundCell_int (storable key member))
  have truths : Clause.memberTruth model.key (ids.map .int) (.int n) =
      Truth.any ((ids.map Cell.int).map (Comparison.equal.truth (.int n))) := by
    rw [Clause.memberTruth, ← operands, List.map_map]
    rfl
  have found : (ids.any fun key => n == key) = decide (n ∈ ids) := by
    rw [Bool.eq_iff_iff]
    simp
  rw [Clause.eval, cell, truths, if_neg (by simp), Truth.holds_any, List.any_map, List.any_map,
    ← found]
  congr 1
  exact funext fun key => Comparison.holds_equal_int n key

end Model
end SchemaStore
