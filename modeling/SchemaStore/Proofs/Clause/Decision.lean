import SchemaStore.Proofs.Clause.Grouping
import SchemaStore.Proofs.Database.Reading

/-!
# Decided clauses

A comparison is unknown only if something is missing.  Where the cells of all columns
are there and no parameter is bound as null, every clause is true or false, and its
negation holds exactly if it does not.
-/

namespace SchemaStore

theorem Cell.prefer_ne_null {cell : Cell} (present : cell ≠ .null) (affinity : Affinity) :
    cell.prefer affinity ≠ .null := by
  have ofReal (x : Binary64) : Cell.ofReal x ≠ .null := by
    unfold Cell.ofReal
    split
    · split <;> rintro ⟨⟩
    · rintro ⟨⟩
  cases cell with
  | null => exact absurd rfl present
  | int n => cases affinity <;> rintro ⟨⟩
  | real x =>
      cases affinity with
      | text => rintro ⟨⟩
      | number => exact ofReal x
  | text s =>
      cases affinity with
      | text => rintro ⟨⟩
      | number =>
          rw [Cell.prefer]
          cases read : Cell.readNumber? s with
          | none => rintro ⟨⟩
          | some cell =>
              unfold Cell.readNumber? at read
              dsimp only at read
              split at read
              · cases read
              · obtain ⟨⟨negative, digits, exponent⟩, -, rfl⟩ := Option.map_eq_some_iff.mp read
                dsimp only [Option.getD_some]
                split
                · rintro ⟨⟩
                · exact ofReal _
  | blob octets => cases affinity <;> rintro ⟨⟩

theorem Comparison.truth_ne_unknown {left right : Cell} (leftPresent : left ≠ .null)
    (rightPresent : right ≠ .null) (comparison : Comparison) :
    comparison.truth left right ≠ .unknown := by
  rw [truth_of_present leftPresent rightPresent]
  unfold Truth.ofBool
  split <;> rintro ⟨⟩

namespace Truth

theorem and_ne_unknown {first second : Truth} (left : first ≠ .unknown)
    (right : second ≠ .unknown) : first.and second ≠ .unknown := by
  cases first <;> cases second <;> simp_all [and]

theorem or_ne_unknown {first second : Truth} (left : first ≠ .unknown)
    (right : second ≠ .unknown) : first.or second ≠ .unknown := by
  cases first <;> cases second <;> simp_all [or]

theorem not_ne_unknown {truth : Truth} (decided : truth ≠ .unknown) : truth.not ≠ .unknown := by
  cases truth <;> simp_all [not]

theorem any_ne_unknown {truths : List Truth} (decided : ∀ truth ∈ truths, truth ≠ .unknown) :
    any truths ≠ .unknown := by
  induction truths with
  | nil => rintro ⟨⟩
  | cons truth rest induction =>
      obtain ⟨first, others⟩ := List.forall_mem_cons.mp decided
      exact or_ne_unknown first (induction others)

/-- A decided condition holds exactly if its negation does not. -/
theorem holds_not {truth : Truth} (decided : truth ≠ .unknown) :
    truth.not.holds = !truth.holds := by
  cases truth with
  | unknown => exact absurd rfl decided
  | _ => rfl

end Truth

namespace Clause

variable {table : Table} {cellOf : ColumnRef → Cell}

theorem has_of_placed {clause : Clause} (placed : clause.Placed table) :
    ∀ column ∈ clause.columns, table.Has column := by
  induction clause with
  | constant b => exact placed.elim
  | settled b => exact List.forall_mem_nil _
  | compare comparison column operand => exact List.forall_mem_singleton.mpr placed
  | member negated column values => exact List.forall_mem_singleton.mpr placed
  | both left right leftHas rightHas =>
      exact List.forall_mem_append.mpr ⟨leftHas placed.1.1, rightHas placed.2.1⟩
  | either left right leftHas rightHas =>
      exact List.forall_mem_append.mpr ⟨leftHas placed.1, rightHas placed.2⟩
  | group inner innerHas => exact innerHas placed
  | negation restores inner innerHas => exact innerHas placed

theorem has_of_closed {clause : Clause} (closed : clause.Closed table) :
    ∀ column ∈ clause.columns, table.Has column := by
  rcases closed with ⟨b, rfl⟩ | joinable
  · exact List.forall_mem_nil _
  · exact has_of_placed joinable.1

theorem comparisonTruth_ne_unknown {column : ColumnRef} {operand : Value} {cell : Cell}
    (present : cell ≠ .null) (bound : (Parameter.operand column operand).boundCell ≠ .null)
    (comparison : Comparison) :
    comparisonTruth comparison column operand cell ≠ .unknown := by
  unfold comparisonTruth
  split
  · rw [Truth.ofBool]
    split <;> rintro ⟨⟩
  · rw [Truth.ofBool]
    split <;> rintro ⟨⟩
  · exact comparison.truth_ne_unknown present (Cell.prefer_ne_null bound _)

/-- A clause is decided where no cell and no parameter is missing. -/
theorem eval_ne_unknown {clause : Clause}
    (cells : ∀ column ∈ clause.columns, cellOf column ≠ .null)
    (bound : ∀ parameter ∈ clause.parameters, parameter.boundCell ≠ .null) :
    clause.eval cellOf ≠ .unknown := by
  induction clause with
  | constant b => cases b <;> rintro ⟨⟩
  | settled b => cases b <;> rintro ⟨⟩
  | compare comparison column operand =>
      exact comparisonTruth_ne_unknown (cells column List.mem_cons_self)
        (bound _ List.mem_cons_self) comparison
  | member negated column values =>
      have listed : memberTruth column values (cellOf column) ≠ .unknown := by
        apply Truth.any_ne_unknown
        intro truth member
        obtain ⟨parameter, parameterMember, rfl⟩ := List.mem_map.mp member
        exact Comparison.truth_ne_unknown (cells column List.mem_cons_self)
          (Cell.prefer_ne_null (bound parameter parameterMember) _) _
      rw [eval]
      split
      · exact Truth.not_ne_unknown listed
      · exact listed
  | both left right leftDecided rightDecided =>
      obtain ⟨leftCells, rightCells⟩ := List.forall_mem_append.mp cells
      obtain ⟨leftBound, rightBound⟩ := List.forall_mem_append.mp bound
      exact Truth.and_ne_unknown (leftDecided leftCells leftBound)
        (rightDecided rightCells rightBound)
  | either left right leftDecided rightDecided =>
      obtain ⟨leftCells, rightCells⟩ := List.forall_mem_append.mp cells
      obtain ⟨leftBound, rightBound⟩ := List.forall_mem_append.mp bound
      exact Truth.or_ne_unknown (leftDecided leftCells leftBound)
        (rightDecided rightCells rightBound)
  | group inner innerDecided => exact innerDecided cells bound
  | negation restores inner innerDecided => exact Truth.not_ne_unknown (innerDecided cells bound)

end Clause

end SchemaStore
