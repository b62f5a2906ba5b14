import SchemaStore.Proofs.Filter.Grammar
import SchemaStore.Proofs.Filter.Parts

/-!
# Lists as alternatives

A field with a list of values asks for membership in the list, and alternatives of the
field with the single values ask for one of several equalities.  The two select the
same rows as long as every value is compared in the list as it is alone, except that a
list never has a missing value as a member: null in a list selects no row, and under
`NOT` it keeps all rows from being selected.
-/

namespace SchemaStore

namespace Parameter

/-- The cell that a column is compared with for a parameter; none if it cannot be bound. -/
def compared? (column : ColumnRef) (parameter : Parameter) : Option Cell :=
  parameter.cell.toOption.map (·.prefer column.type.affinity)

theorem isSome_compared? (column : ColumnRef) (parameter : Parameter) :
    (parameter.compared? column).isSome = true ↔ Except.Succeeds parameter.cell := by
  unfold compared?
  cases parameter.cell with
  | error failure => exact iff_of_false nofun (Except.not_succeeds_error failure)
  | ok cell => exact iff_of_true rfl (Except.succeeds_ok cell)

theorem operandCell_eq (column : ColumnRef) (parameter : Parameter) :
    Clause.operandCell column parameter = (parameter.compared? column).getD .null := by
  unfold Clause.operandCell boundCell compared?
  cases parameter.cell with
  | error failure => cases column.type <;> rfl
  | ok cell => rfl

end Parameter

/-- Every value of a list is compared with a column as it is alone. -/
def ComparedAlone (column : ColumnRef) (values : List Value) : Prop :=
  ∀ value ∈ values, Parameter.compared? column ⟨.ofOperands column.type values, value⟩ =
    Parameter.compared? column (.operand column value)

instance (column : ColumnRef) (values : List Value) : Decidable (ComparedAlone column values) :=
  List.decidableBAll _ values

theorem Conversion.cell_null (conversion : Conversion) :
    (⟨conversion, .null⟩ : Parameter).cell = .ok .null := by
  cases conversion <;> rfl

/-- Values that are converted like the first one are compared as they are alone; null is converted
in any way. -/
theorem comparedAlone_of_conversions {column : ColumnRef} {values : List Value}
    (same : ∀ value ∈ values, value ≠ .null →
      Conversion.ofOperand column.type value = .ofOperands column.type values) :
    ComparedAlone column values := by
  intro value member
  by_cases missing : value = .null
  · rw [missing, Parameter.compared?, Parameter.compared?, Parameter.operand,
      Conversion.cell_null, Conversion.cell_null]
  · rw [Parameter.operand, same value member missing]

namespace Clause

section Plain

variable {clauses : List Clause}
  (plain : ∀ clause ∈ clauses, ∀ value, isConstant value clause = false)

include plain

theorem any_isConstant (value : Bool) : clauses.any (isConstant value) = false := by
  rw [List.any_eq_false]
  intro clause member
  simp [plain clause member value]

/-- Without constants nothing is dropped from a conjunction. -/
theorem parameters_conjoin_plain :
    (conjoin clauses).parameters = clauses.flatMap parameters := by
  rw [parameters_conjoin, openParameters, any_isConstant plain, if_neg Bool.false_ne_true]

/-- Without constants nothing is dropped from a disjunction. -/
theorem parameters_disjoin_plain :
    (disjoin clauses).parameters = clauses.flatMap parameters := by
  rw [parameters_disjoin, openParameters, any_isConstant plain, if_neg Bool.false_ne_true]

end Plain

/-- What a value is compared by equality, null apart. -/
theorem comparisonTruth_equal {column : ColumnRef} {s : Scalar} (present : s ≠ .null)
    (cell : Cell) :
    comparisonTruth .equal column (.scalar s) cell =
      Comparison.equal.truth cell (operandCell column (.operand column (.scalar s))) := by
  cases s <;> first | rfl | contradiction

theorem operandCell_null (column : ColumnRef) :
    operandCell column (.operand column .null) = .null := by
  have bound : (Parameter.operand column .null).boundCell = .null := by
    rw [Parameter.boundCell, Parameter.operand, Conversion.cell_null]
  rw [operandCell, bound]
  cases column.type <;> rfl

theorem memberTruth_alone {column : ColumnRef} {values : List Value}
    (alone : ComparedAlone column values) (cell : Cell) :
    memberTruth column values cell = Truth.any (values.map fun value =>
      Comparison.equal.truth cell (operandCell column (.operand column value))) := by
  rw [memberTruth, Parameter.operands, List.map_map]
  congr 1
  refine List.map_congr_left fun value member => ?_
  simp only [Function.comp_apply, Parameter.operandCell_eq, alone value member]

end Clause

namespace Filter

/-- A filter selects a row if its values can be bound and its clause holds of the row. -/
def Selects (table : Table) (cellOf : ColumnRef → Cell) (filter : Value) : Prop :=
  ∃ clause, compile table filter = .ok clause ∧
    (∀ parameter ∈ clause.parameters, Except.Succeeds parameter.cell) ∧
    (clause.eval cellOf).holds = true

theorem selects_of_compile {table : Table} {cellOf : ColumnRef → Cell} {filter : Value}
    {clause : Clause} (compiled : compile table filter = .ok clause) :
    Selects table cellOf filter ↔
      (∀ parameter ∈ clause.parameters, Except.Succeeds parameter.cell) ∧
        (clause.eval cellOf).holds = true := by
  constructor
  · rintro ⟨other, again, selects⟩
    cases compiled.symm.trans again
    exact selects
  · exact fun selects => ⟨clause, compiled, selects⟩

theorem readBranches_nil (table : Table) (key : String) : readBranches table key [] = .ok [] := by
  rw [readBranches, List.all_nil, if_pos rfl, readAll]

/-- The mappings that ask for one of the values each. -/
def alternatives (name : String) (values : List Scalar) : List Value :=
  values.map fun value => .object [(name, .scalar value)]

section Compilation

variable {table : Table} {name : String} {column : ColumnRef}
  (known : table.ref? name = some column) (field : isCombinator name = false)

include known field

theorem readEntry_known {value : Value} {test : ColumnTest} (accepted : readTest value = .ok test) :
    readEntry table name value = .ok (.test column test) := by
  rw [readEntry_field field, readColumn_eq_ok.mpr known, accepted]
  rfl

theorem compile_list (kind : SequenceKind) (values : List Value) :
    compile table (.object [(name, .sequence kind values)]) =
      .ok (.member false column values) := by
  rw [compile_single, readEntry_known known field rfl]
  rfl

theorem compile_not_list (kind : SequenceKind) (values : List Value) :
    compile table (.object [("NOT", .object [(name, .sequence kind values)])]) =
      .ok (.member true column values) := by
  have entries : readEntries table [(name, .sequence kind values)] =
      .ok [.test column (.among values)] := by
    rw [readEntries, readEntry_known known field rfl, readEntries]
    rfl
  rw [compile_single, readEntry, entries]
  rfl

theorem readBranches_alternatives (key : String) (values : List Scalar) :
    readBranches table key (alternatives name values) =
      .ok (values.map fun value => .ofEntries [.test column (.equals (.scalar value))]) := by
  have mappings : (alternatives name values).all Value.isMapping = true := by
    simp [alternatives, Value.isMapping]
  rw [readBranches, if_pos mappings, readAll_eq_mapM, Except.mapM_eq_ok, alternatives,
    List.map_map, List.map_map]
  refine List.map_congr_left fun value _ => ?_
  exact read_single (readEntry_known known field rfl)

theorem compile_alternatives (kind : SequenceKind) (values : List Scalar) :
    compile table (.object [("OR", .sequence kind (alternatives name values))]) =
      .ok (Clause.disjoin (values.map fun value => .compare .equal column (.scalar value))) := by
  have clauses : clauseList (values.map fun value => .ofEntries [.test column (.equals (.scalar value))]) =
      values.map fun value => .compare .equal column (.scalar value) := by
    induction values with
    | nil => rfl
    | cons value rest induction => exact congrArg (_ :: ·) induction
  rw [compile_single, readEntry, readBranches_alternatives known field]
  exact congrArg (Except.ok ∘ Clause.disjoin) clauses

theorem compile_not_alternatives (kind : SequenceKind) (values : List Scalar) :
    compile table (.object [("NOT", .sequence kind (alternatives name values))]) =
      .ok (Clause.conjoin (values.map fun value => .compare .notEqual column (.scalar value))) := by
  have clauses : negatedList (values.map fun value => .ofEntries [.test column (.equals (.scalar value))]) =
      values.map fun value => .compare .notEqual column (.scalar value) := by
    induction values with
    | nil => rfl
    | cons value rest induction => exact congrArg (_ :: ·) induction
  rw [compile_single, readEntry, readBranches_alternatives known field]
  exact congrArg (Except.ok ∘ Clause.conjoin) clauses

end Compilation

/-- Every value of a list can be bound to be compared with a column. -/
def AllBind (column : ColumnRef) (values : List Scalar) : Prop :=
  ∀ value ∈ values, Except.Succeeds (Parameter.operand column (.scalar value)).cell

section Selection

variable {table : Table} {name : String} {column : ColumnRef} {cellOf : ColumnRef → Cell}
  {values : List Scalar}

theorem binds_list (alone : ComparedAlone column (values.map .scalar)) :
    (∀ parameter ∈ Parameter.operands column (values.map .scalar),
      Except.Succeeds parameter.cell) ↔ AllBind column values := by
  simp only [Parameter.operands, List.forall_mem_map, AllBind]
  refine forall₂_congr fun value member => ?_
  rw [← Parameter.isSome_compared? column, ← Parameter.isSome_compared? column,
    alone (.scalar value) (List.mem_map_of_mem member)]

theorem binds_comparisons (comparison : Comparison) :
    (∀ parameter ∈ (values.map fun value =>
      Clause.compare comparison column (.scalar value)).flatMap Clause.parameters,
      Except.Succeeds parameter.cell) ↔ AllBind column values := by
  have single : values.flatMap (fun value =>
      (Clause.compare comparison column (.scalar value)).parameters) =
      values.map fun value => .operand column (.scalar value) := List.map_eq_flatMap.symm
  rw [List.flatMap_map, single, List.forall_mem_map]
  rfl

theorem plain_comparisons (comparison : Comparison) :
    ∀ clause ∈ values.map (fun value => Clause.compare comparison column (.scalar value)),
      ∀ b, Clause.isConstant b clause = false := by
  rintro _ member b
  obtain ⟨value, -, rfl⟩ := List.mem_map.mp member
  rfl

section Known

variable (known : table.ref? name = some column) (field : isCombinator name = false)
  (kind : SequenceKind)

include known field

theorem selects_list (alone : ComparedAlone column (values.map .scalar)) :
    Selects table cellOf (.object [(name, .sequence kind (values.map .scalar))]) ↔
      AllBind column values ∧ ∃ value ∈ values, (Comparison.equal.truth (cellOf column)
        (Clause.operandCell column (.operand column (.scalar value)))).holds = true := by
  rw [selects_of_compile (compile_list known field kind _), Clause.parameters, binds_list alone,
    Clause.eval, Clause.memberTruth_alone alone]
  simp [Truth.holds_any]

theorem selects_not_list (alone : ComparedAlone column (values.map .scalar)) :
    Selects table cellOf (.object [("NOT", .object [(name, .sequence kind (values.map .scalar))])])
      ↔ AllBind column values ∧ ∀ value ∈ values, Comparison.equal.truth (cellOf column)
        (Clause.operandCell column (.operand column (.scalar value))) = .no := by
  rw [selects_of_compile (compile_not_list known field kind _), Clause.parameters,
    binds_list alone, Clause.eval, Clause.memberTruth_alone alone]
  simp [Truth.holds_not_iff, Truth.any_eq_no_iff]

theorem selects_alternatives :
    Selects table cellOf (.object [("OR", .sequence kind (alternatives name values))]) ↔
      AllBind column values ∧ ∃ value ∈ values,
        (Clause.comparisonTruth .equal column (.scalar value) (cellOf column)).holds = true := by
  rw [selects_of_compile (compile_alternatives known field kind values),
    Clause.parameters_disjoin_plain (plain_comparisons .equal), binds_comparisons,
    Clause.eval_disjoin, Truth.holds_any]
  simp [Clause.eval]

theorem selects_not_alternatives :
    Selects table cellOf (.object [("NOT", .sequence kind (alternatives name values))]) ↔
      AllBind column values ∧ ∀ value ∈ values,
        Clause.comparisonTruth .equal column (.scalar value) (cellOf column) = .no := by
  have opposite (value : Scalar) :
      (Clause.comparisonTruth .notEqual column (.scalar value) (cellOf column)).holds = true ↔
        Clause.comparisonTruth .equal column (.scalar value) (cellOf column) = .no := by
    rw [← Truth.holds_not_iff, ← Clause.comparisonTruth_inverse]
    rfl
  rw [selects_of_compile (compile_not_alternatives known field kind values),
    Clause.parameters_conjoin_plain (plain_comparisons .notEqual), binds_comparisons,
    Clause.eval_conjoin, Truth.holds_all]
  simp [Clause.eval, opposite]

end Known

end Selection

/-- A field with a list selects what the alternatives with the single values select, unless null is
in the list and the cell is missing; under `NOT`, unless null is in the list.  Every value has to be
compared in the list as it is alone. -/
theorem selects_list_iff_alternatives {table : Table} {name : String} {column : ColumnRef}
    (known : table.ref? name = some column) (field : isCombinator name = false)
    (values : List Scalar) (alone : ComparedAlone column (values.map .scalar))
    (kind branches : SequenceKind) (cellOf : ColumnRef → Cell) :
    (Selects table cellOf (.object [(name, .sequence kind (values.map .scalar))]) ↔
      Selects table cellOf (.object [("OR", .sequence branches (alternatives name values))]) ∧
        (.null ∈ values → cellOf column ≠ .null)) ∧
    (Selects table cellOf
        (.object [("NOT", .object [(name, .sequence kind (values.map .scalar))])]) ↔
      Selects table cellOf (.object [("NOT", .sequence branches (alternatives name values))]) ∧
        .null ∉ values) := by
  have missing : Comparison.equal.truth (cellOf column)
      (Clause.operandCell column (.operand column (.scalar .null))) = .unknown := by
    rw [← Value.null, Clause.operandCell_null]
    cases cellOf column <;> rfl
  rw [selects_list known field kind alone, selects_alternatives known field branches,
    selects_not_list known field kind alone, selects_not_alternatives known field branches]
  constructor
  · constructor
    · rintro ⟨binds, value, member, holds⟩
      have present : value ≠ .null := by
        rintro rfl
        rw [missing] at holds
        cases holds
      refine ⟨⟨binds, value, member, ?_⟩, fun _ empty => ?_⟩
      · rwa [Clause.comparisonTruth_equal present]
      · rw [empty] at holds
        cases holds
    · rintro ⟨⟨binds, value, member, holds⟩, filled⟩
      refine ⟨binds, value, member, ?_⟩
      by_cases present : value = .null
      · subst present
        -- Equality with null holds of a missing cell only.
        cases cell : cellOf column with
        | null => exact absurd cell (filled member)
        | int | real | text | blob =>
            rw [cell] at holds
            cases holds
      · rwa [Clause.comparisonTruth_equal present] at holds
  · constructor
    · rintro ⟨binds, each⟩
      have absent : .null ∉ values := by
        intro member
        have never := each .null member
        rw [missing] at never
        cases never
      refine ⟨⟨binds, fun value member => ?_⟩, absent⟩
      rw [Clause.comparisonTruth_equal (ne_of_mem_of_not_mem member absent)]
      exact each value member
    · rintro ⟨⟨binds, each⟩, absent⟩
      refine ⟨binds, fun value member => ?_⟩
      rw [← Clause.comparisonTruth_equal (ne_of_mem_of_not_mem member absent)]
      exact each value member

/-- The ages of a list with a missing one: a row of age five is selected by the list, and no row
is selected by its negation. -/
theorem selects_list_iff_alternatives_ages :
    let people : Table :=
      { name := "people"
        columns := [{ name := "age", type := .integer, nullable := true },
          { name := "AND", type := .integer, nullable := true }] }
    let age : ColumnRef := ⟨"people", "age", .integer⟩
    let ages : List Scalar := [.int 5, .null, .int 7, .int 5]
    let cellOf (_ : ColumnRef) : Cell := .int 5
    people.ref? "age" = some age ∧ isCombinator "age" = false ∧
      ComparedAlone age (ages.map .scalar) ∧
      Selects people cellOf (.object [("age", .list (ages.map .scalar))]) ∧
      (Selects people cellOf (.object [("age", .list (ages.map .scalar))]) ↔
        Selects people cellOf (.object [("OR", .list (alternatives "age" ages))]) ∧
          (.null ∈ ages → cellOf age ≠ .null)) ∧
      (Selects people cellOf (.object [("NOT", .object [("age", .list (ages.map .scalar))])]) ↔
        Selects people cellOf (.object [("NOT", .list (alternatives "age" ages))]) ∧
          .null ∉ ages) := by
  intro people age ages cellOf
  have known : people.ref? "age" = some age := rfl
  have alone : ComparedAlone age (ages.map .scalar) := by decide
  have agrees := selects_list_iff_alternatives known rfl ages alone .list .list cellOf
  refine ⟨known, rfl, alone, ?_, agrees⟩
  rw [Value.list, selects_list known rfl .list alone]
  refine ⟨?_, .int 5, List.mem_cons_self, by decide⟩
  unfold AllBind
  decide

/-- Null in a list, values of a list that are converted like its first one, and a field with the
name of a combinator each tell a list from the alternatives. -/
theorem selects_list_disagrees_people :
    let people : Table :=
      { name := "people"
        columns := [{ name := "age", type := .integer, nullable := true },
          { name := "AND", type := .integer, nullable := true }] }
    let five (_ : ColumnRef) : Cell := .int 5
    let missing (_ : ColumnRef) : Cell := .null
    (¬Selects people missing (.object [("age", .list [.null])]) ∧
      Selects people missing (.object [("OR", .list (alternatives "age" [.null]))])) ∧
    (¬Selects people five (.object [("NOT", .object [("age", .list [.null])])]) ∧
      Selects people five (.object [("NOT", .list (alternatives "age" [.null]))])) ∧
    (¬Selects people five (.object [("age", .list [.bool true, .int 5])]) ∧
      Selects people five (.object [("OR", .list (alternatives "age" [.bool true, .int 5]))])) ∧
    (Selects people five (.object [("AND", .list [])]) ∧
      ¬Selects people five (.object [("OR", .list (alternatives "AND" []))])) := by
  intro people five missing
  let age : ColumnRef := ⟨"people", "age", .integer⟩
  have known : people.ref? "age" = some age := rfl
  refine ⟨⟨?_, ?_⟩, ⟨?_, ?_⟩, ⟨?_, ?_⟩, ?_, ?_⟩
  · rw [Value.list, selects_of_compile (compile_list known rfl .list _)]
    rintro ⟨-, holds⟩
    exact absurd holds (by decide)
  · rw [Value.list, selects_alternatives known rfl .list]
    unfold AllBind
    decide
  · rw [Value.list, selects_of_compile (compile_not_list known rfl .list _)]
    rintro ⟨-, holds⟩
    exact absurd holds (by decide)
  · rw [Value.list, selects_not_alternatives known rfl .list]
    unfold AllBind
    decide
  · rw [Value.list, selects_of_compile (compile_list known rfl .list _)]
    rintro ⟨binds, -⟩
    -- As a truth value, which the first value is, five cannot be bound.
    exact absurd (binds ⟨.truth, .int 5⟩ (by simp [Clause.parameters, Parameter.operands,
      Conversion.ofOperands, Conversion.ofOperand, Value.bool])) (by decide)
  · rw [Value.list, selects_alternatives known rfl .list]
    unfold AllBind
    decide
  · have compiled : compile people (.object [("AND", .list [])]) = .ok (.constant true) := by
      rw [compile_single, Value.list, readEntry, readBranches_nil]
      rfl
    rw [selects_of_compile compiled]
    decide
  · have compiled : compile people (.object [("OR", .list (alternatives "AND" []))]) =
        .ok (.constant false) := by
      rw [compile_single, Value.list, readEntry, alternatives, List.map_nil, readBranches_nil]
      rfl
    rw [selects_of_compile compiled]
    decide

end Filter
end SchemaStore
