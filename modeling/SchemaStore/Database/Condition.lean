import SchemaStore.Database.Parameter
import SchemaStore.Sql.Truth

/-!
# Conditions on rows

`Clause.eval` is the truth value of a clause on a row.  A comparison with a
missing value is unknown, except that null itself is compared by whether the
value is missing.
-/

namespace SchemaStore

namespace Comparison

/-- Whether a comparison holds of values in the given order. -/
def holds : Comparison → Ordering → Bool
  | .equal, order => order == .eq
  | .notEqual, order => order != .eq
  | .greater, order => order == .gt
  | .greaterEqual, order => order != .lt
  | .less, order => order == .lt
  | .lessEqual, order => order != .gt

/-- The truth value of a comparison of two cells. -/
def truth (comparison : Comparison) : Cell → Cell → Truth
  | .null, _ | _, .null => .unknown
  | left, right => .ofBool (comparison.holds (left.compare right))

theorem holds_inverse (comparison : Comparison) (order : Ordering) :
    comparison.inverse.holds order = !comparison.holds order := by
  cases comparison <;> cases order <;> rfl

end Comparison

namespace Clause

/-- The cell that a column is compared with. -/
def operandCell (column : ColumnRef) (parameter : Parameter) : Cell :=
  parameter.boundCell.prefer column.type.affinity

/-- The truth value of a comparison of a column with a value. -/
def comparisonTruth (comparison : Comparison) (column : ColumnRef) (operand : Value)
    (cell : Cell) : Truth :=
  match comparison, operand with
  | .equal, .scalar .null => .ofBool (cell == .null)
  | .notEqual, .scalar .null => .ofBool (cell != .null)
  | _, _ => comparison.truth cell (operandCell column (.operand column operand))

/-- The truth value of the membership of a column in a list. -/
def memberTruth (column : ColumnRef) (values : List Value) (cell : Cell) : Truth :=
  Truth.any ((Parameter.operands column values).map fun parameter =>
    Comparison.equal.truth cell (operandCell column parameter))

/-- The truth value of a clause, given the cells of the columns. -/
def eval (cellOf : ColumnRef → Cell) : Clause → Truth
  | .constant b | .settled b => .ofBool b
  | .compare comparison column operand =>
      comparisonTruth comparison column operand (cellOf column)
  | .member negated column values =>
      let truth := memberTruth column values (cellOf column)
      if negated then truth.not else truth
  | .both left right => (left.eval cellOf).and (right.eval cellOf)
  | .either left right => (left.eval cellOf).or (right.eval cellOf)
  | .group inner => inner.eval cellOf
  | .negation _ inner => (inner.eval cellOf).not

/-- Whether the conditions of a statement hold. -/
def holdAll (cellOf : ColumnRef → Cell) (conditions : List Clause) : Bool :=
  match criteria conditions with
  | none => true
  | some clause => (clause.eval cellOf).holds

end Clause
end SchemaStore
