import SchemaStore.Database.Condition

/-!
# Values of combined clauses

The functions that combine clauses drop constants, open groups and turn
comparisons around.  None of that changes a truth value: on every row a
conjunction has the value of its members joined by `Truth.and`, a disjunction
the value of its members joined by `Truth.or`, and a negated clause the
opposite value.  Missing cells need no case of their own, since the opposite
of an unknown comparison is unknown.
-/

namespace SchemaStore

namespace Truth

@[simp] theorem all_nil : all [] = .yes := rfl

@[simp] theorem all_cons (truth : Truth) (rest : List Truth) :
    all (truth :: rest) = truth.and (all rest) := rfl

@[simp] theorem any_nil : any [] = .no := rfl

@[simp] theorem any_cons (truth : Truth) (rest : List Truth) :
    any (truth :: rest) = truth.or (any rest) := rfl

theorem all_append (first second : List Truth) :
    all (first ++ second) = (all first).and (all second) := by
  induction first with
  | nil => simp
  | cons truth rest induction => simp [induction, and_assoc]

@[simp] theorem not_ofBool (b : Bool) : (ofBool b).not = ofBool !b := by
  cases b <;> rfl

/-- A false member decides a conjunction. -/
theorem all_eq_no {truths : List Truth} (member : Truth.no ∈ truths) :
    all truths = .no := by
  induction truths with
  | nil => cases member
  | cons truth rest induction =>
      rcases List.mem_cons.mp member with rfl | later
      · simp
      · simp [induction later]

/-- A true member decides a disjunction. -/
theorem any_eq_yes {truths : List Truth} (member : Truth.yes ∈ truths) :
    any truths = .yes := by
  induction truths with
  | nil => cases member
  | cons truth rest induction =>
      rcases List.mem_cons.mp member with rfl | later
      · simp
      · simp [induction later]

theorem holds_all (truths : List Truth) :
    (all truths).holds = truths.all holds := by
  have holds_and (first second : Truth) :
      (first.and second).holds = (first.holds && second.holds) := by
    cases first <;> cases second <;> rfl
  induction truths with
  | nil => rfl
  | cons truth rest induction => rw [all_cons, holds_and, induction, List.all_cons]

theorem holds_any (truths : List Truth) :
    (any truths).holds = truths.any holds := by
  have holds_or (first second : Truth) :
      (first.or second).holds = (first.holds || second.holds) := by
    cases first <;> cases second <;> rfl
  induction truths with
  | nil => rfl
  | cons truth rest induction => rw [any_cons, holds_or, induction, List.any_cons]

theorem any_eq_no_iff (truths : List Truth) :
    any truths = .no ↔ ∀ truth ∈ truths, truth = .no := by
  have or_eq_no (first second : Truth) : first.or second = .no ↔ first = .no ∧ second = .no := by
    cases first <;> cases second <;> decide
  induction truths with
  | nil => simp
  | cons truth rest induction =>
      rw [any_cons, or_eq_no, List.forall_mem_cons]
      exact and_congr_right fun _ => induction

theorem holds_not_iff (truth : Truth) : truth.not.holds = true ↔ truth = .no := by
  cases truth <;> decide

end Truth

theorem Comparison.truth_of_present {comparison : Comparison} {left right : Cell}
    (leftPresent : left ≠ .null) (rightPresent : right ≠ .null) :
    comparison.truth left right = .ofBool (comparison.holds (left.compare right)) := by
  unfold truth
  split
  · exact absurd rfl leftPresent
  · exact absurd rfl rightPresent
  · rfl

namespace Clause

variable (cellOf : ColumnRef → Cell)

/-- The inverse comparison has the opposite value, also on missing cells. -/
theorem comparisonTruth_inverse (comparison : Comparison) (column : ColumnRef)
    (operand : Value) (cell : Cell) :
    comparisonTruth comparison.inverse column operand cell =
      (comparisonTruth comparison column operand cell).not := by
  have cells (left right : Cell) :
      comparison.inverse.truth left right =
        (comparison.truth left right).not := by
    unfold Comparison.truth
    split
    · rfl
    · rfl
    · rw [Comparison.holds_inverse, Truth.not_ofBool]
  -- Equality with null and its inverse ask whether the cell is missing; the
  -- other comparisons with null are unknown.
  unfold comparisonTruth
  cases comparison with
  | equal => split <;> simp_all [Comparison.inverse, bne]
  | notEqual => split <;> simp_all [Comparison.inverse, bne]
  | greater => simpa [Comparison.inverse] using cells _ _
  | greaterEqual => simpa [Comparison.inverse] using cells _ _
  | less => simpa [Comparison.inverse] using cells _ _
  | lessEqual => simpa [Comparison.inverse] using cells _ _

/-- A negated clause has the opposite value. -/
theorem eval_negate (clause : Clause) :
    clause.negate.eval cellOf = (clause.eval cellOf).not := by
  cases clause with
  | constant b => simp [negate, eval]
  | settled b => simp [negate, eval]
  | compare comparison column operand =>
      exact comparisonTruth_inverse comparison column operand (cellOf column)
  | member negated column values =>
      cases negated <;> simp [negate, eval]
  | both left right => simp [negate, eval]
  | either left right => simp [negate, eval]
  | group inner => simp [negate, eval]
  | negation restores inner => cases restores <;> simp [negate, eval]

theorem eval_openConjunction (clause : Clause) :
    clause.openConjunction.eval cellOf = clause.eval cellOf := by
  unfold openConjunction
  split <;> rfl

theorem eval_openDisjunction (clause : Clause) :
    clause.openDisjunction.eval cellOf = clause.eval cellOf := by
  unfold openDisjunction
  split <;> rfl

theorem eval_grouped (clause : Clause) :
    clause.grouped.eval cellOf = clause.eval cellOf := by
  unfold grouped
  split <;> rfl

theorem eval_joinBoth (first : Clause) (rest : List Clause) :
    (joinBoth first rest).eval cellOf =
      (first.eval cellOf).and (Truth.all (rest.map (eval cellOf))) := by
  induction rest generalizing first with
  | nil => simp [joinBoth]
  | cons second rest induction =>
      rw [joinBoth, induction]
      simp [eval, Truth.and_assoc]

theorem eval_joinEither (first : Clause) (rest : List Clause) :
    (joinEither first rest).eval cellOf =
      (first.eval cellOf).or (Truth.any (rest.map (eval cellOf))) := by
  induction rest generalizing first with
  | nil => simp [joinEither]
  | cons second rest induction =>
      rw [joinEither, induction]
      simp [eval, Truth.or_assoc]

/-- A clause that is a constant has its value. -/
theorem eval_of_isConstant {clause : Clause} {value : Bool}
    (constant : clause.isConstant value = true) :
    clause.eval cellOf = .ofBool value := by
  cases clause with
  | constant b =>
      have same : b = value := by simpa [isConstant] using constant
      subst same
      rfl
  | _ => cases constant

theorem all_filter_constant (clauses : List Clause) :
    Truth.all ((clauses.filter (!isConstant true ·)).map (eval cellOf)) =
      Truth.all (clauses.map (eval cellOf)) := by
  induction clauses with
  | nil => rfl
  | cons clause rest induction =>
      by_cases constant : clause.isConstant true = true
      · have value := eval_of_isConstant cellOf constant
        simp [constant, induction, value, Truth.ofBool]
      · simp [constant, induction]

private theorem any_filter_constant (clauses : List Clause) :
    Truth.any ((clauses.filter (!isConstant false ·)).map (eval cellOf)) =
      Truth.any (clauses.map (eval cellOf)) := by
  induction clauses with
  | nil => rfl
  | cons clause rest induction =>
      by_cases constant : clause.isConstant false = true
      · have value := eval_of_isConstant cellOf constant
        simp [constant, induction, value, Truth.ofBool]
      · simp [constant, induction]

/-- Dropping constants and opening groups keeps the value of a conjunction. -/
theorem eval_allOf (clauses : List Clause) :
    (allOf clauses).eval cellOf = Truth.all (clauses.map (eval cellOf)) := by
  unfold allOf
  split
  · next someFalse =>
      obtain ⟨clause, member, constant⟩ := List.any_eq_true.mp someFalse
      have value := eval_of_isConstant cellOf constant
      have decided : Truth.no ∈ clauses.map (eval cellOf) :=
        List.mem_map.mpr ⟨clause, member, value⟩
      rw [Truth.all_eq_no decided]
      rfl
  · rw [← all_filter_constant cellOf clauses]
    split
    · next kept => rw [kept]; rfl
    · next single kept => simp [kept]
    · next first rest kept =>
        rw [kept, eval_joinBoth, eval_openConjunction]
        simp [Function.comp_def, eval_openConjunction]

/-- Dropping constants and opening groups keeps the value of a disjunction. -/
theorem eval_anyOf (clauses : List Clause) :
    (anyOf clauses).eval cellOf = Truth.any (clauses.map (eval cellOf)) := by
  unfold anyOf
  split
  · next someTrue =>
      obtain ⟨clause, member, constant⟩ := List.any_eq_true.mp someTrue
      have value := eval_of_isConstant cellOf constant
      have decided : Truth.yes ∈ clauses.map (eval cellOf) :=
        List.mem_map.mpr ⟨clause, member, value⟩
      rw [Truth.any_eq_yes decided]
      rfl
  · rw [← any_filter_constant cellOf clauses]
    split
    · next kept => rw [kept]; rfl
    · next single kept => simp [kept]
    · next first rest kept =>
        rw [kept, eval_joinEither, eval_openDisjunction]
        simp [Function.comp_def, eval_openDisjunction]

theorem eval_conjoin (clauses : List Clause) :
    (conjoin clauses).eval cellOf = Truth.all (clauses.map (eval cellOf)) := by
  unfold conjoin
  split
  · rfl
  · simp
  · exact eval_allOf cellOf _

theorem eval_disjoin (clauses : List Clause) :
    (disjoin clauses).eval cellOf = Truth.any (clauses.map (eval cellOf)) := by
  unfold disjoin
  split
  · rfl
  · simp
  · rw [eval_grouped, eval_anyOf]

end Clause
end SchemaStore
