import Mathlib.Data.List.Flatten
import SchemaStore.Database.Parameter

/-!
# Bound parameters

Building a clause neither adds nor changes parameters.  A constant that settles a
conjunction or a disjunction drops those of its other operands, and no others go: a
statement whose conditions hold a false constant binds none of their parameters.
-/

namespace SchemaStore

namespace Clause

theorem parameters_negate (clause : Clause) : clause.negate.parameters = clause.parameters := by
  cases clause with
  | negation restores inner => cases restores <;> rfl
  | _ => rfl

theorem parameters_openConjunction (clause : Clause) :
    clause.openConjunction.parameters = clause.parameters := by
  unfold openConjunction
  split <;> rfl

theorem parameters_openDisjunction (clause : Clause) :
    clause.openDisjunction.parameters = clause.parameters := by
  unfold openDisjunction
  split <;> rfl

theorem parameters_grouped (clause : Clause) :
    clause.grouped.parameters = clause.parameters := by
  unfold grouped
  split <;> rfl

theorem parameters_joinBoth (first : Clause) (rest : List Clause) :
    (joinBoth first rest).parameters = (first :: rest).flatMap parameters := by
  induction rest generalizing first with
  | nil => simp [joinBoth]
  | cons second rest induction =>
      rw [joinBoth, induction]
      simp [parameters]

theorem parameters_joinEither (first : Clause) (rest : List Clause) :
    (joinEither first rest).parameters = (first :: rest).flatMap parameters := by
  induction rest generalizing first with
  | nil => simp [joinEither]
  | cons second rest induction =>
      rw [joinEither, induction]
      simp [parameters]

theorem parameters_of_isConstant {value : Bool} {clause : Clause}
    (constant : clause.isConstant value = true) : clause.parameters = [] := by
  cases clause with
  | constant _ => rfl
  | _ => cases constant

theorem flatMap_parameters_filter (value : Bool) (clauses : List Clause) :
    (clauses.filter (!isConstant value ·)).flatMap parameters = clauses.flatMap parameters := by
  induction clauses with
  | nil => rfl
  | cons clause rest induction =>
      by_cases constant : clause.isConstant value = true
      · simp [constant, induction, parameters_of_isConstant constant]
      · simp [constant, induction]

/-- The parameters of operands, of which a constant with the given value drops all. -/
def openParameters (value : Bool) (clauses : List Clause) : List Parameter :=
  if clauses.any (isConstant value) then [] else clauses.flatMap parameters

theorem openParameters_subset (value : Bool) (clauses : List Clause) :
    openParameters value clauses ⊆ clauses.flatMap parameters := by
  unfold openParameters
  split
  · exact List.nil_subset _
  · exact List.Subset.refl _

theorem openParameters_single (value : Bool) (clause : Clause) :
    openParameters value [clause] = clause.parameters := by
  unfold openParameters
  split
  · next settled =>
    rw [List.any_cons, List.any_nil, Bool.or_false] at settled
    exact (parameters_of_isConstant settled).symm
  · exact List.flatMap_singleton ..

theorem parameters_allOf (clauses : List Clause) :
    (allOf clauses).parameters = openParameters false clauses := by
  unfold allOf openParameters
  split
  · rfl
  · rw [← flatMap_parameters_filter true]
    split
    · next kept => rw [kept]; rfl
    · next kept => simp [kept]
    · next kept =>
      rw [kept, parameters_joinBoth]
      simp [List.flatMap_map, parameters_openConjunction]

theorem parameters_anyOf (clauses : List Clause) :
    (anyOf clauses).parameters = openParameters true clauses := by
  unfold anyOf openParameters
  split
  · rfl
  · rw [← flatMap_parameters_filter false]
    split
    · next kept => rw [kept]; rfl
    · next kept => simp [kept]
    · next kept =>
      rw [kept, parameters_joinEither]
      simp [List.flatMap_map, parameters_openDisjunction]

theorem parameters_conjoin (clauses : List Clause) :
    (conjoin clauses).parameters = openParameters false clauses := by
  unfold conjoin
  split
  · rfl
  · exact (openParameters_single false _).symm
  · exact parameters_allOf _

theorem parameters_disjoin (clauses : List Clause) :
    (disjoin clauses).parameters = openParameters true clauses := by
  unfold disjoin
  split
  · rfl
  · exact (openParameters_single true _).symm
  · rw [parameters_grouped, parameters_anyOf]

/-- A statement binds the parameters of its conditions, unless one of them is a false constant. -/
theorem boundParameters_eq (conditions : List Clause) :
    boundParameters conditions = openParameters false conditions := by
  unfold boundParameters criteria
  split
  · rfl
  · next value => cases value <;> rfl
  · exact parameters_allOf conditions

theorem boundParameters_subset (conditions : List Clause) :
    boundParameters conditions ⊆ conditions.flatMap parameters := by
  rw [boundParameters_eq]
  exact openParameters_subset false conditions

theorem boundParameters_single (condition : Clause) :
    boundParameters [condition] = condition.parameters := by
  rw [boundParameters_eq, openParameters_single]

/-- Further conditions bind no parameters but their own. -/
theorem boundParameters_append_subset (conditions others : List Clause) :
    boundParameters (conditions ++ others) ⊆
      boundParameters conditions ++ others.flatMap parameters := by
  simp only [boundParameters_eq, openParameters, List.any_append, List.flatMap_append]
  by_cases settled : conditions.any (isConstant false) = true
  · simp [settled]
  · rw [Bool.not_eq_true] at settled
    rw [settled, Bool.false_or]
    split
    · exact List.nil_subset _
    · exact List.Subset.refl _

end Clause

end SchemaStore
