import Mathlib.Tactic.Tauto
import SchemaStore.Database.Parameter

/-!
# Placeholders of clauses

The text of a clause shows the class of an operand only: null, true and false are
written out, every other value stands as a parameter.  `Clause.mapOperands` puts other
values in the places of a clause; it changes neither the text nor the order of the
parameters as long as the values are of the same classes, and the functions that
combine clauses do not look at the values at all.
-/

namespace SchemaStore

/-- What the text of a clause shows of an operand. -/
inductive OperandClass where
  | null
  | truth (b : Bool)
  | other
deriving DecidableEq, Repr

def Value.operandClass : Value → OperandClass
  | .scalar .null => .null
  | .scalar (.bool b) => .truth b
  | _ => .other

def SameClass (value other : Value) : Prop :=
  value.operandClass = other.operandClass

/-- Whether a comparison with a value of a class is written without a parameter. -/
def Comparison.writesOut : Comparison → OperandClass → Bool
  | .equal, .null | .notEqual, .null => true
  | _, .truth _ => true
  | _, _ => false

theorem Comparison.class_of_writesOut {comparison : Comparison} {kind : OperandClass}
    (written : comparison.writesOut kind = true) : kind ≠ .other := by
  rintro rfl
  cases comparison <;> cases written

namespace Sql

@[simp] theorem text_raw (text : String) : (raw text).text = text := rfl

@[simp] theorem params_raw (text : String) : (raw text).params = [] := rfl

@[simp] theorem text_append (first second : Sql) :
    (first ++ second).text = first.text ++ second.text := rfl

@[simp] theorem params_append (first second : Sql) :
    (first ++ second).params = first.params ++ second.params := rfl

@[simp] theorem text_parens (part : Sql) : part.parens.text = "(" ++ part.text ++ ")" := rfl

@[simp] theorem params_parens (part : Sql) : part.parens.params = part.params := by
  simp [parens]

theorem params_join (separator : String) (parts : List Sql) :
    (join separator parts).params = parts.flatMap Sql.params := by
  induction parts with
  | nil => rfl
  | cons part rest induction =>
      cases rest with
      | nil => simp [join]
      | cons next others => simp [join, induction]

theorem text_join_congr {separator : String} {parts others : List Sql}
    (same : parts.map Sql.text = others.map Sql.text) :
    (join separator parts).text = (join separator others).text := by
  have joined (parts : List Sql) :
      (join separator parts).text = Text.joinWith separator (parts.map Sql.text) := by
    induction parts with
    | nil => rfl
    | cons part rest induction =>
        cases rest with
        | nil => simp [join, Text.joinWith]
        | cons next others =>
            simp [join, induction, Text.joinWith]
  rw [joined, joined, same]

end Sql

namespace Clause

/-- Put other values in the places of the operands. -/
def mapOperands (f : Value → Value) : Clause → Clause
  | .constant b => .constant b
  | .settled b => .settled b
  | .compare comparison column operand => .compare comparison column (f operand)
  | .member negated column values => .member negated column (values.map f)
  | .both left right => .both (left.mapOperands f) (right.mapOperands f)
  | .either left right => .either (left.mapOperands f) (right.mapOperands f)
  | .group inner => .group (inner.mapOperands f)
  | .negation restores inner => .negation restores (inner.mapOperands f)

/-- The operands of a clause, from left to right. -/
def operands (clause : Clause) : List Value :=
  clause.parameters.map Parameter.value

/-- The operands that become parameters when they are of the given classes. -/
def bound (kind : Value → OperandClass) : Clause → List Value
  | .compare comparison _ operand =>
      if comparison.writesOut (kind operand) then [] else [operand]
  | .member _ _ values => values
  | .both left right | .either left right => left.bound kind ++ right.bound kind
  | .group inner | .negation _ inner => inner.bound kind
  | .constant _ | .settled _ => []

section Combining

variable (f : Value → Value)

theorem mapOperands_openConjunction (clause : Clause) :
    (clause.mapOperands f).openConjunction = clause.openConjunction.mapOperands f := by
  cases clause with
  | group inner => cases inner <;> rfl
  | _ => rfl

theorem mapOperands_openDisjunction (clause : Clause) :
    (clause.mapOperands f).openDisjunction = clause.openDisjunction.mapOperands f := by
  cases clause with
  | group inner => cases inner <;> rfl
  | _ => rfl

theorem mapOperands_grouped (clause : Clause) :
    (clause.mapOperands f).grouped = clause.grouped.mapOperands f := by
  cases clause <;> rfl

theorem mapOperands_negate (clause : Clause) :
    (clause.mapOperands f).negate = clause.negate.mapOperands f := by
  cases clause with
  | negation restores inner => cases restores <;> rfl
  | _ => rfl

@[simp] theorem isConstant_mapOperands (value : Bool) (clause : Clause) :
    (clause.mapOperands f).isConstant value = clause.isConstant value := by
  cases clause <;> rfl

theorem mapOperands_joinBoth (first : Clause) (rest : List Clause) :
    joinBoth (first.mapOperands f) (rest.map (mapOperands f)) =
      (joinBoth first rest).mapOperands f := by
  induction rest generalizing first with
  | nil => rfl
  | cons second rest induction => exact induction (.both first second)

theorem mapOperands_joinEither (first : Clause) (rest : List Clause) :
    joinEither (first.mapOperands f) (rest.map (mapOperands f)) =
      (joinEither first rest).mapOperands f := by
  induction rest generalizing first with
  | nil => rfl
  | cons second rest induction => exact induction (.either first second)

theorem filter_mapOperands (value : Bool) (clauses : List Clause) :
    (clauses.map (mapOperands f)).filter (!isConstant value ·) =
      (clauses.filter (!isConstant value ·)).map (mapOperands f) := by
  rw [List.filter_map]
  simp [Function.comp_def]

theorem any_mapOperands (value : Bool) (clauses : List Clause) :
    (clauses.map (mapOperands f)).any (isConstant value) = clauses.any (isConstant value) := by
  rw [List.any_map]
  simp [Function.comp_def]

theorem mapOperands_allOf (clauses : List Clause) :
    allOf (clauses.map (mapOperands f)) = (allOf clauses).mapOperands f := by
  unfold allOf
  rw [any_mapOperands, filter_mapOperands]
  split
  · rfl
  · match clauses.filter (!isConstant true ·) with
    | [] => rfl
    | [single] => rfl
    | first :: second :: rest =>
        simpa [mapOperands_openConjunction, Function.comp_def] using
          mapOperands_joinBoth f first.openConjunction
            ((second :: rest).map openConjunction)

theorem mapOperands_anyOf (clauses : List Clause) :
    anyOf (clauses.map (mapOperands f)) = (anyOf clauses).mapOperands f := by
  unfold anyOf
  rw [any_mapOperands, filter_mapOperands]
  split
  · rfl
  · match clauses.filter (!isConstant false ·) with
    | [] => rfl
    | [single] => rfl
    | first :: second :: rest =>
        simpa [mapOperands_openDisjunction, Function.comp_def] using
          mapOperands_joinEither f first.openDisjunction
            ((second :: rest).map openDisjunction)

theorem mapOperands_conjoin (clauses : List Clause) :
    conjoin (clauses.map (mapOperands f)) = (conjoin clauses).mapOperands f := by
  match clauses with
  | [] => rfl
  | [single] => rfl
  | first :: second :: rest => exact mapOperands_allOf f (first :: second :: rest)

theorem mapOperands_disjoin (clauses : List Clause) :
    disjoin (clauses.map (mapOperands f)) = (disjoin clauses).mapOperands f := by
  match clauses with
  | [] => rfl
  | [single] => rfl
  | first :: second :: rest =>
      exact (congrArg grouped (mapOperands_anyOf f (first :: second :: rest))).trans
        (mapOperands_grouped f _)

end Combining

section Rendering

theorem operands_mapOperands (f : Value → Value) (clause : Clause) :
    (clause.mapOperands f).operands = clause.operands.map f := by
  induction clause with
  | constant b => rfl
  | settled b => rfl
  | compare comparison column operand => rfl
  | member negated column values =>
      simp [operands, mapOperands, parameters, Parameter.operands, Function.comp_def]
  | both left right leftMapped rightMapped =>
      simp only [operands] at leftMapped rightMapped
      simp [operands, mapOperands, parameters, leftMapped, rightMapped]
  | either left right leftMapped rightMapped =>
      simp only [operands] at leftMapped rightMapped
      simp [operands, mapOperands, parameters, leftMapped, rightMapped]
  | group inner innerMapped => exact innerMapped
  | negation restores inner innerMapped => exact innerMapped

theorem text_renderComparison {value other : Value} (same : SameClass value other)
    (dialect : Dialect) (comparison : Comparison) (column : String) :
    (renderComparison dialect comparison column value).text =
      (renderComparison dialect comparison column other).text := by
  -- The class of the value decides which line of the definition applies.
  have text (value : Value) : (renderComparison dialect comparison column value).text =
      match comparison, value.operandClass with
      | .equal, .null => column ++ " IS NULL"
      | .notEqual, .null => column ++ " IS NOT NULL"
      | _, .truth b => column ++ " " ++ comparison.symbol ++ " " ++ dialect.constant b
      | _, _ => column ++ " " ++ comparison.symbol ++ " " ++ dialect.marker := by
    cases value with
    | scalar s => cases s <;> cases comparison <;> rfl
    | sequence kind items => cases comparison <;> rfl
    | object entries => cases comparison <;> rfl
  rw [text, text, same]

theorem params_renderComparison (dialect : Dialect) (comparison : Comparison) (column : String)
    (value : Value) : (renderComparison dialect comparison column value).params =
      if comparison.writesOut value.operandClass then [] else [value] := by
  cases value with
  | scalar s => cases s <;> cases comparison <;> rfl
  | sequence kind items => cases comparison <;> rfl
  | object entries => cases comparison <;> rfl

theorem renderMembers_of_ne_nil {values : List Value} (filled : values ≠ []) (dialect : Dialect)
    (negated : Bool) (column : String) :
    renderMembers dialect negated column values =
      let body := .raw (column ++ if negated then " NOT IN " else " IN ") ++
        (Sql.join ", " (values.map dialect.param)).parens
      if negated then body.parens else body := by
  cases values with
  | nil => exact absurd rfl filled
  | cons value rest => cases dialect <;> rfl

theorem text_renderMembers {values others : List Value} (sameLength : values.length = others.length)
    (dialect : Dialect) (negated : Bool) (column : String) :
    (renderMembers dialect negated column values).text =
      (renderMembers dialect negated column others).text := by
  have listed : (Sql.join ", " (values.map dialect.param)).text =
      (Sql.join ", " (others.map dialect.param)).text := by
    apply Sql.text_join_congr
    have markers (values : List Value) : (values.map dialect.param).map Sql.text =
        List.replicate values.length dialect.marker := by
      rw [List.map_map]
      exact List.map_const' ..
    rw [markers, markers, sameLength]
  by_cases empty : values = []
  · subst empty
    rw [List.eq_nil_of_length_eq_zero sameLength.symm]
  · have otherFilled : others ≠ [] := by
      rintro rfl
      exact empty (List.eq_nil_of_length_eq_zero sameLength)
    rw [renderMembers_of_ne_nil empty, renderMembers_of_ne_nil otherFilled]
    cases negated <;> simp only [Sql.text_append, Sql.text_parens, listed, if_true, if_false,
      Bool.false_eq_true]

theorem params_renderMembers (dialect : Dialect) (negated : Bool) (column : String)
    (values : List Value) : (renderMembers dialect negated column values).params = values := by
  have listed : (Sql.join ", " (values.map dialect.param)).params = values := by
    rw [Sql.params_join, List.flatMap_map]
    exact List.flatMap_singleton' values
  by_cases empty : values = []
  · subst empty
    cases dialect <;> cases negated <;> rfl
  · rw [renderMembers_of_ne_nil empty]
    cases negated <;> simp only [Sql.params_append, Sql.params_parens, Sql.params_raw, listed,
      List.nil_append, if_true, if_false, Bool.false_eq_true]

/-- Other values of the same classes do not change the text of a clause. -/
theorem text_render_mapOperands {f g : Value → Value} (dialect : Dialect) (clause : Clause)
    (same : ∀ operand ∈ clause.operands, SameClass (f operand) (g operand)) :
    ((clause.mapOperands f).render dialect).text =
      ((clause.mapOperands g).render dialect).text := by
  induction clause with
  | constant b => rfl
  | settled b => rfl
  | compare comparison column operand =>
      exact text_renderComparison (same operand List.mem_cons_self) dialect _ _
  | member negated column values =>
      exact text_renderMembers (by simp) dialect negated _
  | both left right leftSame rightSame =>
      simp only [operands, parameters, List.map_append, List.forall_mem_append] at same
      simp [mapOperands, render, leftSame same.1, rightSame same.2]
  | either left right leftSame rightSame =>
      simp only [operands, parameters, List.map_append, List.forall_mem_append] at same
      simp [mapOperands, render, leftSame same.1, rightSame same.2]
  | group inner innerSame => simp [mapOperands, render, innerSame same]
  | negation restores inner innerSame => simp [mapOperands, render, innerSame same]

/-- The parameters of a clause are its operands that are not written out, in order. -/
theorem params_render_mapOperands (f : Value → Value) (dialect : Dialect) (clause : Clause) :
    ((clause.mapOperands f).render dialect).params =
      (clause.bound fun operand => (f operand).operandClass).map f := by
  induction clause with
  | constant b => rfl
  | settled b => rfl
  | compare comparison column operand =>
      rw [mapOperands, render, params_renderComparison, bound]
      split <;> rfl
  | member negated column values => exact params_renderMembers _ _ _ _
  | both left right leftParams rightParams =>
      simp [mapOperands, render, bound, leftParams, rightParams]
  | either left right leftParams rightParams =>
      simp [mapOperands, render, bound, leftParams, rightParams]
  | group inner innerParams => simp [mapOperands, render, bound, innerParams]
  | negation restores inner innerParams => simp [mapOperands, render, bound, innerParams]

theorem bound_congr {kind other : Value → OperandClass} {clause : Clause}
    (same : ∀ operand ∈ clause.operands, kind operand = other operand) :
    clause.bound kind = clause.bound other := by
  induction clause with
  | constant b => rfl
  | settled b => rfl
  | compare comparison column operand =>
      rw [bound, bound, same operand List.mem_cons_self]
  | member negated column values => rfl
  | both left right leftSame rightSame =>
      simp only [operands, parameters, List.map_append, List.forall_mem_append] at same
      rw [bound, bound, leftSame same.1, rightSame same.2]
  | either left right leftSame rightSame =>
      simp only [operands, parameters, List.map_append, List.forall_mem_append] at same
      rw [bound, bound, leftSame same.1, rightSame same.2]
  | group inner innerSame => exact innerSame same
  | negation restores inner innerSame => exact innerSame same

/-- What is bound stands in the clause, and every operand of the class `other` is bound. -/
theorem bound_sublist_operands (kind : Value → OperandClass) (clause : Clause) :
    (clause.bound kind).Sublist clause.operands ∧
      ∀ operand ∈ clause.operands, kind operand = .other → operand ∈ clause.bound kind := by
  induction clause with
  | constant b => exact ⟨.slnil, by simp [operands, parameters]⟩
  | settled b => exact ⟨.slnil, by simp [operands, parameters]⟩
  | compare comparison column operand =>
      have single : (compare comparison column operand).operands = [operand] := rfl
      rw [single, bound]
      split
      · next written =>
        refine ⟨List.nil_sublist _, ?_⟩
        intro other member unwritten
        rw [List.mem_singleton.mp member] at unwritten
        exact absurd unwritten (Comparison.class_of_writesOut written)
      · exact ⟨List.Sublist.refl _, fun other member _ => member⟩
  | member negated column values =>
      have all : (member negated column values).operands = values := by
        simp [operands, parameters, Parameter.operands, Function.comp_def]
      rw [all]
      exact ⟨List.Sublist.refl _, fun operand member _ => member⟩
  | both left right leftBound rightBound =>
      have whole : (both left right).operands = left.operands ++ right.operands := by
        simp [operands, parameters]
      rw [whole, bound]
      refine ⟨leftBound.1.append rightBound.1, ?_⟩
      intro operand member unwritten
      have onLeft := leftBound.2 operand
      have onRight := rightBound.2 operand
      simp only [List.mem_append] at member ⊢
      tauto
  | either left right leftBound rightBound =>
      have whole : (either left right).operands = left.operands ++ right.operands := by
        simp [operands, parameters]
      rw [whole, bound]
      refine ⟨leftBound.1.append rightBound.1, ?_⟩
      intro operand member unwritten
      have onLeft := leftBound.2 operand
      have onRight := rightBound.2 operand
      simp only [List.mem_append] at member ⊢
      tauto
  | group inner innerBound => exact innerBound
  | negation restores inner innerBound => exact innerBound

end Rendering

end Clause
end SchemaStore
