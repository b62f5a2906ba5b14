import SchemaStore.Proofs.Clause.Decision
import SchemaStore.Proofs.Clause.Placeholder
import SchemaStore.Proofs.Filter.Meaning

/-!
# Filters that no row decides

Empty combinators, lists and operator objects have a truth value of their own, and what is
combined from them may have one, too.  `Filter.verdict` is that value, where every test of
a column counts as unknown.  A filter with a verdict has it on every row, and one without
a verdict tests a column; if it is not given null, a row without values leaves it unknown.
-/

namespace SchemaStore

/-- The truth value of a test that no row decides. -/
def ColumnTest.verdict : ColumnTest → Truth
  | .among [] => .no
  | .comparisons [] => .yes
  | _ => .unknown

/-- The truth value of a negated test that no row decides; each comparison is negated by itself. -/
def ColumnTest.negatedVerdict : ColumnTest → Truth
  | .among [] | .comparisons [] => .yes
  | _ => .unknown

mutual

def Filter.verdict : Filter → Truth
  | .ofEntries entries => Truth.all (FilterEntry.verdicts entries)

def FilterEntry.verdict : FilterEntry → Truth
  | .all branches => Truth.all (Filter.verdicts branches)
  | .any branches => Truth.any (Filter.verdicts branches)
  | .none branches => Truth.all (Filter.negatedVerdicts branches)
  | .test _ test => test.verdict

/-- The truth value of an entry under `NOT`: only a combinator fails as a whole. -/
def FilterEntry.negatedVerdict : FilterEntry → Truth
  | .all branches => (Truth.all (Filter.verdicts branches)).not
  | .any branches => (Truth.any (Filter.verdicts branches)).not
  | .none branches => (Truth.all (Filter.negatedVerdicts branches)).not
  | .test _ test => test.negatedVerdict

def FilterEntry.verdicts : List FilterEntry → List Truth
  | [] => []
  | entry :: rest => entry.verdict :: FilterEntry.verdicts rest

def FilterEntry.negatedVerdicts : List FilterEntry → List Truth
  | [] => []
  | entry :: rest => entry.negatedVerdict :: FilterEntry.negatedVerdicts rest

def Filter.verdicts : List Filter → List Truth
  | [] => []
  | filter :: rest => filter.verdict :: Filter.verdicts rest

def Filter.negatedVerdicts : List Filter → List Truth
  | [] => []
  | .ofEntries entries :: rest =>
      Truth.all (FilterEntry.negatedVerdicts entries) :: Filter.negatedVerdicts rest

end

namespace Truth

/-- A truth value that another one was settled as before; an unknown one may still be settled. -/
def Settles (before after : Truth) : Prop :=
  before = .unknown ∨ after = before

variable {first second after other : Truth}

theorem Settles.not (settles : Settles first after) : Settles first.not after.not := by
  rcases settles with rfl | rfl
  · exact .inl rfl
  · exact .inr rfl

theorem Settles.and (settles : Settles first after) (rest : Settles second other) :
    Settles (first.and second) (after.and other) := by
  rcases settles with rfl | rfl
  · cases second with
    | no =>
        rcases rest with ⟨⟨⟩⟩ | rfl
        exact .inr (and_no after)
    | yes | unknown => exact .inl rfl
  · rcases rest with rfl | rfl
    · cases after with
      | no => exact .inr (no_and other)
      | yes | unknown => exact .inl rfl
    · exact .inr rfl

theorem Settles.or (settles : Settles first after) (rest : Settles second other) :
    Settles (first.or second) (after.or other) := by
  rcases settles with rfl | rfl
  · cases second with
    | yes =>
        rcases rest with ⟨⟨⟩⟩ | rfl
        exact .inr (or_yes after)
    | no | unknown => exact .inl rfl
  · rcases rest with rfl | rfl
    · cases after with
      | yes => exact .inr (yes_or other)
      | no | unknown => exact .inl rfl
    · exact .inr rfl

/-- Unknown values are combined to an unknown one, if there are any. -/
theorem foldr_map_unknown {α : Type} (combine : Truth → Truth → Truth) (initial : Truth)
    (one : combine unknown initial = unknown) (two : combine unknown unknown = unknown)
    {items : List α} (filled : items ≠ []) :
    (items.map fun _ => unknown).foldr combine initial = unknown := by
  induction items with
  | nil => contradiction
  | cons item rest induction =>
      rw [List.map_cons, List.foldr_cons]
      by_cases last : rest = []
      · rw [last]
        exact one
      · rw [induction last]
        exact two

theorem any_map_unknown {α : Type} {items : List α} (filled : items ≠ []) :
    any (items.map fun _ => unknown) = .unknown :=
  foldr_map_unknown or .no rfl rfl filled

theorem all_map_unknown {α : Type} {items : List α} (filled : items ≠ []) :
    all (items.map fun _ => unknown) = .unknown :=
  foldr_map_unknown and .yes rfl rfl filled

end Truth

namespace Clause

/-- The truth value of a clause that no row decides. -/
def verdict : Clause → Truth
  | .constant b | .settled b => .ofBool b
  | .compare .. => .unknown
  | .member negated _ [] => .ofBool negated
  | .member .. => .unknown
  | .both left right => left.verdict.and right.verdict
  | .either left right => left.verdict.or right.verdict
  | .group inner => inner.verdict
  | .negation _ inner => inner.verdict.not

/-- On a row without values no list with values decides. -/
theorem memberTruth_null (column : ColumnRef) {values : List Value} (filled : values ≠ []) :
    memberTruth column values .null = .unknown :=
  Truth.any_map_unknown (by simpa [Parameter.operands] using filled)

theorem comparisonTruth_null (comparison : Comparison) (column : ColumnRef) {operand : Value}
    (given : operand ≠ .null) : comparisonTruth comparison column operand .null = .unknown := by
  unfold comparisonTruth
  split
  · exact absurd rfl given
  · exact absurd rfl given
  · rfl

theorem eval_member_null (negated : Bool) (column : ColumnRef) (values : List Value) :
    (member negated column values).eval (fun _ => .null) =
      (member negated column values).verdict := by
  cases values with
  | nil => cases negated <;> rfl
  | cons value rest =>
      rw [eval, memberTruth_null column (List.cons_ne_nil value rest)]
      cases negated <;> rfl

/-- A row without values leaves everything unknown that a row decides, unless null is asked for. -/
theorem eval_null {clause : Clause} (given : ∀ operand ∈ clause.operands, operand ≠ .null) :
    clause.eval (fun _ => .null) = clause.verdict := by
  induction clause with
  | constant b | settled b => rfl
  | compare comparison column operand =>
      exact comparisonTruth_null comparison column (given operand List.mem_cons_self)
  | member negated column values => exact eval_member_null negated column values
  | both left right leftSame rightSame | either left right leftSame rightSame =>
      rw [operands, parameters, List.map_append] at given
      obtain ⟨leftGiven, rightGiven⟩ := List.forall_mem_append.mp given
      rw [eval, verdict, leftSame leftGiven, rightSame rightGiven]
  | group inner same => exact same given
  | negation restores inner same => rw [eval, verdict, same given]

/-- A clause has its verdict, if it has one, on every row. -/
theorem settles_eval (clause : Clause) (cellOf : ColumnRef → Cell) :
    Truth.Settles clause.verdict (clause.eval cellOf) := by
  induction clause with
  | constant b | settled b => exact .inr rfl
  | compare comparison column operand => exact .inl rfl
  | member negated column values =>
      cases values with
      | nil => cases negated <;> exact .inr rfl
      | cons value rest => exact .inl rfl
  | both left right leftSettles rightSettles => exact leftSettles.and rightSettles
  | either left right leftSettles rightSettles => exact leftSettles.or rightSettles
  | group inner settles => exact settles
  | negation restores inner settles => exact settles.not

/-- What tests no column has a verdict. -/
theorem verdict_ne_unknown {clause : Clause} (untested : clause.columns = []) :
    clause.verdict ≠ .unknown := by
  induction clause with
  | constant b | settled b => cases b <;> rintro ⟨⟩
  | compare comparison column operand | member negated column values => cases untested
  | both left right leftDecided rightDecided =>
      obtain ⟨left, right⟩ := List.append_eq_nil_iff.mp untested
      exact Truth.and_ne_unknown (leftDecided left) (rightDecided right)
  | either left right leftDecided rightDecided =>
      obtain ⟨left, right⟩ := List.append_eq_nil_iff.mp untested
      exact Truth.or_ne_unknown (leftDecided left) (rightDecided right)
  | group inner decided => exact decided untested
  | negation restores inner decided => exact Truth.not_ne_unknown (decided untested)

section Combining

theorem verdict_mapOperands (f : Value → Value) (clause : Clause) :
    (clause.mapOperands f).verdict = clause.verdict := by
  induction clause with
  | constant | settled | compare => rfl
  | member negated column values => cases values <;> rfl
  | both left right leftSame rightSame | either left right leftSame rightSame =>
      rw [mapOperands, verdict, verdict, leftSame, rightSame]
  | group inner same => exact same
  | negation restores inner same => exact congrArg Truth.not same

/-- Put zero in the places of the operands. -/
def blank (clause : Clause) : Clause :=
  clause.mapOperands fun _ => .int 0

/-- The verdict is the value on a row without values once no operand is null. -/
theorem verdict_eq_eval (clause : Clause) : clause.verdict = clause.blank.eval fun _ => .null := by
  have given : ∀ operand ∈ clause.blank.operands, operand ≠ .null := by
    rw [blank, operands_mapOperands, List.forall_mem_map]
    rintro _ - ⟨⟩
  rw [eval_null given, blank, verdict_mapOperands]

theorem map_verdict (clauses : List Clause) :
    clauses.map verdict = (clauses.map blank).map (eval fun _ => .null) := by
  rw [List.map_map]
  exact List.map_congr_left fun clause _ => clause.verdict_eq_eval

theorem verdict_conjoin (clauses : List Clause) :
    (conjoin clauses).verdict = Truth.all (clauses.map verdict) := by
  rw [verdict_eq_eval, blank, ← mapOperands_conjoin, eval_conjoin, map_verdict]
  rfl

theorem verdict_disjoin (clauses : List Clause) :
    (disjoin clauses).verdict = Truth.any (clauses.map verdict) := by
  rw [verdict_eq_eval, blank, ← mapOperands_disjoin, eval_disjoin, map_verdict]
  rfl

theorem verdict_negate (clause : Clause) : clause.negate.verdict = clause.verdict.not := by
  rw [verdict_eq_eval, blank, ← mapOperands_negate, eval_negate, verdict_eq_eval]
  rfl

end Combining

end Clause

theorem ColumnTest.verdict_clauses (column : ColumnRef) (test : ColumnTest) :
    Truth.all ((test.clauses column).map Clause.verdict) = test.verdict := by
  cases test with
  | equals operand => rfl
  | among values => cases values <;> rfl
  | comparisons tests =>
      cases tests with
      | nil => rfl
      | cons first rest =>
          rw [clauses, List.map_map]
          exact Truth.all_map_unknown (List.cons_ne_nil first rest)

theorem ColumnTest.verdict_negated (column : ColumnRef) (test : ColumnTest) :
    Truth.all (((test.clauses column).map Clause.negate).map Clause.verdict) =
      test.negatedVerdict := by
  cases test with
  | equals operand => rfl
  | among values => cases values <;> rfl
  | comparisons tests =>
      cases tests with
      | nil => rfl
      | cons first rest =>
          rw [clauses, List.map_map, List.map_map]
          exact Truth.all_map_unknown (List.cons_ne_nil first rest)

namespace Filter

mutual

/-- The verdict of a filter is that of its clause. -/
theorem verdict_clause (filter : Filter) : filter.clause.verdict = filter.verdict := by
  cases filter with
  | ofEntries entries => rw [clause, Clause.verdict_conjoin, (verdict_clauses entries).1, verdict]

theorem verdict_clauses (entries : List FilterEntry) :
    (FilterEntry.clauses entries).map Clause.verdict = FilterEntry.verdicts entries ∧
      Truth.all ((FilterEntry.negatedList entries).map Clause.verdict) =
        Truth.all (FilterEntry.negatedVerdicts entries) := by
  cases entries with
  | nil => exact ⟨rfl, rfl⟩
  | cons entry rest =>
      obtain ⟨positive, negative⟩ := verdict_entry entry
      obtain ⟨others, negatedOthers⟩ := verdict_clauses rest
      constructor
      · rw [FilterEntry.clauses, FilterEntry.verdicts, List.map_cons, positive, others]
      · rw [negatedList_cons, FilterEntry.negatedVerdicts, List.map_append, Truth.all_append,
          negative, negatedOthers, Truth.all_cons]

theorem verdict_entry (entry : FilterEntry) :
    entry.clause.verdict = entry.verdict ∧
      Truth.all ((FilterEntry.negatedList [entry]).map Clause.verdict) =
        entry.negatedVerdict := by
  have single (clause : Clause) :
      Truth.all ([clause.negate].map Clause.verdict) = clause.verdict.not := by
    rw [List.map_singleton, Clause.verdict_negate, Truth.all_cons, Truth.all_nil, Truth.and_yes]
  cases entry with
  | all branches =>
      have whole : (Clause.conjoin (clauseList branches)).verdict =
          Truth.all (verdicts branches) := by
        rw [Clause.verdict_conjoin, (verdict_branches branches).1]
      exact ⟨whole, (single _).trans (congrArg Truth.not whole)⟩
  | any branches =>
      have whole : (Clause.disjoin (clauseList branches)).verdict =
          Truth.any (verdicts branches) := by
        rw [Clause.verdict_disjoin, (verdict_branches branches).1]
      exact ⟨whole, (single _).trans (congrArg Truth.not whole)⟩
  | none branches =>
      have whole : (Clause.conjoin (negatedList branches)).verdict =
          Truth.all (negatedVerdicts branches) := by
        rw [Clause.verdict_conjoin, (verdict_branches branches).2]
      exact ⟨whole, (single _).trans (congrArg Truth.not whole)⟩
  | test column test =>
      constructor
      · exact (Clause.verdict_conjoin _).trans (test.verdict_clauses column)
      · rw [FilterEntry.negatedList, FilterEntry.negatedList, List.append_nil]
        exact test.verdict_negated column

theorem verdict_branches (branches : List Filter) :
    (clauseList branches).map Clause.verdict = verdicts branches ∧
      (negatedList branches).map Clause.verdict = negatedVerdicts branches := by
  cases branches with
  | nil => exact ⟨rfl, rfl⟩
  | cons filter rest =>
      obtain ⟨others, negatedOthers⟩ := verdict_branches rest
      have first := verdict_clause filter
      cases filter with
      | ofEntries entries =>
          constructor
          · rw [clauseList, verdicts, List.map_cons, first, others]
          · rw [negatedList, negatedVerdicts, List.map_cons, Clause.verdict_conjoin,
              (verdict_clauses entries).2, negatedOthers]

end

end Filter
end SchemaStore
