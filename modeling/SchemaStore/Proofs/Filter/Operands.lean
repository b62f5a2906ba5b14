import Mathlib.Data.List.Forall2
import SchemaStore.Proofs.Clause.Bound
import SchemaStore.Proofs.Filter.Meaning

/-!
# Operands of filters

A mapping tests fields against values, at any depth.  `Filter.fieldTests` lists these
tests as the mapping has them and `Filter.tests` as they were read; the two lists agree
one by one.  A clause binds no parameter that is not one of a test of its filter,
whichever of them its constants have made superfluous.
-/

namespace SchemaStore

/-- The values that a column is tested against. -/
def ColumnTest.operands : ColumnTest → List Value
  | .equals operand => [operand]
  | .among values => values
  | .comparisons tests => tests.map (·.2)

/-- The parameters of the test of a column. -/
def ColumnTest.parameters (column : ColumnRef) : ColumnTest → List Parameter
  | .equals operand => [.operand column operand]
  | .among values => Parameter.operands column values
  | .comparisons tests => tests.map fun (_, operand) => .operand column operand

mutual

/-- The columns that a filter tests, with their tests, as they are read. -/
def Filter.tests : Filter → List (ColumnRef × ColumnTest)
  | .ofEntries entries => FilterEntry.testsOfAll entries

def FilterEntry.tests : FilterEntry → List (ColumnRef × ColumnTest)
  | .all branches | .any branches | .none branches => Filter.testsOfAll branches
  | .test column test => [(column, test)]

def FilterEntry.testsOfAll : List FilterEntry → List (ColumnRef × ColumnTest)
  | [] => []
  | entry :: rest => entry.tests ++ FilterEntry.testsOfAll rest

def Filter.testsOfAll : List Filter → List (ColumnRef × ColumnTest)
  | [] => []
  | filter :: rest => filter.tests ++ Filter.testsOfAll rest

end

theorem ColumnTest.map_value_parameters (column : ColumnRef) (test : ColumnTest) :
    (test.parameters column).map Parameter.value = test.operands := by
  cases test <;>
    simp [parameters, operands, Parameter.operand, Parameter.operands, Function.comp_def]

namespace Filter

/-- The values that the columns of a filter are tested against. -/
def operands (filter : Filter) : List Value :=
  filter.tests.flatMap (·.2.operands)

/-- The parameters of several tests. -/
def parametersOfTests (tests : List (ColumnRef × ColumnTest)) : List Parameter :=
  tests.flatMap fun (column, test) => test.parameters column

def parameters (filter : Filter) : List Parameter :=
  parametersOfTests filter.tests

theorem parametersOfTests_append (first second : List (ColumnRef × ColumnTest)) :
    parametersOfTests (first ++ second) =
      parametersOfTests first ++ parametersOfTests second :=
  List.flatMap_append

theorem map_value_parameters (filter : Filter) :
    filter.parameters.map Parameter.value = filter.operands := by
  simp [parameters, parametersOfTests, operands, List.map_flatMap,
    ColumnTest.map_value_parameters]

theorem parameters_negated (filter : Filter) :
    (ofEntries [.none [filter]]).parameters = filter.parameters := by
  simp [parameters, tests, FilterEntry.testsOfAll, FilterEntry.tests, testsOfAll]

section Given

mutual

/-- The fields that a mapping tests, with what it says of them, in the order of the mapping. -/
def fieldTests : Value → List (String × Value)
  | .object entries => fieldTestsOfEntries entries
  | _ => []

def fieldTestsOfEntries : List (String × Value) → List (String × Value)
  | [] => []
  | (key, value) :: rest => fieldTestsOfEntry key value ++ fieldTestsOfEntries rest

def fieldTestsOfEntry (key : String) : Value → List (String × Value)
  | .object entries =>
      if isCombinator key then fieldTestsOfEntries entries else [(key, .object entries)]
  | .sequence kind items =>
      if isCombinator key then fieldTestsOfBranches items else [(key, .sequence kind items)]
  | .scalar s => [(key, .scalar s)]

def fieldTestsOfBranches : List Value → List (String × Value)
  | [] => []
  | branch :: rest => fieldTests branch ++ fieldTestsOfBranches rest

end

/-- The values in what a mapping says of a field: those of an operator object, those of a list,
or the single one. -/
def operandsOf : Value → List Value
  | .object operators => operators.map (·.2)
  | .sequence _ values => values
  | .scalar s => [.scalar s]

/-- The values that a mapping tests fields against, in the order of the mapping. -/
def leaves (value : Value) : List Value :=
  (fieldTests value).flatMap (operandsOf ·.2)

/-- The parameters of what a mapping says of a column. -/
def parametersOf (column : ColumnRef) : Value → List Parameter
  | .object operators => operators.map fun (_, operand) => .operand column operand
  | .sequence _ values => Parameter.operands column values
  | .scalar s => [.operand column (.scalar s)]

end Given

variable {table : Table}

/-- A test is what was said of a field, read for its column. -/
def Reads (table : Table) (said : String × Value) (read : ColumnRef × ColumnTest) : Prop :=
  table.ref? said.1 = some read.1 ∧ readTest said.2 = .ok read.2

theorem readColumn_eq_ok {key : String} {column : ColumnRef} :
    readColumn table key = .ok column ↔ table.ref? key = some column := by
  unfold readColumn
  cases table.ref? key <;> simp

theorem readEntry_field {key : String} (field : isCombinator key = false)
    (value : Value) :
    readEntry table key value = (do
      let column ← readColumn table key
      return FilterEntry.test column (← readTest value)) := by
  simp only [isCombinator, Bool.or_eq_false_iff, beq_eq_false_iff_ne] at field
  obtain ⟨⟨notAnd, notOr⟩, notNot⟩ := field
  cases value with
  | scalar s => simp [readEntry, notAnd, notOr, notNot]
  | sequence kind items => unfold readEntry; split <;> first | contradiction | rfl
  | object entries => unfold readEntry; split <;> first | contradiction | rfl

theorem reads_of_test {key : String} {value : Value} {entry : FilterEntry}
    (accepted : (do
      let column ← readColumn table key
      return FilterEntry.test column (← readTest value)) = .ok entry) :
    List.Forall₂ (Reads table) [(key, value)] entry.tests := by
  obtain ⟨column, columnFound, testRead⟩ := Except.bind_eq_ok.mp accepted
  obtain ⟨test, testAccepted, rfl⟩ := Except.map_eq_ok.mp testRead
  exact .cons ⟨readColumn_eq_ok.mp columnFound, testAccepted⟩ .nil

/-- The branches of a mapping under `OR` test what its entries test. -/
theorem testsOfAll_singletons (entries : List FilterEntry) :
    testsOfAll (entries.map fun entry => .ofEntries [entry]) =
      FilterEntry.testsOfAll entries := by
  induction entries with
  | nil => rfl
  | cons entry rest induction =>
      simp [testsOfAll, FilterEntry.testsOfAll, tests, induction]

mutual

/-- The tests of a filter are those of the mapping that it was read from. -/
theorem reads_tests {value : Value} {filter : Filter} (accepted : read table value = .ok filter) :
    List.Forall₂ (Reads table) (fieldTests value) filter.tests := by
  cases value with
  | object entries =>
      rw [read] at accepted
      obtain ⟨entriesRead, entriesAccepted, rfl⟩ := Except.map_eq_ok.mp accepted
      simpa [fieldTests, tests] using reads_testsOfEntries entriesAccepted
  | scalar s => rw [read] at accepted; cases accepted
  | sequence kind items => rw [read] at accepted; cases accepted

theorem reads_testsOfEntries {entries : List (String × Value)} {entriesRead : List FilterEntry}
    (accepted : readEntries table entries = .ok entriesRead) :
    List.Forall₂ (Reads table) (fieldTestsOfEntries entries)
      (FilterEntry.testsOfAll entriesRead) := by
  cases entries with
  | nil =>
      rw [readEntries] at accepted
      cases accepted
      simp [fieldTestsOfEntries, FilterEntry.testsOfAll]
  | cons head rest =>
      obtain ⟨key, value⟩ := head
      rw [readEntries] at accepted
      obtain ⟨entry, entryAccepted, restRead⟩ := Except.bind_eq_ok.mp accepted
      obtain ⟨others, othersAccepted, rfl⟩ := Except.map_eq_ok.mp restRead
      rw [fieldTestsOfEntries, FilterEntry.testsOfAll]
      exact List.rel_append (reads_testsOfEntry entryAccepted) (reads_testsOfEntries othersAccepted)

theorem reads_testsOfEntry {key : String} {value : Value} {entry : FilterEntry}
    (accepted : readEntry table key value = .ok entry) :
    List.Forall₂ (Reads table) (fieldTestsOfEntry key value) entry.tests := by
  cases value with
  | object entries =>
      unfold readEntry at accepted
      split at accepted
      · obtain ⟨read, readAccepted, rfl⟩ := Except.map_eq_ok.mp accepted
        simpa [fieldTestsOfEntry, isCombinator, FilterEntry.tests, testsOfAll, tests]
          using reads_testsOfEntries readAccepted
      · obtain ⟨read, readAccepted, rfl⟩ := Except.map_eq_ok.mp accepted
        simpa [fieldTestsOfEntry, isCombinator, FilterEntry.tests, testsOfAll_singletons]
          using reads_testsOfEntries readAccepted
      · obtain ⟨read, readAccepted, rfl⟩ := Except.map_eq_ok.mp accepted
        simpa [fieldTestsOfEntry, isCombinator, FilterEntry.tests, testsOfAll, tests]
          using reads_testsOfEntries readAccepted
      · next notAnd notOr notNot =>
        have field : isCombinator key = false := by
          simpa [isCombinator] using And.intro (And.intro notAnd notOr) notNot
        simpa [fieldTestsOfEntry, field] using reads_of_test accepted
  | sequence kind items =>
      unfold readEntry at accepted
      split at accepted
      · obtain ⟨branches, branchesAccepted, rfl⟩ := Except.map_eq_ok.mp accepted
        simpa [fieldTestsOfEntry, isCombinator, FilterEntry.tests]
          using reads_testsOfBranches (readAll_of_readBranches branchesAccepted)
      · obtain ⟨branches, branchesAccepted, rfl⟩ := Except.map_eq_ok.mp accepted
        simpa [fieldTestsOfEntry, isCombinator, FilterEntry.tests]
          using reads_testsOfBranches (readAll_of_readBranches branchesAccepted)
      · obtain ⟨branches, branchesAccepted, rfl⟩ := Except.map_eq_ok.mp accepted
        simpa [fieldTestsOfEntry, isCombinator, FilterEntry.tests]
          using reads_testsOfBranches (readAll_of_readBranches branchesAccepted)
      · next notAnd notOr notNot =>
        have field : isCombinator key = false := by
          simpa [isCombinator] using And.intro (And.intro notAnd notOr) notNot
        simpa [fieldTestsOfEntry, field] using reads_of_test accepted
  | scalar s =>
      rw [readEntry] at accepted
      split at accepted
      · cases accepted
      · rw [fieldTestsOfEntry]
        exact reads_of_test accepted

theorem reads_testsOfBranches {items : List Value} {filters : List Filter}
    (accepted : readAll table items = .ok filters) :
    List.Forall₂ (Reads table) (fieldTestsOfBranches items) (testsOfAll filters) := by
  cases items with
  | nil =>
      rw [readAll] at accepted
      cases accepted
      simp [fieldTestsOfBranches, testsOfAll]
  | cons item rest =>
      rw [readAll] at accepted
      obtain ⟨filter, filterAccepted, restRead⟩ := Except.bind_eq_ok.mp accepted
      obtain ⟨others, othersAccepted, rfl⟩ := Except.map_eq_ok.mp restRead
      rw [fieldTestsOfBranches, testsOfAll]
      exact List.rel_append (reads_tests filterAccepted) (reads_testsOfBranches othersAccepted)

end

theorem operands_of_readComparisons {operators : List (String × Value)}
    {tests : List (Comparison × Value)} (accepted : readComparisons operators = .ok tests) :
    tests.map (·.2) = operators.map (·.2) := by
  induction operators generalizing tests with
  | nil =>
      cases accepted
      rfl
  | cons operator rest induction =>
      obtain ⟨name, operand⟩ := operator
      rw [readComparisons] at accepted
      split at accepted
      · cases accepted
      · split at accepted
        · cases accepted
        · obtain ⟨tail, tailAccepted, rfl⟩ := Except.map_eq_ok.mp accepted
          rw [List.map_cons, List.map_cons, induction tailAccepted]

theorem parameters_of_readTest {value : Value} {test : ColumnTest}
    (accepted : readTest value = .ok test) (column : ColumnRef) :
    test.parameters column = parametersOf column value := by
  cases value with
  | object operators =>
      obtain ⟨tests, testsAccepted, rfl⟩ := Except.map_eq_ok.mp accepted
      have same := congrArg (List.map (Parameter.operand column))
        (operands_of_readComparisons testsAccepted)
      rw [List.map_map, List.map_map] at same
      exact same
  | sequence kind values => cases accepted; rfl
  | scalar s => cases accepted; rfl

theorem operands_of_readTest {value : Value} {test : ColumnTest}
    (accepted : readTest value = .ok test) : test.operands = operandsOf value := by
  cases value with
  | object operators =>
      obtain ⟨tests, testsAccepted, rfl⟩ := Except.map_eq_ok.mp accepted
      exact operands_of_readComparisons testsAccepted
  | sequence kind values => cases accepted; rfl
  | scalar s => cases accepted; rfl

/-- The operands of a filter are the leaves of the mapping that it was read from. -/
theorem operands_eq_leaves {value : Value} {filter : Filter}
    (accepted : read table value = .ok filter) : filter.operands = leaves value := by
  have sameOperands {said : List (String × Value)} {tests : List (ColumnRef × ColumnTest)}
      (reads : List.Forall₂ (Reads table) said tests) :
      tests.flatMap (·.2.operands) = said.flatMap (operandsOf ·.2) := by
    induction reads with
    | nil => rfl
    | cons read _ induction =>
        rw [List.flatMap_cons, List.flatMap_cons, induction, operands_of_readTest read.2]
  exact sameOperands (reads_tests accepted)

end Filter

theorem ColumnTest.parameters_clauses (column : ColumnRef) (test : ColumnTest) :
    (test.clauses column).flatMap Clause.parameters = test.parameters column := by
  cases test with
  | equals operand => rfl
  | among values => exact List.flatMap_singleton _ _
  | comparisons tests =>
      rw [ColumnTest.clauses, List.flatMap_map]
      exact List.map_eq_flatMap.symm

namespace Filter

theorem parameters_negated_test (column : ColumnRef) (test : ColumnTest) :
    ((test.clauses column).map Clause.negate).flatMap Clause.parameters =
      test.parameters column := by
  rw [List.flatMap_map, ← ColumnTest.parameters_clauses]
  simp only [Clause.parameters_negate]

/-- Clauses that bind no other parameters than tests have. -/
def Within (clauses : List Clause) (tests : List (ColumnRef × ColumnTest)) : Prop :=
  clauses.flatMap Clause.parameters ⊆ parametersOfTests tests

theorem Within.conjoin {clauses : List Clause} {tests : List (ColumnRef × ColumnTest)}
    (within : Within clauses tests) : Within [Clause.conjoin clauses] tests := by
  have bound := List.Subset.trans (Clause.openParameters_subset false clauses) within
  simpa [Within, Clause.parameters_conjoin] using bound

theorem Within.disjoin {clauses : List Clause} {tests : List (ColumnRef × ColumnTest)}
    (within : Within clauses tests) : Within [Clause.disjoin clauses] tests := by
  have bound := List.Subset.trans (Clause.openParameters_subset true clauses) within
  simpa [Within, Clause.parameters_disjoin] using bound

theorem Within.negate {clause : Clause} {tests : List (ColumnRef × ColumnTest)}
    (within : Within [clause] tests) : Within [clause.negate] tests := by
  simpa [Within, Clause.parameters_negate] using within

theorem Within.append {clauses others : List Clause} {tests rest : List (ColumnRef × ColumnTest)}
    (within : Within clauses tests) (othersWithin : Within others rest) :
    Within (clauses ++ others) (tests ++ rest) := by
  unfold Within
  rw [List.flatMap_append, parametersOfTests_append]
  exact List.append_subset.mpr ⟨List.subset_append_of_subset_left _ within,
    List.subset_append_of_subset_right _ othersWithin⟩

mutual

/-- The clause of a filter and that of its negation bind parameters of its tests only. -/
theorem within_clause (filter : Filter) :
    Within [filter.clause] filter.tests ∧ Within (negatedList [filter]) filter.tests := by
  cases filter with
  | ofEntries entries =>
      obtain ⟨positive, negative⟩ := within_clauses entries
      rw [clause, negatedList, negatedList, tests]
      exact ⟨positive.conjoin, negative.conjoin⟩

theorem within_clauses (entries : List FilterEntry) :
    Within (FilterEntry.clauses entries) (FilterEntry.testsOfAll entries) ∧
      Within (FilterEntry.negatedList entries) (FilterEntry.testsOfAll entries) := by
  cases entries with
  | nil => exact ⟨List.nil_subset _, List.nil_subset _⟩
  | cons entry rest =>
      obtain ⟨positive, negative⟩ := within_entry entry
      obtain ⟨others, negatedOthers⟩ := within_clauses rest
      rw [FilterEntry.clauses, FilterEntry.testsOfAll, negatedList_cons]
      exact ⟨positive.append others, negative.append negatedOthers⟩

theorem within_entry (entry : FilterEntry) :
    Within [entry.clause] entry.tests ∧
      Within (FilterEntry.negatedList [entry]) entry.tests := by
  cases entry with
  | all branches =>
      have whole := (within_branches branches).1.conjoin
      exact ⟨whole, whole.negate⟩
  | any branches =>
      have whole := (within_branches branches).1.disjoin
      exact ⟨whole, whole.negate⟩
  | none branches =>
      have whole := (within_branches branches).2.conjoin
      exact ⟨whole, whole.negate⟩
  | test column test =>
      constructor
      · apply Within.conjoin
        simp [Within, FilterEntry.tests, parametersOfTests, ColumnTest.parameters_clauses]
      · simp [Within, FilterEntry.negatedList, FilterEntry.tests, parametersOfTests,
          parameters_negated_test]

theorem within_branches (branches : List Filter) :
    Within (clauseList branches) (testsOfAll branches) ∧
      Within (negatedList branches) (testsOfAll branches) := by
  cases branches with
  | nil => exact ⟨List.nil_subset _, List.nil_subset _⟩
  | cons filter rest =>
      obtain ⟨positive, negative⟩ := within_clause filter
      obtain ⟨others, negatedOthers⟩ := within_branches rest
      cases filter with
      | ofEntries entries =>
          exact ⟨positive.append others, negative.append negatedOthers⟩

end

/-- A clause binds no parameter that is not one of a test of its filter. -/
theorem parameters_clause (filter : Filter) : filter.clause.parameters ⊆ filter.parameters := by
  simpa [Within, parameters] using (within_clause filter).1

end Filter
end SchemaStore
