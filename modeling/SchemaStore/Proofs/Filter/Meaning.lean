import SchemaStore.Filter.Compile
import SchemaStore.Proofs.Clause.Evaluation
import SchemaStore.Proofs.Outcome

/-!
# What filters mean

`Filter.meaning` gives the truth value of a mapping on a row without building a
clause.  The entries of a mapping all have to hold.  Under `NOT` every entry of
a mapping, and every comparison of an entry, has to fail by itself; only a
combinator fails as a whole.  `Filter.eval_compile` says that the clause of an
accepted mapping has this value on every row, whatever cells are missing.
-/

namespace SchemaStore

namespace Filter

def isCombinator (key : String) : Bool :=
  key == "AND" || key == "OR" || key == "NOT"

section

variable (table : Table) (cellOf : ColumnRef → Cell)

/-- The truth values of the comparisons in an operator object. -/
def comparisonMeanings (column : ColumnRef) (operators : List (String × Value)) : List Truth :=
  operators.map fun (name, operand) =>
    match comparisonNames.lookup name with
    | some comparison =>
        Clause.comparisonTruth comparison column operand (cellOf column)
    | none => .unknown

/-- The truth value of the test of a column: comparisons that all have to hold, membership in
a list, or equality with a single value. -/
def testMeaning (column : ColumnRef) : Value → Truth
  | .object operators => Truth.all (comparisonMeanings cellOf column operators)
  | .sequence _ values => Clause.memberTruth column values (cellOf column)
  | operand => Clause.comparisonTruth .equal column operand (cellOf column)

/-- The truth value of the negated test of a column: comparisons that all have to fail, absence
from a list, or inequality with a single value. -/
def negatedTestMeaning (column : ColumnRef) : Value → Truth
  | .object operators =>
      Truth.all ((comparisonMeanings cellOf column operators).map Truth.not)
  | .sequence _ values => (Clause.memberTruth column values (cellOf column)).not
  | operand => Clause.comparisonTruth .notEqual column operand (cellOf column)

def columnMeaning (name : String) (said : ColumnRef → Truth) : Truth :=
  match table.ref? name with
  | some column => said column
  | none => .unknown

mutual

/-- The truth value of a mapping: all of its entries hold. -/
def meaning : Value → Truth
  | .object entries => Truth.all (entryMeanings entries)
  | _ => .unknown

def entryMeanings : List (String × Value) → List Truth
  | [] => []
  | (key, value) :: rest => entryMeaning key value :: entryMeanings rest

def entryMeaning (key : String) : Value → Truth
  | .object entries =>
      match key with
      | "AND" => Truth.all (entryMeanings entries)
      | "OR" => Truth.any (entryMeanings entries)
      | "NOT" => Truth.all (negatedEntryMeanings entries)
      | _ => columnMeaning table key fun column =>
          testMeaning cellOf column (.object entries)
  | .sequence kind items =>
      match key with
      | "AND" => Truth.all (branchMeanings items)
      | "OR" => Truth.any (branchMeanings items)
      | "NOT" => Truth.all (negatedBranchMeanings items)
      | _ => columnMeaning table key fun column =>
          testMeaning cellOf column (.sequence kind items)
  | .scalar s =>
      columnMeaning table key fun column => testMeaning cellOf column (.scalar s)

def branchMeanings : List Value → List Truth
  | [] => []
  | branch :: rest => meaning branch :: branchMeanings rest

/-- The truth values of several mappings under `NOT`. -/
def negatedBranchMeanings : List Value → List Truth
  | [] => []
  | branch :: rest => negatedMeaning branch :: negatedBranchMeanings rest

/-- The truth value of a mapping under `NOT`: each of its entries fails. -/
def negatedMeaning : Value → Truth
  | .object entries => Truth.all (negatedEntryMeanings entries)
  | _ => .unknown

def negatedEntryMeanings : List (String × Value) → List Truth
  | [] => []
  | (key, value) :: rest =>
      (if isCombinator key then (entryMeaning key value).not
        else columnMeaning table key fun column =>
          negatedTestMeaning cellOf column value) :: negatedEntryMeanings rest

end

end

variable {table : Table} {cellOf : ColumnRef → Cell}

/-- The comparisons that were read have the meanings of the operators. -/
theorem map_eval_comparisons {column : ColumnRef} {operators : List (String × Value)}
    {tests : List (Comparison × Value)}
    (accepted : readComparisons operators = .ok tests) :
    ((ColumnTest.comparisons tests).clauses column).map (Clause.eval cellOf) =
      comparisonMeanings cellOf column operators := by
  induction operators generalizing tests with
  | nil =>
      cases accepted
      rfl
  | cons operator rest induction =>
      obtain ⟨name, operand⟩ := operator
      rw [readComparisons] at accepted
      cases known : comparisonNames.lookup name with
      | none => simp [known] at accepted
      | some comparison =>
          simp only [known] at accepted
          split at accepted
          · cases accepted
          · obtain ⟨tail, tailAccepted, rfl⟩ := Except.map_eq_ok.mp accepted
            have others := induction tailAccepted
            simp only [ColumnTest.clauses, comparisonMeanings, List.map_map,
              List.map_cons, known] at others ⊢
            rw [others]
            rfl

/-- The clauses of a test hold together when the test does, and fail one by one when the
negated test holds. -/
theorem eval_test (cellOf : ColumnRef → Cell) (column : ColumnRef) {value : Value}
    {test : ColumnTest} (accepted : readTest value = .ok test) :
    Truth.all ((test.clauses column).map (Clause.eval cellOf)) =
        testMeaning cellOf column value ∧
      Truth.all (((test.clauses column).map Clause.negate).map (Clause.eval cellOf)) =
        negatedTestMeaning cellOf column value := by
  have negated (clauses : List Clause) :
      (clauses.map Clause.negate).map (Clause.eval cellOf) =
        (clauses.map (Clause.eval cellOf)).map Truth.not := by
    simp [Function.comp_def, Clause.eval_negate]
  cases value with
  | object operators =>
      obtain ⟨tests, testsAccepted, rfl⟩ := Except.map_eq_ok.mp accepted
      rw [negated, map_eval_comparisons testsAccepted]
      exact ⟨rfl, rfl⟩
  | sequence kind values =>
      cases accepted
      simp [ColumnTest.clauses, Clause.negate, Clause.eval, testMeaning, negatedTestMeaning]
  | scalar s =>
      cases accepted
      simp [ColumnTest.clauses, Clause.negate, Clause.eval, Comparison.inverse, testMeaning,
        negatedTestMeaning]

/-- A mapping under `OR` has one branch for each of its entries. -/
theorem clauseList_singletons (entries : List FilterEntry) :
    clauseList (entries.map fun entry => .ofEntries [entry]) =
      FilterEntry.clauses entries := by
  induction entries with
  | nil => rfl
  | cons entry rest induction =>
      simp only [List.map_cons, clauseList, FilterEntry.clauses, induction]
      rfl

theorem negatedList_cons (entry : FilterEntry) (rest : List FilterEntry) :
    FilterEntry.negatedList (entry :: rest) =
      FilterEntry.negatedList [entry] ++ FilterEntry.negatedList rest := by
  cases entry <;> simp [FilterEntry.negatedList]

/-- The value of an entry, and of its negation. -/
def EntryAgrees (table : Table) (cellOf : ColumnRef → Cell) (key : String) (value : Value)
    (entry : FilterEntry) : Prop :=
  entry.clause.eval cellOf = entryMeaning table cellOf key value ∧
    Truth.all ((FilterEntry.negatedList [entry]).map (Clause.eval cellOf)) =
      Truth.all (negatedEntryMeanings table cellOf [(key, value)])

/-- An entry that tests a column agrees with the test of the column. -/
theorem entryAgrees_test {key : String} {value : Value} {entry : FilterEntry}
    (notCombinator : isCombinator key = false)
    (accepted : (do
      let column ← readColumn table key
      return FilterEntry.test column (← readTest value)) = .ok entry)
    (reads : entryMeaning table cellOf key value =
      columnMeaning table key fun column => testMeaning cellOf column value) :
    EntryAgrees table cellOf key value entry := by
  obtain ⟨column, columnFound, testRead⟩ := Except.bind_eq_ok.mp accepted
  obtain ⟨test, testAccepted, rfl⟩ := Except.map_eq_ok.mp testRead
  have found : table.ref? key = some column := by
    unfold readColumn at columnFound
    split at columnFound
    · next known => cases columnFound; exact known
    · cases columnFound
  obtain ⟨positive, negative⟩ := eval_test cellOf column testAccepted
  constructor
  · rw [FilterEntry.clause, Clause.eval_conjoin, positive, reads]
    simp [columnMeaning, found]
  · simp only [FilterEntry.negatedList, List.append_nil, negative, negatedEntryMeanings,
      notCombinator, columnMeaning, found]
    simp

/-- A combinator is negated as a whole, so that only its own value has to agree. -/
theorem entryAgrees_combinator {key : String} {value : Value} {entry : FilterEntry}
    (combinator : isCombinator key = true)
    (whole : FilterEntry.negatedList [entry] = [entry.clause.negate])
    (agrees : entry.clause.eval cellOf = entryMeaning table cellOf key value) :
    EntryAgrees table cellOf key value entry := by
  refine ⟨agrees, ?_⟩
  rw [whole]
  simp [negatedEntryMeanings, combinator, Clause.eval_negate, agrees]

theorem readAll_of_readBranches {key : String} {items : List Value} {filters : List Filter}
    (accepted : readBranches table key items = .ok filters) :
    readAll table items = .ok filters := by
  rw [readBranches] at accepted
  split at accepted
  · exact accepted
  · cases accepted

mutual

/-- The clause of a mapping that was read has the value of the mapping, and so have the
clauses of its negated entries. -/
theorem eval_clause_of_read {value : Value} {filter : Filter}
    (accepted : read table value = .ok filter) :
    filter.clause.eval cellOf = meaning table cellOf value ∧
      Truth.all ((negatedList [filter]).map (Clause.eval cellOf)) =
        negatedMeaning table cellOf value := by
  cases value with
  | object entries =>
      rw [read] at accepted
      obtain ⟨entriesRead, entriesAccepted, rfl⟩ := Except.map_eq_ok.mp accepted
      obtain ⟨positive, negative⟩ := eval_clauses_of_readEntries entriesAccepted
      constructor
      · rw [clause, Clause.eval_conjoin, positive, meaning]
      · simp [negatedList, Clause.eval_conjoin, negative, negatedMeaning]
  | scalar s => rw [read] at accepted; cases accepted
  | sequence kind items => rw [read] at accepted; cases accepted

/-- The entries counterpart of `eval_clause_of_read`. -/
theorem eval_clauses_of_readEntries {entries : List (String × Value)}
    {entriesRead : List FilterEntry}
    (accepted : readEntries table entries = .ok entriesRead) :
    (FilterEntry.clauses entriesRead).map (Clause.eval cellOf) =
        entryMeanings table cellOf entries ∧
      Truth.all ((FilterEntry.negatedList entriesRead).map (Clause.eval cellOf)) =
        Truth.all (negatedEntryMeanings table cellOf entries) := by
  cases entries with
  | nil =>
      rw [readEntries] at accepted
      cases accepted
      exact ⟨rfl, rfl⟩
  | cons head rest =>
      obtain ⟨key, value⟩ := head
      rw [readEntries] at accepted
      obtain ⟨entry, entryAccepted, restRead⟩ := Except.bind_eq_ok.mp accepted
      obtain ⟨others, othersAccepted, rfl⟩ := Except.map_eq_ok.mp restRead
      obtain ⟨entryPositive, entryNegative⟩ := entryAgrees_of_readEntry entryAccepted
      obtain ⟨positive, negative⟩ := eval_clauses_of_readEntries othersAccepted
      constructor
      · simp [FilterEntry.clauses, entryMeanings, entryPositive, positive]
      · rw [negatedList_cons, List.map_append, Truth.all_append, entryNegative, negative]
        simp [negatedEntryMeanings]

/-- A single entry that was read agrees with its meaning. -/
theorem entryAgrees_of_readEntry {key : String} {value : Value} {entry : FilterEntry}
    (accepted : readEntry table key value = .ok entry) :
    EntryAgrees table cellOf key value entry := by
  cases value with
  | object entries =>
      unfold readEntry at accepted
      split at accepted
      · obtain ⟨read, readAccepted, rfl⟩ := Except.map_eq_ok.mp accepted
        apply entryAgrees_combinator rfl rfl
        have positive := (eval_clauses_of_readEntries readAccepted).1
        simp [FilterEntry.clause, clauseList, clause, Clause.eval_conjoin, positive, entryMeaning]
      · obtain ⟨read, readAccepted, rfl⟩ := Except.map_eq_ok.mp accepted
        apply entryAgrees_combinator rfl rfl
        have positive := (eval_clauses_of_readEntries readAccepted).1
        simp [FilterEntry.clause, clauseList_singletons, Clause.eval_disjoin, positive,
          entryMeaning]
      · obtain ⟨read, readAccepted, rfl⟩ := Except.map_eq_ok.mp accepted
        apply entryAgrees_combinator rfl rfl
        have negative := (eval_clauses_of_readEntries readAccepted).2
        simp [FilterEntry.clause, negatedList, Clause.eval_conjoin, negative, entryMeaning]
      · next notAnd notOr notNot =>
        apply entryAgrees_test _ accepted
        · rw [entryMeaning] <;> assumption
        · simpa [isCombinator] using And.intro (And.intro notAnd notOr) notNot
  | sequence kind items =>
      unfold readEntry at accepted
      split at accepted
      · obtain ⟨branches, branchesAccepted, rfl⟩ := Except.map_eq_ok.mp accepted
        apply entryAgrees_combinator rfl rfl
        have positive := (eval_branches_of_readAll (readAll_of_readBranches branchesAccepted)).1
        simp [FilterEntry.clause, Clause.eval_conjoin, positive, entryMeaning]
      · obtain ⟨branches, branchesAccepted, rfl⟩ := Except.map_eq_ok.mp accepted
        apply entryAgrees_combinator rfl rfl
        have positive := (eval_branches_of_readAll (readAll_of_readBranches branchesAccepted)).1
        simp [FilterEntry.clause, Clause.eval_disjoin, positive, entryMeaning]
      · obtain ⟨branches, branchesAccepted, rfl⟩ := Except.map_eq_ok.mp accepted
        apply entryAgrees_combinator rfl rfl
        have negative := (eval_branches_of_readAll (readAll_of_readBranches branchesAccepted)).2
        simp [FilterEntry.clause, Clause.eval_conjoin, negative, entryMeaning]
      · next notAnd notOr notNot =>
        apply entryAgrees_test _ accepted
        · rw [entryMeaning] <;> assumption
        · simpa [isCombinator] using And.intro (And.intro notAnd notOr) notNot
  | scalar s =>
      rw [readEntry] at accepted
      split at accepted
      · cases accepted
      · next notCombinator =>
        apply entryAgrees_test _ accepted
        · rw [entryMeaning]
        · simpa [isCombinator] using notCombinator

/-- The list counterpart of `eval_clause_of_read`. -/
theorem eval_branches_of_readAll {items : List Value} {filters : List Filter}
    (accepted : readAll table items = .ok filters) :
    (clauseList filters).map (Clause.eval cellOf) = branchMeanings table cellOf items ∧
      (negatedList filters).map (Clause.eval cellOf) =
        negatedBranchMeanings table cellOf items := by
  cases items with
  | nil =>
      rw [readAll] at accepted
      cases accepted
      exact ⟨rfl, rfl⟩
  | cons item rest =>
      rw [readAll] at accepted
      obtain ⟨filter, filterAccepted, restRead⟩ := Except.bind_eq_ok.mp accepted
      obtain ⟨others, othersAccepted, rfl⟩ := Except.map_eq_ok.mp restRead
      obtain ⟨filterPositive, filterNegative⟩ := eval_clause_of_read filterAccepted
      obtain ⟨positive, negative⟩ := eval_branches_of_readAll othersAccepted
      constructor
      · simp [clauseList, branchMeanings, filterPositive, positive]
      · cases filter with
        | ofEntries entries =>
            simp only [negatedList, List.map_cons, List.map_nil, Truth.all_cons, Truth.all_nil,
              Truth.and_yes] at filterNegative ⊢
            rw [filterNegative, negative, negatedBranchMeanings]

end

/-- The clause of an accepted mapping has the value of the mapping on every row. -/
theorem eval_compile (table : Table) (value : Value) (compiled : Clause)
    (accepted : compile table value = .ok compiled) (cellOf : ColumnRef → Cell) :
    compiled.eval cellOf = meaning table cellOf value := by
  obtain ⟨filter, filterAccepted, rfl⟩ := Except.map_eq_ok.mp accepted
  exact (eval_clause_of_read filterAccepted).1

/-- On a row without an age neither the comparison of the age nor its negation holds. -/
theorem eval_compile_missing_age :
    let people : Table :=
      { name := "people"
        columns := [{ name := "name", type := .varchar },
          { name := "age", type := .integer, nullable := true }] }
    let name : ColumnRef := ⟨"people", "name", .varchar⟩
    let age : ColumnRef := ⟨"people", "age", .integer⟩
    let value : Value := .object
      [("OR", .list [.object [("name", .text "Ann")],
        .object [("NOT", .object [("age", .object [("gt", .int 30)])])]]),
        ("NOT", .object [("OR", .list [])])]
    let compiled : Clause := .group
      (.either (.compare .equal name (.text "Ann")) (.compare .lessEqual age (.int 30)))
    let cellOf (column : ColumnRef) : Cell :=
      if column.name = "name" then .text "Bob" else .null
    compile people value = .ok compiled ∧
      compiled.eval cellOf = meaning people cellOf value ∧
      compiled.eval cellOf = .unknown := by
  intro people name age value compiled cellOf
  have nameKnown : readColumn people "name" = .ok name := rfl
  have ageKnown : readColumn people "age" = .ok age := rfl
  have filterRead : read people value = .ok (.ofEntries
      [.any [.ofEntries [.test name (.equals (.text "Ann"))],
          .ofEntries [.none [.ofEntries [.test age (.comparisons [(.greater, .int 30)])]]]],
        .none [.ofEntries [.any []]]]) := by
    simp only [value, Value.text, Value.list, read, readEntries, readEntry, readBranches, readAll,
      Value.isMapping, List.all_cons, List.all_nil, Bool.and_self, if_true, String.reduceEq,
      imp_self, nameKnown, ageKnown]
    rfl
  have accepted : compile people value = .ok compiled := by
    rw [compile, filterRead]
    rfl
  exact ⟨accepted, eval_compile people value compiled accepted cellOf, by decide⟩

end Filter
end SchemaStore
