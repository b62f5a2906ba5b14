import SchemaStore.Filter.Basic

/-!
# Clauses of filters

`Filter.clause` is the clause that selects the rows a filter matches.  Negation
goes down to the tests of columns: a negated comparison becomes the inverse one,
and a negated list becomes its complement.
-/

namespace SchemaStore

def ColumnTest.clauses (column : ColumnRef) : ColumnTest → List Clause
  | .equals operand => [.compare .equal column operand]
  | .among values => [.member false column values]
  | .comparisons tests =>
      tests.map fun (comparison, operand) => .compare comparison column operand

mutual

/-- The clause of a filter: the conjunction of its entries. -/
def Filter.clause : Filter → Clause
  | .ofEntries entries => Clause.conjoin (FilterEntry.clauses entries)

def FilterEntry.clause : FilterEntry → Clause
  | .all branches => Clause.conjoin (Filter.clauseList branches)
  | .any branches => Clause.disjoin (Filter.clauseList branches)
  | .none branches => Clause.conjoin (Filter.negatedList branches)
  | .test column test => Clause.conjoin (test.clauses column)

/-- The clauses of several entries. -/
def FilterEntry.clauses : List FilterEntry → List Clause
  | [] => []
  | entry :: rest => entry.clause :: FilterEntry.clauses rest

/-- The clauses of several filters. -/
def Filter.clauseList : List Filter → List Clause
  | [] => []
  | filter :: rest => filter.clause :: Filter.clauseList rest

/-- For each of several filters, the clause that none of its entries holds. -/
def Filter.negatedList : List Filter → List Clause
  | [] => []
  | .ofEntries entries :: rest =>
      Clause.conjoin (FilterEntry.negatedList entries) :: Filter.negatedList rest

/-- The negations of several entries; each comparison of a test is negated by itself. -/
def FilterEntry.negatedList : List FilterEntry → List Clause
  | [] => []
  | .test column test :: rest =>
      (test.clauses column).map Clause.negate ++ FilterEntry.negatedList rest
  | .all branches :: rest =>
      (Clause.conjoin (Filter.clauseList branches)).negate :: FilterEntry.negatedList rest
  | .any branches :: rest =>
      (Clause.disjoin (Filter.clauseList branches)).negate :: FilterEntry.negatedList rest
  | .none branches :: rest =>
      (Clause.conjoin (Filter.negatedList branches)).negate :: FilterEntry.negatedList rest

end

namespace Filter

/-- The clause of a filter that is given as a value. -/
def compile (table : Table) (value : Value) : Except FilterDefect Clause :=
  clause <$> read table value

/-- The condition that a filter adds to a statement; a filter that is empty adds none. -/
def compile? (table : Table) (value : Value) : Except FilterDefect (List Clause) :=
  if value.truthy then (fun clause => [clause]) <$> compile table value else .ok []

end Filter
end SchemaStore
