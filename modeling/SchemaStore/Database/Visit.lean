import SchemaStore.Database.Basic

/-!
# Orders of visits

A statement visits the rows of its table in the order of their ids, or along the
index of a unique column: one that the result is ordered by, one whose values
find the rows, or one whose index holds every column that the statement needs.
-/

namespace SchemaStore

/-- The room that a value of a type is expected to take, in words. -/
def ColumnType.width : ColumnType → Nat
  | .integer | .timestamp => 1
  | .text => 5
  | .varchar => 64

namespace StoredTable

/-- Whether rows can be found by their values of a column. -/
def hasIndex (stored : StoredTable) (column : String) : Bool :=
  column == stored.keyName || stored.uniqueColumns.contains column

/-- The rows in the order of their values of a column. -/
def along (stored : StoredTable) (column : String) : List CellRow :=
  stored.rows.mergeSort fun first second =>
    ((CellRow.cell first column).compare (CellRow.cell second column)).isLE

/-- An index leads to every row once. -/
theorem along_perm (stored : StoredTable) (column : String) :
    (stored.along column).Perm stored.rows :=
  List.mergeSort_perm ..

/-- The room that a row is expected to take. -/
def width (stored : StoredTable) : Nat :=
  stored.table.columns.foldl (fun total column => total + column.type.width) 0

/-- The room that a row is expected to take in the index of a column, which holds its key, too. -/
def indexWidth (stored : StoredTable) (column : String) : Nat :=
  ((stored.table.column? column).map (·.type.width)).getD 0 + 1

/-- The column with the narrowest index that holds all the named columns, if that saves room; of
several the latest. -/
def coveringColumn? (stored : StoredTable) (names : List String) : Option String :=
  let covers (column : String) : Bool :=
    names.all fun name => name == column || name == stored.keyName
  let saves (column : String) : Bool := 8 * stored.indexWidth column < 7 * stored.width
  let narrower (best : Option String) (column : String) : Option String :=
    match best with
    | none => some column
    | some other =>
        if stored.indexWidth column ≤ stored.indexWidth other then some column else some other
  ((stored.uniqueColumns.filter covers).filter saves).foldl narrower none

end StoredTable

namespace Select

/-- The tables of a statement by the names of their sources. -/
def sources (query : Select) : List (String × Table) :=
  (query.table.name, query.table) :: query.joins.map fun join => (join.source, join.table)

/-- The columns that a statement names. -/
def columns (query : Select) : List ColumnRef :=
  query.outputs.map (·.column) ++ query.joins.flatMap (fun join => [join.column, join.key]) ++
    query.criteria.flatMap Clause.columns ++ query.orderings.map (·.column)

/-- The columns whose values find the rows that fulfil a condition. -/
def findingColumns : Clause → List String
  | .compare comparison column _ => if comparison = .notEqual then [] else [column.name]
  | .member negated column _ => if negated then [] else [column.name]
  | .both left right => findingColumns left ++ findingColumns right
  | .group inner => findingColumns inner
  | _ => []

/-- The column that rows are visited along, and whether from the least value on. -/
def path (query : Select) (stored : StoredTable) : String × Bool :=
  let byKey := (stored.keyName, true)
  let unordered :=
    match (query.criteria.flatMap findingColumns).filter stored.hasIndex with
    | [] =>
        let used :=
          if query.distinct && query.orderings.isEmpty then query.outputs.map (·.column)
          else query.columns
        let named := (used.filter (·.source == query.table.name)).map (·.name)
        match stored.coveringColumn? named with
        | some column => (column, true)
        | none => byKey
    | first :: rest => if (first :: rest).contains stored.keyName then byKey else (first, true)
  match query.orderings with
  | [] => unordered
  | term :: _ =>
      if stored.hasIndex term.column.name then (term.column.name, term.ascending) else unordered

def visited (query : Select) (tables : List StoredTable) : List CellRow :=
  match Database.find? tables query.table.name with
  | none => []
  | some stored =>
      let (column, ascending) := query.path stored
      if ascending then stored.along column else (stored.along column).reverse

/-- Every row of the main table is visited once, whatever the path. -/
theorem visited_perm {query : Select} {tables : List StoredTable} {stored : StoredTable}
    (found : Database.find? tables query.table.name = some stored) :
    (query.visited tables).Perm stored.rows := by
  simp only [visited, found]
  split
  · exact stored.along_perm _
  · exact (List.reverse_perm _).trans (stored.along_perm _)

end Select
end SchemaStore
