import SchemaStore.Database.Visit

/-!
# Reading rows

A reading joins the rows of its tables, keeps those that fulfil its conditions,
orders them and gives their columns.  Rows that the order does not tell apart stay
as they were visited.
-/

namespace SchemaStore

/-- The rows that the sources of a statement stand at; a missing joined row has no cells. -/
abbrev Scope := Record CellRow

def Scope.cell (scope : Scope) (column : ColumnRef) : Cell :=
  CellRow.cell ((Record.get? scope column.source).getD []) column.name

/-- Whether a row has the key that a scope refers to. -/
def Join.fits (join : Join) (scope : Scope) (row : CellRow) : Bool :=
  let own := join.column.type.affinity
  let other := join.key.type.affinity
  (Comparison.equal.truth ((scope.cell join.column).against own other)
    ((CellRow.cell row join.key.name).against other own)).holds

namespace Select

/-- A number of rows as a parameter. -/
def amountParameter (n : Option Nat) : List Parameter :=
  match n with
  | some n => [⟨.plain, .int n⟩]
  | none => []

def parameters (query : Select) : List Parameter :=
  Clause.boundParameters query.criteria ++ amountParameter query.limit ++
    amountParameter query.offset

def checkNames (query : Select) (tables : List StoredTable) : Except Failure Unit := do
  let stored ← query.sources.mapM fun source =>
    return (source.1, ← Database.require tables source.2.name)
  let columnExists (column : ColumnRef) : Bool :=
    stored.any fun (source, found) =>
      source == column.source && (found.table.column? column.name).isSome
  if !(query.sources.map (·.1)).Pairwise (Database.sameName · · = false) then
    .error (Database.operational "ambiguous column name")
  match query.columns.find? (!columnExists ·) with
  | some column => .error (Database.noSuchColumn (column.source ++ "." ++ column.name))
  | none => .ok ()

def rowsOf (tables : List StoredTable) (name : String) : List CellRow :=
  ((Database.find? tables name).map (·.rows)).getD []

/-- Go on from a scope to the joined rows, or to a missing one if there is none. -/
def joinScope (tables : List StoredTable) (scope : Scope) (join : Join) : List Scope :=
  match (rowsOf tables join.table.name).filter (join.fits scope) with
  | [] => [scope ++ [(join.source, [])]]
  | rows => rows.map fun row => scope ++ [(join.source, row)]

/-- The scopes of a statement before its conditions. -/
def joined (query : Select) (tables : List StoredTable) : List Scope :=
  query.joins.foldl (fun scopes join => scopes.flatMap fun scope => joinScope tables scope join)
    ((query.visited tables).map fun row => [(query.table.name, row)])

/-- Whether the first of two scopes may stand before the second. -/
def precedes (orderings : List OrderTerm) (first second : Scope) : Bool :=
  match orderings with
  | [] => true
  | term :: rest =>
      let order := (first.cell term.column).compare (second.cell term.column)
      match if term.ascending then order else order.swap with
      | .lt => true
      | .gt => false
      | .eq => precedes rest first second

/-- The cells that a scope gives. -/
def outputCells (query : Select) (scope : Scope) : List Cell :=
  query.outputs.map fun output => scope.cell output.column

/-- Keep the first of the scopes that give the same cells. -/
def dropRepeated (query : Select) (seen : List (List Cell)) : List Scope → List Scope
  | [] => []
  | scope :: rest =>
      let cells := query.outputCells scope
      if seen.contains cells then query.dropRepeated seen rest
      else scope :: query.dropRepeated (cells :: seen) rest

/-- The part of a list that is taken. -/
def slice {α : Type} (limit offset : Option Nat) (items : List α) : List α :=
  let rest := items.drop (offset.getD 0)
  match limit with
  | some n => rest.take n
  | none => rest

/-- The scopes that a statement gives rows for, in order. -/
def scopes (query : Select) (tables : List StoredTable) : List Scope :=
  let matching := (query.joined tables).filter fun scope =>
    Clause.holdAll scope.cell query.criteria
  let kept := if query.distinct then query.dropRepeated [] matching else matching
  slice query.limit query.offset (kept.mergeSort (precedes query.orderings))

def rowOf (query : Select) (scope : Scope) : Except Failure Row := do
  let values ← query.outputs.mapM fun output => output.column.type.read (scope.cell output.column)
  return Record.putAll [] (query.labels.zip values)

/-- Fail unless a statement can be carried out on tables. -/
def check (query : Select) (tables : List StoredTable) : Except Failure Unit := do
  Parameter.checkConversions query.parameters
  query.checkNames tables
  Parameter.checkBindings query.parameters

def rows (query : Select) (tables : List StoredTable) : Except Failure (List Row) := do
  query.check tables
  (query.scopes tables).mapM query.rowOf

/-- The number of rows of a statement. -/
def size (query : Select) (tables : List StoredTable) : Except Failure Nat := do
  query.check tables
  return (query.scopes tables).length

end Select
end SchemaStore
