import SchemaStore.Error.Backend
import SchemaStore.Sql.Clause

/-!
# Filters

A filter is a mapping of entries that all have to hold.  An entry tests a
column, or combines filters under `AND`, `OR` and `NOT`.  `Filter.read` turns a
value into a filter and reports the first offending place, going through the
entries depth first.
-/

namespace SchemaStore

/-- What a column is tested for. -/
inductive ColumnTest where
  /-- Equality with a value. -/
  | equals (operand : Value)
  /-- Membership in a list. -/
  | among (values : List Value)
  /-- Several comparisons, all of which have to hold. -/
  | comparisons (tests : List (Comparison × Value))
deriving Repr

mutual

/-- A mapping of entries that all have to hold. -/
inductive Filter where
  | ofEntries (entries : List FilterEntry)

inductive FilterEntry where
  /-- All of the branches hold. -/
  | all (branches : List Filter)
  /-- Some branch holds. -/
  | any (branches : List Filter)
  /-- Every entry of every branch fails. -/
  | none (branches : List Filter)
  | test (column : ColumnRef) (test : ColumnTest)

end

/-- Why a value is no filter. -/
inductive FilterDefect where
  | notMapping (typeName : String)
  | badBranches (key : String)
  | unknownField (field table : String)
  | unknownOperator (name : String)
  | unorderedOperand
deriving DecidableEq, Repr

/-- The operators of comparisons, by name. -/
def comparisonNames : List (String × Comparison) :=
  [("gt", .greater), ("gte", .greaterEqual), ("lt", .less), ("lte", .lessEqual),
    ("equals", .equal), ("not", .notEqual)]

namespace FilterDefect

/-- How a defect of a filter is reported. -/
def failure : FilterDefect → Failure
  | .notMapping typeName => .validation ("Filter must be a mapping, got " ++ typeName)
  | .badBranches key => .validation (key ++ " expects a filter or a list of filters")
  | .unknownField field table =>
      .validation ("Unknown field '" ++ field ++ "' on " ++ table)
  | .unknownOperator name =>
      .validation ("Unknown operator '" ++ name ++ "', expected one of " ++
        Text.joinWith ", " (comparisonNames.map (·.1)))
  | .unorderedOperand => .unorderedOperand

end FilterDefect

/-- Values that have no order: null and the truth values. -/
def Value.isUnordered : Value → Bool
  | .scalar .null | .scalar (.bool _) => true
  | _ => false

/-- Whether a value is a mapping. -/
def Value.isMapping : Value → Bool
  | .object _ => true
  | _ => false

namespace Filter

/-- The column that a key names. -/
def readColumn (table : Table) (key : String) : Except FilterDefect ColumnRef :=
  match table.ref? key with
  | some column => .ok column
  | none => .error (.unknownField key table.name)

/-- Read the comparisons of an operator object in order. -/
def readComparisons : List (String × Value) → Except FilterDefect (List (Comparison × Value))
  | [] => .ok []
  | (name, operand) :: rest =>
      match comparisonNames.lookup name with
      | none => .error (.unknownOperator name)
      | some comparison =>
          if comparison.isOrdering && operand.isUnordered then
            .error .unorderedOperand
          else do
            return (comparison, operand) :: (← readComparisons rest)

/-- Read what a column is tested for. -/
def readTest : Value → Except FilterDefect ColumnTest
  | .object operators => .comparisons <$> readComparisons operators
  | .sequence _ values => .ok (.among values)
  | operand => .ok (.equals operand)

mutual

def read (table : Table) : Value → Except FilterDefect Filter
  | .object entries => .ofEntries <$> readEntries table entries
  | .scalar s => .error (.notMapping (Value.scalar s).typeName)
  | .sequence kind _ => .error (.notMapping (Value.sequence kind []).typeName)

def readEntries (table : Table) : List (String × Value) → Except FilterDefect (List FilterEntry)
  | [] => .ok []
  | (key, value) :: rest => do
      let entry ← readEntry table key value
      return entry :: (← readEntries table rest)

def readEntry (table : Table) (key : String) : Value → Except FilterDefect FilterEntry
  | .object entries =>
      match key with
      | "AND" => do return .all [.ofEntries (← readEntries table entries)]
      | "OR" => do return .any ((← readEntries table entries).map fun entry => .ofEntries [entry])
      | "NOT" => do return .none [.ofEntries (← readEntries table entries)]
      | _ => do
          let column ← readColumn table key
          return .test column (← readTest (.object entries))
  | .sequence kind items =>
      match key with
      | "AND" => .all <$> readBranches table key items
      | "OR" => .any <$> readBranches table key items
      | "NOT" => .none <$> readBranches table key items
      | _ => do
          let column ← readColumn table key
          return .test column (← readTest (.sequence kind items))
  | .scalar s =>
      if key == "AND" || key == "OR" || key == "NOT" then
        .error (.badBranches key)
      else do
        let column ← readColumn table key
        return .test column (← readTest (.scalar s))

/-- Read a list of filters, all of which have to be mappings. -/
def readBranches (table : Table) (key : String) (items : List Value) :
    Except FilterDefect (List Filter) :=
  if items.all Value.isMapping then readAll table items else .error (.badBranches key)

/-- Read several filters in order. -/
def readAll (table : Table) : List Value → Except FilterDefect (List Filter)
  | [] => .ok []
  | item :: rest => do
      let filter ← read table item
      return filter :: (← readAll table rest)

end

end Filter
end SchemaStore
