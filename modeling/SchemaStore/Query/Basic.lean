import SchemaStore.Query.Model
import SchemaStore.Query.Page

/-!
# Queries

A `Query` is a reading of one model that is put together step by step.  Every
step gives a new query; `all`, `first` and `count` run it.
-/

namespace SchemaStore

/-- A reading of the rows of a model. -/
structure Query where
  model : Model
  select : Select

namespace Query

def ofModel (model : Model) : Query :=
  ⟨model, .all model.table⟩

/-- Keep the rows that fulfil more conditions. -/
def narrow (query : Query) (conditions : List Clause) : Query :=
  { query with select.criteria := query.select.criteria ++ conditions }

/-- Keep the rows that match a filter. -/
def matching (query : Query) (filter : Value) : Except Failure Query :=
  query.narrow <$> query.model.condition filter

/-- Keep the rows that a filter excludes; an empty filter excludes none. -/
def excluding (query : Query) (filter : Value) : Except Failure Query :=
  if filter.truthy then
    query.narrow <$> query.model.condition (.object [("NOT", filter)])
  else
    .ok query

/-- Whether a number is below zero. -/
def isBelowZero : Value → Bool
  | .scalar (.int n) => n < 0
  | .scalar (.real x) => x.isNegative && !x.isZero
  | _ => false

/-- A number of rows; fractions are cut off. -/
def amount (name : String) (value : Value) : Except Failure Nat :=
  if isBelowZero value then
    .error (.validation (name ++ " must not be negative"))
  else
    match value with
    | .scalar (.int n) => .ok n.toNat
    | .scalar (.bool b) => .ok (if b then 1 else 0)
    | .scalar (.real x) => .ok (x.truncate?.getD 0).toNat
    | _ => .error .unreadableNumber

/-- Give at most a number of rows. -/
def limit (query : Query) (value : Value) : Except Failure Query := do
  let n ← amount "limit" value
  return { query with select.limit := some n }

/-- Leave out a number of rows. -/
def offset (query : Query) (value : Value) : Except Failure Query := do
  let n ← amount "offset" value
  return { query with select.offset := some n }

/-- Order the rows by one more field. -/
def orderBy (query : Query) (field : Value) (direction : String) : Except Failure Query :=
  let word := Text.lower direction
  match Direction.all.find? (·.label == word) with
  | none => .error (.validation ("Unknown order direction '" ++ word ++ "'"))
  | some direction => do
      let column ← query.model.columnOf field
      let ordering : OrderTerm := ⟨column, direction == .ascending⟩
      return { query with select.orderings := query.select.orderings ++ [ordering] }

/-- Give equal rows only once. -/
def distinct (query : Query) : Query :=
  { query with select.distinct := true }

def all (query : Query) : Program (List Row) :=
  query.model.fetch query.select []

def first (query : Query) : Program (Option Row) := do
  let rows ← query.model.fetch { query.select with limit := some 1 } []
  return rows.head?

/-- The number of rows of a query. -/
def count (query : Query) : Program Value :=
  query.model.fetchScalar (.countOf query.select)

end Query
end SchemaStore
