import SchemaStore.Query.Basic

/-!
# Searches

A `Search` asks for rows of a model in one call: which rows, which columns, what
to include, and which part of the ordered rows.  The other reads of a model are
searches of a special form.
-/

namespace SchemaStore

/-- A search among the rows of a model. -/
structure Search where
  /-- The filter; an empty one matches every row. -/
  filter : Value := .null
  /-- The fields to give; none of them means all. -/
  fields : List Value := []
  /-- The models to include, by the field that refers to them. -/
  includes : Record Value := []
  page : PageRequest := {}
  /-- Whether to order the rows also without a cursor. -/
  ordered : Bool := false
  distinct : Bool := false

namespace Search

/-- Read the arguments of a search; rows are ordered by the id unless a field is given. -/
def ofInput (idField : String) (arguments : Record Value) : Except Failure Search := do
  let argument (name : String) : Value := (arguments.get? name).getD .null
  let direction := (arguments.get? "direction").getD (.text Direction.ascending.label)
  let orderBy := argument "order_by"
  let page ← PageRequest.ofInput (.object [
    ("order_by", if orderBy.truthy then orderBy else .text idField),
    ("direction", direction), ("skip", argument "skip"), ("take", argument "take"),
    ("cursor", argument "cursor")])
  let distinct := argument "distinct"
  let fields := match distinct with
    | .scalar (.bool _) => argument "select"
    | other => if other.truthy then other else argument "select"
  return {
    filter := argument "where"
    fields := fields.elements
    includes := (argument "includes").entries
    page
    ordered := !orderBy.isNull
    distinct := distinct.truthy }

end Search

namespace Model

/-- The outputs for the named fields; without names, all columns. -/
def outputs (model : Model) (fields : List Value) : Except Failure (List Output) :=
  if fields.isEmpty then .ok (Select.all model.table).outputs
  else fields.mapM fun field => do return ⟨← model.columnOf field, none⟩

/-- Include the row that a field refers to. -/
def addInclude (model : Model) (acc : Select × List Include) (field : String)
    (targetName : Value) : Except Failure (Select × List Include) := do
  let (query, includes) := acc
  let column ← model.column field
  match model.schema.entity? targetName.display with
  | none => .error (.validation ("Cannot include unknown model '" ++ targetName.display ++ "'"))
  | some target =>
      let key := includeKey field target
      let included : Include := ⟨key, target.idField⟩
      let table := target.table model.schema model.dialect.traits
      let source := key ++ "_include"
      let join : Join := {
        table
        source
        column
        key := ⟨source, target.idField, .integer⟩ }
      let outputs := table.columns.map fun column =>
        (⟨column.ref source, some (included.label column.name)⟩ : Output)
      return ({ query with
          joins := query.joins ++ [join]
          outputs := query.outputs ++ outputs },
        includes ++ [included])

/-- Include the rows that several fields refer to. -/
def addIncludes (model : Model) :
    Select × List Include → Record Value → Except Failure (Select × List Include)
  | acc, [] => .ok acc
  | acc, (field, target) :: rest => do
      model.addIncludes (← model.addInclude acc field target) rest

/-- The statement of a search, with the included rows. -/
def statementOf (model : Model) (search : Search) : Except Failure (Select × List Include) := do
  let outputs ← model.outputs search.fields
  let (query, includes) ← model.addIncludes ({ table := model.table, outputs }, []) search.includes
  let conditions ← model.condition search.filter
  let column ← model.column search.page.orderBy
  let cursor := search.page.cursor
  let ascending := search.page.direction == .ascending
  if cursor.isUnordered && !cursor.isNull then
    .error .unorderedOperand
  let boundary :=
    if cursor.isNull then []
    else [Clause.compare (if ascending then .greater else .less) column cursor]
  let orderings : List OrderTerm :=
    if search.ordered || !cursor.isNull then [⟨column, ascending⟩] else []
  let offset := match search.page.skip with
    | some 0 | none => none
    | some n => some n
  return ({ query with
      criteria := conditions ++ boundary
      orderings
      distinct := search.distinct
      limit := search.page.take
      offset }, includes)

def findMany (model : Model) (search : Search) : Program (List Row) := do
  let (query, includes) ← Program.ofResult (model.statementOf search)
  model.fetch query includes

def findFirst (model : Model) (search : Search) : Program (Option Row) := do
  let page := { search.page with take := some 1 }
  let rows ← model.findMany { search with page }
  return rows.head?

/-- Fail unless a filter is given. -/
def requireFilter (model : Model) (operation : String) (filter : Value) : Program Unit :=
  if filter.truthy then return ()
  else Program.fail
    (.validation (operation ++ " on " ++ model.entity.name ++ " needs a non-empty filter"))

/-- A search without an order of its own. -/
def search (model : Model) (filter fields includes : Value) : Search :=
  { filter
    fields := fields.elements
    includes := includes.entries
    page := { orderBy := model.idField } }

/-- The first row that matches a filter. -/
def findOne (model : Model) (filter : Value) (fields : Value := .null)
    (includes : Value := .null) : Program (Option Row) := do
  model.requireFilter "find_one" filter
  model.findFirst (model.search filter fields includes)

def findById (model : Model) (id : Value) (fields : Value := .null)
    (includes : Value := .null) : Program (Option Row) :=
  if id.isNull then
    Program.fail (.validation ("find_by_id on " ++ model.entity.name ++ " needs an id"))
  else
    model.findOne (.object [(model.idField, id)]) fields includes

/-- The rows that match a filter, ordered by their ids. -/
def findAllById (model : Model) (filter : Value) : Program (List Row) :=
  model.findMany { model.search filter .null .null with ordered := true }

/-- The number of rows that match a filter. -/
def count (model : Model) (filter : Value) : Program Value := do
  let conditions ← Program.ofResult (model.condition filter)
  model.fetchScalar (.count model.table conditions)

/-- The size of a page; a page has at least one row. -/
def pageSize? : Value → Option Nat
  | .scalar (.int n) => if n < 1 then none else some n.toNat
  | .scalar (.bool true) => some 1
  | _ => none

/-- The statement of a page: one row more than the page holds, to see whether another one
follows. -/
def pageStatement (model : Model) (filter field cursor : Value) (size : Nat) :
    Except Failure Select := do
  let column ← model.columnOf field
  let conditions ← model.condition filter
  if cursor.isUnordered && !cursor.isNull then
    .error .unorderedOperand
  let boundary :=
    if cursor.isNull then [] else [Clause.compare .greaterEqual column cursor]
  return { Select.all model.table with
    criteria := conditions ++ boundary
    orderings := [⟨column, true⟩]
    limit := some (size + 1) }

/-- The value of a field in a row. -/
def fieldIn (field : Value) (row : Row) : Except Failure Value :=
  match field with
  | .scalar (.text name) => valueIn name row
  | _ => .error .missingKey

/-- The page of rows that begins at a cursor. -/
def paginate (model : Model) (filter orderBy take cursor : Value) : Program Page := do
  match pageSize? take with
  | none => Program.fail (.validation "paginate needs take >= 1")
  | some size =>
      let field := if orderBy.truthy then orderBy else .text model.idField
      let query ← Program.ofResult (model.pageStatement filter field cursor size)
      let rows ← model.fetch query []
      let nextCursor ← match rows[size]? with
        | some row => Program.ofResult (fieldIn field row)
        | none => pure .null
      return {
        items := rows.take size
        nextCursor
        cursor
        hasNext := rows.length > size
        hasPrevious := !cursor.isNull
        size }

end Model
end SchemaStore
