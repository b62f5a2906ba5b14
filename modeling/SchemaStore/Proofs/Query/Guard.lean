import SchemaStore.Proofs.Filter.Verdict
import SchemaStore.Proofs.Query.Lookup
import SchemaStore.Proofs.Query.Operation
import SchemaStore.Proofs.Query.Placeholder

/-!
# Operations that need a filter

Reading, updating, upserting and deleting have to be given a filter that is not empty.
They refuse the empty mapping and nothing else, so a filter that is made of empty parts
is admitted although it may select every row: it does so exactly if its verdict is true,
as long as it does not ask for null.
-/

namespace SchemaStore

namespace Program

variable {α β : Type}

/-- If it is admitted, a program begins with a query for the rows that fulfil a clause; otherwise
it fails at once. -/
def Asks (program : Program α) (admitted : Prop) (clause : Clause) : Prop :=
  (admitted ∧ ∃ query : Select, program.opening? = some (.select query) ∧
    query.criteria = [clause]) ∨
  (¬admitted ∧ ∃ failure, program = Program.fail failure)

theorem Asks.bind {program : Program α} {admitted : Prop} {clause : Clause}
    (asks : program.Asks admitted clause) (next : α → Program β) :
    (program >>= next).Asks admitted clause := by
  rcases asks with ⟨admits, query, opens, stated⟩ | ⟨refuses, failure, rfl⟩
  · exact .inl ⟨admits, query, opening?_bind opens next, stated⟩
  · exact .inr ⟨refuses, failure, rfl⟩

theorem Asks.congr {program : Program α} {admitted other : Prop} {clause : Clause}
    (asks : program.Asks admitted clause) (same : other ↔ admitted) :
    program.Asks other clause := by
  rwa [Asks, propext same]

end Program

/-- The filter by which an operation has to say which rows it is about. -/
def Operation.guard? : Operation → Option Value
  | .findOne filter _ _ | .updateOne filter _ | .upsert filter _ | .delete filter => some filter
  | _ => none

namespace Model

open SchemaStore.Except (Succeeds)

/-- The columns and the included rows of a search. -/
def shape (model : Model) (fields includes : Value) : Except Failure (Select × List Include) := do
  let outputs ← model.outputs fields.elements
  model.addIncludes ({ table := model.table, outputs }, []) includes.entries

/-- What an operation is given besides a filter can be used. -/
def Supports (model : Model) : Operation → Prop
  | .findOne _ fields includes => Succeeds (model.shape fields includes)
  | .updateOne _ data => Succeeds (model.someValuesOf data)
  | _ => True

variable {model : Model} {filter : Value} {parsed : Filter}

section Asking

theorem statementOf_one (valid : model.entity.Valid) {conditions : List Clause}
    (accepted : model.condition filter = .ok conditions) (fields includes : Value) :
    model.statementOf { model.search filter fields includes with
        page := { orderBy := model.idField, take := some 1 } } = do
      let (query, included) ← model.shape fields includes
      return ({ query with
          criteria := conditions ++ []
          orderings := []
          distinct := false
          limit := some 1
          offset := none }, included) := by
  have known : model.column model.idField = .ok model.key := idColumn_eq valid
  unfold statementOf shape
  dsimp only [search]
  rw [accepted, known]
  cases model.outputs fields.elements with
  | error failure => rfl
  | ok outputs =>
      simp only [Except.ok_bind]
      cases model.addIncludes ({ table := model.table, outputs }, []) includes.entries with
      | error failure => rfl
      | ok stated => rfl

theorem findOne_asks (valid : model.entity.Valid)
    (read : Filter.read model.table filter = .ok parsed) (fields includes : Value) :
    (model.findOne filter fields includes).Asks
      (filter.truthy = true ∧ Succeeds (model.shape fields includes)) parsed.clause := by
  unfold findOne requireFilter
  cases given : filter.truthy with
  | false => exact .inr ⟨by simp, _, rfl⟩
  | true =>
      have accepted := condition_of_read read
      rw [given] at accepted
      have stated := statementOf_one valid accepted fields includes
      unfold findFirst findMany
      dsimp only [search] at stated ⊢
      rw [stated]
      cases shaped : model.shape fields includes with
      | error failure => exact .inr ⟨by simp [Except.not_succeeds_error], failure, rfl⟩
      | ok stated =>
          refine .inl ⟨⟨rfl, Except.succeeds_ok stated⟩, _,
            Program.opening?_bind (opening?_fetch model _ stated.2) _, ?_⟩
          rfl

/-- Without fields and included rows a search has the columns of the table. -/
theorem succeeds_shape_plain : Succeeds (model.shape .null .null) :=
  ⟨_, rfl⟩

theorem lookup_asks (valid : model.entity.Valid)
    (read : Filter.read model.table filter = .ok parsed) :
    (model.findOne filter).Asks (filter.truthy = true) parsed.clause :=
  (findOne_asks valid read .null .null).congr (iff_self_and.mpr fun _ => succeeds_shape_plain)

theorem updateOne_asks (valid : model.entity.Valid)
    (read : Filter.read model.table filter = .ok parsed) (data : Value) :
    (model.updateOne filter data).Asks
      (filter.truthy = true ∧ Succeeds (model.someValuesOf data)) parsed.clause := by
  unfold updateOne
  cases accepted : model.someValuesOf data with
  | error failure => exact .inr ⟨by simp [Except.not_succeeds_error], failure, rfl⟩
  | ok values =>
      exact ((lookup_asks valid read).bind _).congr (and_iff_left (Except.succeeds_ok values))

theorem delete_asks (valid : model.entity.Valid)
    (read : Filter.read model.table filter = .ok parsed) :
    (model.delete filter).Asks (filter.truthy = true) parsed.clause := by
  unfold delete requireFilter
  cases given : filter.truthy with
  | false => exact .inr ⟨by simp, _, rfl⟩
  | true =>
      have accepted := condition_of_read read
      rw [given] at accepted
      have found : (model.findAllById filter).Asks True parsed.clause := by
        rw [findAllById_eq valid accepted]
        exact .inl ⟨trivial, _, opening?_fetch model _ _, rfl⟩
      exact (found.bind _).congr (by simp)

/-- An operation that needs a filter is admitted exactly if the filter is not empty and the other
arguments can be used. -/
theorem guarded_asks (valid : model.entity.Valid)
    (read : Filter.read model.table filter = .ok parsed) {operation : Operation}
    (guarded : operation.guard? = some filter) :
    (operation.program model).Asks (filter.truthy = true ∧ model.Supports operation)
      parsed.clause := by
  cases operation with
  | findOne _ fields includes =>
      cases guarded
      exact findOne_asks valid read fields includes
  | updateOne _ data =>
      cases guarded
      exact updateOne_asks valid read data
  | upsert _ data =>
      cases guarded
      exact ((lookup_asks valid read).bind _).congr (and_iff_left trivial)
  | delete _ =>
      cases guarded
      exact (delete_asks valid read).congr (and_iff_left trivial)
  | _ => cases guarded

end Asking

theorem truthy_iff_of_read (read : Filter.read model.table filter = .ok parsed) :
    filter.truthy = true ↔ filter ≠ .object [] := by
  cases filter with
  | object entries => cases entries <;> simp [Value.truthy]
  | scalar s => rw [Filter.read] at read; cases read
  | sequence kind items => rw [Filter.read] at read; cases read

theorem given_of_leaves (read : Filter.read model.table filter = .ok parsed)
    (given : ∀ leaf ∈ Filter.leaves filter, leaf ≠ .null) :
    ∀ operand ∈ parsed.clause.operands, operand ≠ .null := by
  intro operand member
  obtain ⟨parameter, bound, rfl⟩ := List.mem_map.mp member
  apply given
  rw [← Filter.operands_eq_leaves read, ← Filter.map_value_parameters]
  exact List.mem_map_of_mem (Filter.parameters_clause parsed bound)

/-- Reading, updating, upserting and deleting refuse the empty filter only, besides arguments that
cannot be used; with any other filter they begin with its rows.  The verdict of the filter holds on
every row, if it has one, and if the filter tests no column, it has one.  If it does not ask for
null, it selects every row exactly if its verdict is true. -/
theorem guard_admits (valid : model.entity.Valid)
    (read : Filter.read model.table filter = .ok parsed) :
    (∀ operation : Operation, operation.guard? = some filter →
      (operation.program model).Asks (filter ≠ .object [] ∧ model.Supports operation)
        parsed.clause) ∧
    (∀ cellOf, Truth.Settles parsed.verdict (parsed.clause.eval cellOf)) ∧
    (parsed.clause.columns = [] → parsed.verdict ≠ .unknown) ∧
    ((∀ leaf ∈ Filter.leaves filter, leaf ≠ .null) →
      ((∀ cellOf, (parsed.clause.eval cellOf).holds = true) ↔ parsed.verdict = .yes)) := by
  rw [← Filter.verdict_clause]
  refine ⟨fun operation guarded => ?_, parsed.clause.settles_eval, Clause.verdict_ne_unknown,
    fun given => ⟨fun all => ?_, fun decided cellOf => ?_⟩⟩
  · exact (guarded_asks valid read guarded).congr
      (and_congr_left' (truthy_iff_of_read read).symm)
  · have missing := all fun _ => .null
    rw [Clause.eval_null (given_of_leaves read given)] at missing
    exact beq_iff_eq.mp missing
  · rcases parsed.clause.settles_eval cellOf with unknown | same
    · rw [decided] at unknown
      cases unknown
    · rw [same, decided]
      rfl

/-- An empty list and an empty combinator under `NOT` are admitted as what to delete, and select
every user. -/
theorem guard_admits_users :
    let entity : Entity :=
      ⟨"User", [("id", { type := .int, isId := true }), ("name", { type := .string })]⟩
    let model : Model := {
      schema := ⟨⟨.sqlite, "file:./dev.db", none⟩, [entity]⟩
      entity
      dialect := .sqlite
      settings := {}
      pool := 0 }
    let name : ColumnRef := ⟨"users", "name", .varchar⟩
    let filter : Value := .object [("NOT", .object [("OR", .list [
      .object [("name", .list [])], .object [("OR", .list [])]])])]
    let parsed : Filter := .ofEntries [.none [.ofEntries [.any [
      .ofEntries [.test name (.among [])], .ofEntries [.any []]]]]]
    entity.Valid ∧ Filter.read model.table filter = .ok parsed ∧
      (∃ query : Select, (model.delete filter).opening? = some (.select query) ∧
        query.criteria = [parsed.clause]) ∧
      ∀ cellOf, (parsed.clause.eval cellOf).holds = true := by
  intro entity model name filter parsed
  have table : model.table = {
      name := "users"
      columns := [{ name := "id", type := .integer, isKey := true },
        { name := "name", type := .varchar }] } := by
    decide +kernel
  have valid : entity.Valid := by
    rw [Entity.valid_iff]
    decide
  have read : Filter.read model.table filter = .ok parsed := by
    rw [table]
    simp only [filter, Value.list, Filter.read, Filter.readEntries, Filter.readEntry,
      Filter.readBranches, Filter.readAll, String.reduceEq, imp_self]
    rfl
  obtain ⟨admits, -, -, exactly⟩ := guard_admits valid read
  have asks := admits (.delete filter) rfl
  refine ⟨valid, read, ?_, (exactly ?_).mpr rfl⟩
  · rcases asks with ⟨-, opens⟩ | ⟨refused, -⟩
    · exact opens
    · exact absurd ⟨by simp [filter], trivial⟩ refused
  · simp [filter, Value.list, Filter.leaves, Filter.fieldTests, Filter.fieldTestsOfEntries,
      Filter.fieldTestsOfEntry, Filter.fieldTestsOfBranches, Filter.operandsOf,
      Filter.isCombinator]

end Model
end SchemaStore
