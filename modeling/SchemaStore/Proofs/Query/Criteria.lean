import SchemaStore.Proofs.Clause.Written
import SchemaStore.Proofs.Dsl.Reading
import SchemaStore.Proofs.Dsl.Valid
import SchemaStore.Proofs.Query.Pages
import SchemaStore.Query.Change

/-!
# Conditions of statements are read back

However the conditions of a statement come together, from the filters of a query,
from one filter and a cursor, or from the ids of rows, every one of them can stand
beside any other.  So the text after WHERE is read as a condition that has, on
every row, the value of all of them joined by `Truth.and`.
-/

namespace SchemaStore

namespace Dialect

/-- A name that does not end in a line feed is read as it is. -/
theorem readName_eq {dialect : Dialect} {name : String}
    (unfed : name.toList.getLast? ≠ some '\n') : dialect.readName name = name := by
  have whole : withoutLineFeed name = name.toList := by
    rw [withoutLineFeed, if_neg (by simpa using unfed)]
  rw [readName, whole, String.ofList_toList, ite_self]

theorem legible_of_readName {dialect : Dialect} {name : String}
    (same : dialect.readName name = name) : dialect.Legible name := by
  intro plain
  rw [same]
  simp only [needsQuotes, Bool.or_eq_false_iff] at plain
  exact plain.1.1.1

end Dialect

/-- The tables of an entity can be told apart by their columns unless a name ends in a line feed. -/
theorem Entity.legible_table {entity : Entity} (distinct : entity.fields.keys.Nodup)
    (unfed : ∀ name ∈ entity.fields.keys, name.toList.getLast? ≠ some '\n') (schema : Schema)
    (traits : BackendTraits) (dialect : Dialect) :
    (entity.table schema traits).Legible dialect := by
  have columns : (entity.table schema traits).columns.map Column.name = entity.fields.keys := by
    simp only [Entity.table, Record.keys, List.map_map, Function.comp_def]
    apply List.map_congr_left
    intro entry member
    unfold Field.column
    split <;> rfl
  have named {column : Column} (member : column ∈ (entity.table schema traits).columns) :
      dialect.readName column.name = column.name :=
    Dialect.readName_eq (unfed column.name (columns ▸ List.mem_map_of_mem member))
  constructor
  · apply Dialect.legible_of_readName (Dialect.readName_eq _)
    simp [Entity.table, Entity.tableName, String.toList_append]
  · exact fun column member => Dialect.legible_of_readName (named member)
  · rw [List.map_congr_left fun column member => named member, columns]
    exact distinct

/-- The columns of an entity that was read from a text can be told apart. -/
theorem Entity.legible_of_parse {env : Record String} {text : String} {parsed : Dsl.Parsed}
    (accepted : Dsl.parse env text = .ok parsed) {entity : Entity}
    (member : entity ∈ parsed.schema.entities) (traits : BackendTraits) (dialect : Dialect) :
    (entity.table parsed.schema traits).Legible dialect := by
  apply entity.legible_table ((Dsl.parse_valid accepted).entities entity member).distinct
  intro name declared fed
  obtain ⟨⟨_, field⟩, known, rfl⟩ := List.mem_map.mp declared
  have identifier := (Dsl.parse_read accepted member known).name
  have inside := Dsl.isIdentifierChar_of_isIdentifier identifier (List.mem_of_getLast? fed)
  cases inside

/-- The queries that are built step by step on a model. -/
inductive Query.Built (model : Model) : Query → Prop where
  | all : Built model (.ofModel model)
  | matching {query next : Query} {filter : Value} :
      Built model query → query.matching filter = .ok next → Built model next
  | excluding {query next : Query} {filter : Value} :
      Built model query → query.excluding filter = .ok next → Built model next
  | limit {query next : Query} {value : Value} :
      Built model query → query.limit value = .ok next → Built model next
  | offset {query next : Query} {value : Value} :
      Built model query → query.offset value = .ok next → Built model next
  | orderBy {query next : Query} {field : Value} {direction : String} :
      Built model query → query.orderBy field direction = .ok next → Built model next
  | distinct {query : Query} : Built model query → Built model query.distinct

namespace Model

/-- The conditions of the statements that a model sends. -/
inductive States (model : Model) : List Clause → Prop where
  | filter {filter : Value} {conditions : List Clause} :
      model.condition filter = .ok conditions → States model conditions
  | query {query : Query} : query.Built model → States model query.select.criteria
  | search {search : Search} {select : Select} {includes : List Include} :
      model.statementOf search = .ok (select, includes) → States model select.criteria
  | page {filter field cursor : Value} {size : Nat} {select : Select} :
      model.pageStatement filter field cursor size = .ok select → States model select.criteria
  | row {column : ColumnRef} {id : Value} :
      model.idColumn = .ok column → States model [.compare .equal column id]
  | rows {column : ColumnRef} {ids : List Value} :
      model.idColumn = .ok column → States model [.member false column ids]

variable {model : Model} {conditions : List Clause}

theorem has_of_column {name : String} {column : ColumnRef}
    (known : model.column name = .ok column) : model.table.Has column := by
  obtain ⟨-, declared, member, same, -⟩ := column_eq_ref known
  exact ⟨declared, member, same⟩

theorem has_of_columnAt {position : Option Int} {column : ColumnRef}
    (known : model.columnAt position = .ok column) : model.table.Has column := by
  unfold columnAt at known
  split at known
  · split at known
    · next n declared found =>
        cases known
        split at found
        · cases found
        · exact ⟨declared, List.mem_of_getElem? found, rfl⟩
    · cases known
  · cases known

theorem has_of_columnOf {field : Value} {column : ColumnRef}
    (known : model.columnOf field = .ok column) : model.table.Has column := by
  unfold columnOf at known
  split at known
  · exact has_of_column known
  · exact has_of_columnAt known
  · exact has_of_columnAt known
  · exact has_of_columnAt known
  · cases known

theorem closed_condition {filter : Value} (accepted : model.condition filter = .ok conditions) :
    ∀ clause ∈ conditions, clause.Closed model.table := by
  have compiled := Except.mapError_eq_ok.mp accepted
  unfold Filter.compile? at compiled
  split at compiled
  · obtain ⟨clause, clauseCompiled, rfl⟩ := Except.map_eq_ok.mp compiled
    exact List.forall_mem_singleton.mpr (Filter.closed_compile clauseCompiled)
  · cases compiled
    simp

/-- Every step keeps the model of a query, and adds no condition that cannot stand beside the
others. -/
theorem closed_of_built {query : Query} (built : query.Built model) :
    query.model = model ∧ ∀ clause ∈ query.select.criteria, clause.Closed model.table := by
  have narrowed {query next : Query} {filter : Value}
      (same : query.model = model)
      (closed : ∀ clause ∈ query.select.criteria, clause.Closed model.table)
      (narrows : query.narrow <$> query.model.condition filter = .ok next) :
      next.model = model ∧ ∀ clause ∈ next.select.criteria, clause.Closed model.table := by
    obtain ⟨conditions, accepted, rfl⟩ := Except.map_eq_ok.mp narrows
    rw [same] at accepted
    exact ⟨same, List.forall_mem_append.mpr ⟨closed, closed_condition accepted⟩⟩
  induction built with
  | all => exact ⟨rfl, by simp [Query.ofModel, Select.all]⟩
  | matching _ accepted induction => exact narrowed induction.1 induction.2 accepted
  | excluding _ accepted induction =>
      unfold Query.excluding at accepted
      split at accepted
      · exact narrowed induction.1 induction.2 accepted
      · cases accepted
        exact induction
  | limit _ accepted induction =>
      obtain ⟨n, -, rfl⟩ := Except.map_eq_ok.mp accepted
      exact induction
  | offset _ accepted induction =>
      obtain ⟨n, -, rfl⟩ := Except.map_eq_ok.mp accepted
      exact induction
  | orderBy _ accepted induction =>
      unfold Query.orderBy at accepted
      dsimp only at accepted
      split at accepted
      · cases accepted
      · obtain ⟨column, -, rfl⟩ := Except.map_eq_ok.mp accepted
        exact induction
  | distinct _ induction => exact induction

theorem closed_boundary {column : ColumnRef} (known : model.table.Has column)
    (comparison : Comparison) (cursor : Value) :
    ∀ clause ∈ if cursor.isNull then [] else [Clause.compare comparison column cursor],
      clause.Closed model.table := by
  split
  · simp
  · exact List.forall_mem_singleton.mpr (.inr ⟨known, rfl⟩)

theorem closed_of_statementOf {search : Search} {select : Select} {includes : List Include}
    (stated : model.statementOf search = .ok (select, includes)) :
    ∀ clause ∈ select.criteria, clause.Closed model.table := by
  unfold statementOf at stated
  obtain ⟨outputs, -, stated⟩ := Except.bind_eq_ok.mp stated
  obtain ⟨⟨query, joined⟩, -, stated⟩ := Except.bind_eq_ok.mp stated
  obtain ⟨conditions, accepted, stated⟩ := Except.bind_eq_ok.mp stated
  obtain ⟨column, known, stated⟩ := Except.bind_eq_ok.mp stated
  dsimp only at stated
  split at stated
  · cases stated
  · cases stated
    exact List.forall_mem_append.mpr
      ⟨closed_condition accepted, closed_boundary (has_of_column known) _ _⟩

theorem closed_of_pageStatement {filter field cursor : Value} {size : Nat} {select : Select}
    (stated : model.pageStatement filter field cursor size = .ok select) :
    ∀ clause ∈ select.criteria, clause.Closed model.table := by
  unfold pageStatement at stated
  obtain ⟨column, known, stated⟩ := Except.bind_eq_ok.mp stated
  obtain ⟨conditions, accepted, stated⟩ := Except.bind_eq_ok.mp stated
  dsimp only at stated
  split at stated
  · cases stated
  · cases stated
    exact List.forall_mem_append.mpr
      ⟨closed_condition accepted, closed_boundary (has_of_columnOf known) _ _⟩

theorem States.closed (states : model.States conditions) :
    ∀ clause ∈ conditions, clause.Closed model.table := by
  cases states with
  | filter accepted => exact closed_condition accepted
  | query built => exact (closed_of_built built).2
  | search stated => exact closed_of_statementOf stated
  | page stated => exact closed_of_pageStatement stated
  | row known => exact List.forall_mem_singleton.mpr (.inr ⟨has_of_column known, rfl⟩)
  | rows known => exact List.forall_mem_singleton.mpr (.inr ⟨has_of_column known, rfl⟩)

end Model

theorem Clause.eq_nil_of_criteria {conditions : List Clause} (made : criteria conditions = none) :
    conditions = [] := by
  unfold criteria at made
  split at made
  · rfl
  · cases made
  · cases made

/-- The one clause that the conditions make up has the value of all of them. -/
theorem Clause.eval_criteria {conditions : List Clause} {clause : Clause}
    (made : criteria conditions = some clause) (cellOf : ColumnRef → Cell) :
    clause.eval cellOf = Truth.all (conditions.map (eval cellOf)) := by
  unfold criteria at made
  split at made
  · cases made
  · cases made
    simp [eval]
  · cases made
    exact eval_allOf cellOf _

namespace Sql

variable {dialect : Dialect} {table : Table}

/-- Conditions that can stand beside each other are read with the value of all of them. -/
theorem readWhere_closed (legible : table.Legible dialect) {conditions : List Clause}
    (closed : ∀ clause ∈ conditions, clause.Closed table) :
    ∃ read, readWhere dialect table (Select.renderCriteria dialect conditions) = some read ∧
      ∀ cellOf, read.elim .yes (·.eval cellOf) =
        Truth.all (conditions.map (Clause.eval cellOf)) := by
  unfold Select.renderCriteria
  cases made : Clause.criteria conditions with
  | none =>
      refine ⟨none, by cases dialect <;> rfl, fun cellOf => ?_⟩
      rw [Clause.eq_nil_of_criteria made]
      rfl
  | some clause =>
      obtain ⟨run, spells, -, disjunct⟩ :=
        reads_placed legible (Clause.placed_criteria closed made)
      obtain ⟨condition, read, means⟩ := disjunct.readFrom_eq
      have word : Spells dialect Unconstrained (.raw " WHERE ") [.keyword "where"] :=
        spells_text fun _ _ _ => by cases dialect <;> rfl
      have scanned := (word.followedBy spells).tokens_eq
      refine ⟨some condition, ?_, ?_⟩
      · dsimp only
        rw [readWhere, scanned]
        simp [read]
      · intro cellOf
        rw [Option.elim_some, means, Clause.eval_criteria made]

end Sql

/-- The text of the conditions of a statement is read, by the precedence of comparisons, NOT, AND
and OR, as a condition that has on every row the value of all of the built clauses together. -/
theorem Model.readWhere_states {model : Model} {conditions : List Clause}
    (legible : model.table.Legible model.dialect) (states : model.States conditions) :
    ∃ read,
      Sql.readWhere model.dialect model.table (Select.renderCriteria model.dialect conditions) =
          some read ∧
        ∀ cellOf, read.elim .yes (·.eval cellOf) =
          Truth.all (conditions.map (Clause.eval cellOf)) :=
  Sql.readWhere_closed legible states.closed

set_option maxRecDepth 4000 in
/-- Two filters of a query of users, of which one is negated, are kept apart. -/
theorem Model.readWhere_states_users :
    let entity : Entity :=
      ⟨"User", [("id", { type := .int, isId := true }), ("name", { type := .string }),
        ("age", { type := .int, isOptional := true })]⟩
    let model : Model := {
      schema := ⟨⟨.sqlite, "file:./dev.db", none⟩, [entity]⟩
      entity
      dialect := .sqlite
      settings := {}
      pool := 0 }
    let name : ColumnRef := ⟨"users", "name", .varchar⟩
    let age : ColumnRef := ⟨"users", "age", .integer⟩
    let given : Clause := .both (.compare .equal name (.text "Ann"))
      (.group (.either (.compare .greater age (.int 30)) (.compare .equal age .null)))
    let excluded : Clause := .negation true
      (.either (.compare .equal name (.text "Bob")) (.compare .equal age (.int 7)))
    let written := Select.renderCriteria model.dialect [given, excluded]
    model.table.Legible model.dialect ∧ model.States [given, excluded] ∧
      written.text = " WHERE users.name = ? AND (users.age > ? OR users.age IS NULL) " ++
        "AND NOT (users.name = ? OR users.age = ?)" ∧
      ∃ read, Sql.readWhere model.dialect model.table written = some read ∧
        ∀ cellOf, read.elim .yes (·.eval cellOf) =
          Truth.all ([given, excluded].map (Clause.eval cellOf)) := by
  intro entity model name age given excluded written
  have table : model.table = {
      name := "users"
      columns := [{ name := "id", type := .integer, isKey := true },
        { name := "name", type := .varchar },
        { name := "age", type := .integer, nullable := true }] } := by
    decide +kernel
  have legible : model.table.Legible model.dialect :=
    entity.legible_table (by decide) (by decide) _ _ _
  let first : Value := .object [("name", .text "Ann"),
    ("OR", .list [.object [("age", .object [("gt", .int 30)])], .object [("age", .null)]])]
  let second : Value := .object [("OR", .object [("name", .text "Bob"), ("age", .int 7)])]
  have nameKnown : Filter.readColumn model.table "name" = .ok name := by
    rw [table]
    rfl
  have ageKnown : Filter.readColumn model.table "age" = .ok age := by
    rw [table]
    rfl
  have matched : model.condition first = .ok [given] := by
    have read : Filter.read model.table first = .ok (.ofEntries [.test name (.equals (.text "Ann")),
        .any [.ofEntries [.test age (.comparisons [(.greater, .int 30)])],
          .ofEntries [.test age (.equals .null)]]]) := by
      simp only [first, Value.text, Value.list, Value.null, Filter.read, Filter.readEntries,
        Filter.readEntry, Filter.readBranches, Filter.readAll, Value.isMapping, List.all_cons,
        List.all_nil, Bool.and_self, if_true, String.reduceEq, imp_self, nameKnown, ageKnown]
      rfl
    rw [condition, Filter.compile?, Filter.compile, read]
    rfl
  have negated : model.condition (.object [("NOT", second)]) = .ok [excluded] := by
    have read : Filter.read model.table (.object [("NOT", second)]) = .ok (.ofEntries
        [.none [.ofEntries [.any [.ofEntries [.test name (.equals (.text "Bob"))],
          .ofEntries [.test age (.equals (.int 7))]]]]]) := by
      simp only [second, Value.text, Value.int, Filter.read, Filter.readEntries, Filter.readEntry,
        nameKnown, ageKnown]
      rfl
    rw [condition, Filter.compile?, Filter.compile, read]
    rfl
  have states : model.States [given, excluded] := by
    have narrowed : (Query.ofModel model).matching first =
        .ok ((Query.ofModel model).narrow [given]) := by
      change (Query.ofModel model).narrow <$> model.condition first = _
      rw [matched]
      rfl
    have built : ((Query.ofModel model).narrow [given]).excluding second =
        .ok (((Query.ofModel model).narrow [given]).narrow [excluded]) := by
      change ((Query.ofModel model).narrow [given]).narrow <$>
        model.condition (.object [("NOT", second)]) = _
      rw [negated]
      rfl
    exact .query ((Query.Built.all.matching narrowed).excluding built)
  exact ⟨legible, states, by decide +kernel, readWhere_states legible states⟩

end SchemaStore
