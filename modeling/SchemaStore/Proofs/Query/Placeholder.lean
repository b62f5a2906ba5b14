import SchemaStore.Proofs.Filter.Template
import SchemaStore.Proofs.Query.Pages
import SchemaStore.Query.Change

/-!
# Placeholders of statements

A model puts the clause of a filter into the first statement of a reading, or of the
look-up before a change.  Alike filters make statements of one text, and their
parameters are their own leaves at the same places, followed by what does not depend
on the filter.
-/

namespace SchemaStore

namespace BoundAlike

variable {places : List Nat} {leaves others rest : List Value} {sql other : Sql}

theorem after_raw (alike : BoundAlike places leaves others rest sql other) (text : String) :
    BoundAlike places leaves others rest (.raw text ++ sql) (.raw text ++ other) where
  text := congrArg (text ++ ·) alike.text
  params := alike.params
  otherParams := alike.otherParams

theorem append (alike : BoundAlike places leaves others rest sql other) (common : Sql) :
    BoundAlike places leaves others (rest ++ common.params) (sql ++ common) (other ++ common) where
  text := congrArg (· ++ common.text) alike.text
  params := by
    rw [Sql.params_append, List.map_append, alike.params, List.map_append, List.append_assoc]
  otherParams := by
    rw [Sql.params_append, List.map_append, alike.otherParams, List.map_append,
      List.append_assoc]

theorem refl (leaves others : List Value) (sql : Sql) :
    BoundAlike [] leaves others sql.params sql sql :=
  ⟨rfl, rfl, rfl⟩

end BoundAlike

namespace Clause

variable {dialect : Dialect} {places : List Nat} {leaves others rest : List Value}

theorem boundAlike_joinBoth {first other : Clause}
    (alike : BoundAlike places leaves others rest (first.render dialect) (other.render dialect))
    (clauses : List Clause) : ∃ more,
      BoundAlike places leaves others more ((joinBoth first clauses).render dialect)
        ((joinBoth other clauses).render dialect) := by
  induction clauses generalizing first other rest with
  | nil => exact ⟨rest, alike⟩
  | cons clause clauses induction =>
      exact induction ((alike.append (.raw " AND ")).append (clause.render dialect))

/-- A clause that is no constant stands before the further conditions of a statement. -/
theorem criteria_cons {clause : Clause} {boundary : List Clause}
    (varies : ∀ b, clause.isConstant b = false)
    (possible : boundary.any (isConstant false) = false) :
    criteria (clause :: boundary) = some
      (match boundary.filter (!isConstant true ·) with
        | [] => clause
        | kept => joinBoth clause.openConjunction (kept.map openConjunction)) := by
  have whole : criteria (clause :: boundary) = some (allOf (clause :: boundary)) := by
    unfold criteria
    split
    · contradiction
    · next b same =>
      cases same
      have constant := varies b
      simp [isConstant] at constant
    · rfl
  have first : (clause :: boundary).filter (!isConstant true ·) =
      clause :: boundary.filter (!isConstant true ·) := by
    simp [varies]
  rw [whole, allOf, List.any_cons, varies, possible, first]
  cases boundary.filter (!isConstant true ·) <;> rfl

theorem operands_openConjunction (clause : Clause) :
    clause.openConjunction.operands = clause.operands :=
  congrArg (List.map Parameter.value) (parameters_openConjunction clause)

theorem bound_openConjunction (kind : Value → OperandClass) (clause : Clause) :
    clause.openConjunction.bound kind = clause.bound kind := by
  unfold openConjunction
  split <;> rfl

end Clause

namespace Filter

variable {table : Table} {value other : Value} {filter otherFilter : Filter}

/-- Leaves of the same classes in the first condition of a statement. -/
theorem boundAlike_criteria {template : Clause} {leaves others : List Value}
    (same : List.Forall₂ SameClass leaves others)
    (placed : ∀ operand ∈ template.operands, ∃ place < leaves.length, operand = .place place)
    {boundary : List Clause} (possible : boundary.any (Clause.isConstant false) = false)
    (dialect : Dialect) : ∃ rest,
      BoundAlike
        ((template.bound fun operand => (leafAt leaves operand).operandClass).map placeOf)
        leaves others rest
        (Select.renderCriteria dialect (template.mapOperands (leafAt leaves) :: boundary))
        (Select.renderCriteria dialect (template.mapOperands (leafAt others) :: boundary)) := by
  by_cases constant : ∃ b, template = .constant b
  · obtain ⟨b, rfl⟩ := constant
    exact ⟨_, .refl leaves others _⟩
  · have varies (f : Value → Value) (b : Bool) :
        (template.mapOperands f).isConstant b = false := by
      rw [Clause.isConstant_mapOperands]
      cases template with
      | constant value => exact absurd ⟨value, rfl⟩ constant
      | _ => rfl
    rw [Select.renderCriteria, Select.renderCriteria, Clause.criteria_cons (varies _) possible,
      Clause.criteria_cons (varies _) possible]
    dsimp only
    cases boundary.filter (!Clause.isConstant true ·) with
    | nil => exact ⟨[], (boundAlike_mapOperands same placed dialect).after_raw " WHERE "⟩
    | cons clause kept =>
        have placedOpen : ∀ operand ∈ template.openConjunction.operands,
            ∃ place < leaves.length, operand = .place place := by
          rwa [Clause.operands_openConjunction]
        have opened := boundAlike_mapOperands same placedOpen dialect
        rw [Clause.bound_openConjunction, ← Clause.mapOperands_openConjunction,
          ← Clause.mapOperands_openConjunction] at opened
        obtain ⟨rest, joined⟩ := Clause.boundAlike_joinBoth opened
          ((clause :: kept).map Clause.openConjunction)
        exact ⟨rest, joined.after_raw " WHERE "⟩

end Filter

/-- The statement that a session executes first. -/
def Dialogue.opening? {α : Type} : Session α → Option Statement
  | .done _ => none
  | .ask (.execute _ statement) _ => some statement
  | .ask _ _ => none
  | .pause _ next => next.opening?
  | .note _ next => next.opening?

/-- The statement that a program executes first. -/
def Program.opening? {α : Type} (program : Program α) : Option Statement :=
  program.session.opening?

section Opening

variable {α β : Type} {statement : Statement}

theorem Dialogue.opening?_bind {session : Session α}
    (opens : session.opening? = some statement) (next : α → Session β) :
    (session.bind next).opening? = some statement := by
  induction session with
  | done result => cases opens
  | ask request rest _ =>
      cases request with
      | execute pool executed => exact opens
      | _ => cases opens
  | pause delay rest induction => exact induction opens
  | note entry rest induction => exact induction opens

theorem Program.opening?_bind {program : Program α} (opens : program.opening? = some statement)
    (next : α → Program β) : (program >>= next).opening? = some statement :=
  Dialogue.opening?_bind opens _

theorem Model.opening?_read {model : Model} {operation : Program α}
    (opens : operation.opening? = some statement) :
    (model.read operation).opening? = some statement := by
  apply Dialogue.opening?_bind
  unfold Program.session Program.ofSession Dialogue.retry
  cases model.readPolicy.attempts.toNat - 1 with
  | zero => exact opens
  | succ retries => exact Dialogue.opening?_bind opens _

theorem Model.opening?_fetch (model : Model) (query : Select) (includes : List Include) :
    (model.fetch query includes).opening? = some (.select query) :=
  Model.opening?_read rfl

theorem Model.opening?_fetchScalar (model : Model) (statement : Statement) :
    (model.fetchScalar statement).opening? = some statement :=
  Model.opening?_read rfl

end Opening

/-- Statements of one text, with the leaves at the same places as their first parameters. -/
def StatementsAlike (places : List Nat) (leaves others : List Value)
    (statement other : Statement) : Prop :=
  ∀ dialect, ∃ rest,
    BoundAlike places leaves others rest (statement.render dialect) (other.render dialect)

/-- Two programs fail at once for the same reason, or their first statements are alike. -/
def OpensAlike {α : Type} (places : List Nat) (leaves others : List Value)
    (program other : Program α) : Prop :=
  (∃ failure, program = Program.fail failure ∧ other = Program.fail failure) ∨
    ∃ statement otherStatement, program.opening? = some statement ∧
      other.opening? = some otherStatement ∧
      StatementsAlike places leaves others statement otherStatement

namespace OpensAlike

variable {α β : Type} {places : List Nat} {leaves others : List Value} {program other : Program α}

theorem bind (alike : OpensAlike places leaves others program other)
    (next otherNext : α → Program β) :
    OpensAlike places leaves others (program >>= next) (other >>= otherNext) := by
  rcases alike with ⟨failure, rfl, rfl⟩ | ⟨statement, otherStatement, opens, otherOpens, alike⟩
  · exact .inl ⟨failure, rfl, rfl⟩
  · exact .inr ⟨statement, otherStatement, Program.opening?_bind opens next,
      Program.opening?_bind otherOpens otherNext, alike⟩

theorem ofResult_bind {result : Except Failure α} {next otherNext : α → Program β}
    (alike : ∀ a, result = .ok a → OpensAlike places leaves others (next a) (otherNext a)) :
    OpensAlike places leaves others (Program.ofResult result >>= next)
      (Program.ofResult result >>= otherNext) := by
  cases result with
  | error failure => exact .inl ⟨failure, rfl, rfl⟩
  | ok a => exact alike a rfl

end OpensAlike

/-- Conditions that can be exchanged in front of the further conditions of a statement. -/
def ConditionsAlike (places : List Nat) (leaves others : List Value)
    (conditions otherConditions : List Clause) : Prop :=
  ∀ boundary : List Clause, boundary.any (Clause.isConstant false) = false →
    ∀ dialect, ∃ rest, BoundAlike places leaves others rest
      (Select.renderCriteria dialect (conditions ++ boundary))
      (Select.renderCriteria dialect (otherConditions ++ boundary))

namespace ConditionsAlike

variable {places : List Nat} {leaves others : List Value} {conditions otherConditions : List Clause}

theorem select (alike : ConditionsAlike places leaves others conditions otherConditions)
    (query : Select) (boundary : List Clause)
    (possible : boundary.any (Clause.isConstant false) = false) :
    StatementsAlike places leaves others
      (.select { query with criteria := conditions ++ boundary })
      (.select { query with criteria := otherConditions ++ boundary }) := by
  intro dialect
  obtain ⟨rest, criteria⟩ := alike boundary possible dialect
  exact ⟨_, ((criteria.after_raw _).append _).append _⟩

theorem count (alike : ConditionsAlike places leaves others conditions otherConditions)
    (table : Table) :
    StatementsAlike places leaves others (.count table conditions)
      (.count table otherConditions) := by
  intro dialect
  obtain ⟨rest, criteria⟩ := alike [] rfl dialect
  rw [List.append_nil, List.append_nil] at criteria
  exact ⟨rest, criteria.after_raw _⟩

end ConditionsAlike

namespace Filter

variable {table : Table} {value other : Value} {filter otherFilter : Filter}

theorem Alike.truthy (alike : Alike value other) : value.truthy = other.truthy := by
  cases alike with
  | ofEntries entriesAlike => cases entriesAlike <;> rfl

theorem boundPlaces_of_not_truthy (accepted : read table value = .ok filter)
    (empty : value.truthy = false) (leaves : List Value) : filter.boundPlaces leaves = [] := by
  cases value with
  | object entries =>
      cases entries with
      | nil =>
          rw [read, readEntries] at accepted
          cases accepted
          rfl
      | cons entry rest => cases empty
  | scalar s => rw [read] at accepted; cases accepted
  | sequence kind items => rw [read] at accepted; cases accepted

theorem conditions_alike (alike : Alike value other) (accepted : read table value = .ok filter)
    (otherAccepted : read table other = .ok otherFilter) (same : SameForm filter otherFilter) :
    ConditionsAlike (filter.boundPlaces (leaves value)) (leaves value) (leaves other)
      (if value.truthy then [filter.clause] else [])
      (if other.truthy then [otherFilter.clause] else []) := by
  intro boundary possible dialect
  rw [← alike.truthy]
  cases given : value.truthy with
  | true =>
      have placed := fun operand (member : operand ∈ filter.template.operands) =>
        exists_place_of_template accepted member
      rw [clause_eq_template accepted, clause_eq_template otherAccepted, ← template_alike same]
      exact boundAlike_criteria (leaves_alike accepted otherAccepted same) placed possible dialect
  | false =>
      rw [boundPlaces_of_not_truthy accepted given]
      exact ⟨_, .refl _ _ _⟩

end Filter

namespace Model

variable {model : Model} {value other : Value} {places : List Nat} {leaves others : List Value}
  {conditions otherConditions : List Clause}

theorem condition_null (model : Model) : model.condition .null = .ok [] := rfl

/-- The conditions of a filter stand before those of the search without it. -/
theorem statementOf_filter (search : Search) (accepted : model.condition value = .ok conditions) :
    model.statementOf { search with filter := value } =
      (fun (query, includes) =>
        ({ query with criteria := conditions ++ query.criteria }, includes)) <$>
        model.statementOf { search with filter := .null } := by
  unfold statementOf
  cases model.outputs search.fields with
  | error failure => rfl
  | ok outputs =>
      simp only [Except.ok_bind]
      cases model.addIncludes ({ table := model.table, outputs }, []) search.includes with
      | error failure => rfl
      | ok joined =>
          rw [Except.ok_bind, Except.ok_bind, accepted, condition_null, Except.ok_bind,
            Except.ok_bind]
          cases model.column search.page.orderBy with
          | error failure => rfl
          | ok column =>
              rw [Except.ok_bind, Except.ok_bind]
              split <;> rfl

/-- Without a filter, a search is bounded by its cursor at most. -/
theorem criteria_without_filter {search : Search} {query : Select} {includes : List Include}
    (stated : model.statementOf { search with filter := .null } = .ok (query, includes)) :
    query.criteria.any (Clause.isConstant false) = false := by
  unfold statementOf at stated
  obtain ⟨outputs, -, stated⟩ := Except.bind_eq_ok.mp stated
  obtain ⟨joined, -, stated⟩ := Except.bind_eq_ok.mp stated
  obtain ⟨conditions, accepted, stated⟩ := Except.bind_eq_ok.mp stated
  obtain ⟨column, known, stated⟩ := Except.bind_eq_ok.mp stated
  rw [condition_null] at accepted
  cases accepted
  dsimp only at stated
  split at stated
  · cases stated
  · cases stated
    dsimp only
    split <;> rfl

section Uses

variable (alike : ConditionsAlike places leaves others conditions otherConditions)
  (accepted : model.condition value = .ok conditions)
  (otherAccepted : model.condition other = .ok otherConditions)

include alike accepted otherAccepted

theorem findMany_alike (search : Search) :
    OpensAlike places leaves others (model.findMany { search with filter := value })
      (model.findMany { search with filter := other }) := by
  unfold findMany
  rw [statementOf_filter search accepted, statementOf_filter search otherAccepted]
  cases stated : model.statementOf { search with filter := .null } with
  | error failure => exact .inl ⟨failure, rfl, rfl⟩
  | ok both =>
      obtain ⟨query, includes⟩ := both
      exact .inr ⟨_, _, opening?_fetch _ _ includes, opening?_fetch _ _ includes,
        alike.select query _ (criteria_without_filter stated)⟩

theorem count_alike :
    OpensAlike places leaves others (model.count value) (model.count other) := by
  unfold count
  rw [accepted, otherAccepted]
  exact .inr ⟨_, _, opening?_fetchScalar _ _, opening?_fetchScalar _ _, alike.count model.table⟩

theorem matchingIds_alike :
    OpensAlike places leaves others (model.matchingIds value) (model.matchingIds other) := by
  apply OpensAlike.ofResult_bind
  intro column known
  rw [accepted, otherAccepted]
  have statements := alike.select { table := model.table, outputs := [⟨column, none⟩] } [] rfl
  rw [List.append_nil, List.append_nil] at statements
  exact OpensAlike.bind
    (.inr ⟨_, _, opening?_fetch _ _ [], opening?_fetch _ _ [], statements⟩) _ _

theorem updateMany_alike (data : Value) :
    OpensAlike places leaves others (model.updateMany value data)
      (model.updateMany other data) := by
  apply OpensAlike.ofResult_bind
  intro values valuesGiven
  dsimp only
  split
  · exact .inl ⟨_, rfl, rfl⟩
  · exact OpensAlike.bind (matchingIds_alike alike accepted otherAccepted) _ _

theorem delete_alike (sameTruth : value.truthy = other.truthy) :
    OpensAlike places leaves others (model.delete value) (model.delete other) := by
  unfold delete requireFilter
  rw [← sameTruth]
  split
  · have lookedUp := findMany_alike alike accepted otherAccepted
      { model.search .null .null .null with ordered := true }
    exact OpensAlike.bind lookedUp _ _
  · exact .inl ⟨_, rfl, rfl⟩

end Uses

/-- The values of a filter do not reach the text of a clause or statement.  Filters of one shape,
with values of the same classes, are accepted together; the texts are the same, and there is one
sequence of places at which each filter has its parameters.  These are places of leaves that
stand in the clause, among them all leaves that are not null, true or false. -/
theorem statements_alike {clause : Clause} (alike : Filter.Alike value other)
    (accepted : Filter.compile model.table value = .ok clause) :
    ∃ (otherClause : Clause) (shown kept : List Nat),
      Filter.compile model.table other = .ok otherClause ∧
      clause.operands.map some = shown.map ((Filter.leaves value)[·]?) ∧
      otherClause.operands.map some = shown.map ((Filter.leaves other)[·]?) ∧
      kept.Sublist shown ∧
      (∀ place ∈ shown, ∀ leaf, (Filter.leaves value)[place]? = some leaf →
        leaf.operandClass = .other → place ∈ kept) ∧
      (∀ dialect, BoundAlike kept (Filter.leaves value) (Filter.leaves other) []
        (clause.render dialect) (otherClause.render dialect)) ∧
      (∀ search : Search, OpensAlike kept (Filter.leaves value) (Filter.leaves other)
        (model.findMany { search with filter := value })
        (model.findMany { search with filter := other })) ∧
      OpensAlike kept (Filter.leaves value) (Filter.leaves other)
        (model.count value) (model.count other) ∧
      (∀ data, OpensAlike kept (Filter.leaves value) (Filter.leaves other)
        (model.updateMany value data) (model.updateMany other data)) ∧
      OpensAlike kept (Filter.leaves value) (Filter.leaves other)
        (model.delete value) (model.delete other) := by
  obtain ⟨filter, filterRead, rfl⟩ := Except.map_eq_ok.mp accepted
  obtain ⟨otherFilter, otherRead, same⟩ := Filter.read_alike alike filterRead
  have conditionsAlike := Filter.conditions_alike alike filterRead otherRead same
  have conditions := condition_of_read filterRead
  have otherConditions := condition_of_read otherRead
  have placed := fun operand (member : operand ∈ filter.template.operands) =>
    Filter.exists_place_of_template filterRead member
  refine ⟨otherFilter.clause, filter.shownPlaces, filter.boundPlaces (Filter.leaves value),
    Except.map_eq_ok.mpr ⟨otherFilter, otherRead, rfl⟩, Filter.operands_clause filterRead, ?_,
    filter.boundPlaces_sublist _, ?_, ?_,
    findMany_alike conditionsAlike conditions otherConditions,
    count_alike conditionsAlike conditions otherConditions,
    updateMany_alike conditionsAlike conditions otherConditions,
    delete_alike conditionsAlike conditions otherConditions alike.truthy⟩
  · rw [Filter.operands_clause otherRead, Filter.shownPlaces, Filter.shownPlaces,
      Filter.template_alike same]
  · intro place shown leaf found unwritten
    exact Filter.mem_boundPlaces filterRead shown found unwritten
  · intro dialect
    rw [Filter.clause_eq_template filterRead, Filter.clause_eq_template otherRead,
      ← Filter.template_alike same]
    exact Filter.boundAlike_mapOperands (Filter.leaves_alike filterRead otherRead same) placed
      dialect

set_option maxRecDepth 4000 in
/-- A harmless and a hostile filter of one shape; of the first name nothing is left, since another
branch always holds. -/
theorem statements_alike_users :
    let entity : Entity :=
      ⟨"User", [("id", { type := .int, isId := true }), ("name", { type := .string }),
        ("age", { type := .int, isOptional := true })]⟩
    let model : Model := {
      schema := ⟨⟨.sqlite, "file:./dev.db", none⟩, [entity]⟩
      entity
      dialect := .sqlite
      settings := {}
      pool := 0 }
    let filter (first second : String) : Value := .object
      [("OR", .list [.object [("name", .text first)], .object [("AND", .list [])]]),
        ("name", .object [("not", .text second)]), ("NOT", .object [("age", .null)])]
    let plain := filter "Ann" "Bob"
    let hostile := filter "%s' OR '1'='1" "x'; DROP TABLE users; --"
    let clause (second : String) : Clause :=
      .both (.both (.settled true) (.compare .notEqual ⟨"users", "name", .varchar⟩ (.text second)))
        (.compare .notEqual ⟨"users", "age", .integer⟩ .null)
    Filter.Alike plain hostile ∧
      Filter.compile model.table plain = .ok (clause "Bob") ∧
      ((clause "Bob").render .sqlite).text =
        "1 = 1 AND users.name != ? AND users.age IS NOT NULL" ∧
      ∃ (otherClause : Clause) (shown kept : List Nat),
        Filter.compile model.table hostile = .ok otherClause ∧ kept.Sublist shown ∧
        BoundAlike kept (Filter.leaves plain) (Filter.leaves hostile) []
          ((clause "Bob").render .sqlite) (otherClause.render .sqlite) ∧
        OpensAlike kept (Filter.leaves plain) (Filter.leaves hostile)
          (model.delete plain) (model.delete hostile) := by
  intro entity model filter plain hostile clause
  have alike : Filter.Alike plain hostile :=
    .ofEntries (.cons
      (.branches rfl (.cons (.ofEntries (.cons (.field rfl (.single rfl)) .nil))
        (.cons (.ofEntries (.cons (.branches rfl .nil) .nil)) .nil)))
      (.cons (.field rfl (.operators (.cons ⟨rfl, rfl⟩ .nil)))
        (.cons (.branch rfl (.ofEntries (.cons (.field rfl (.single rfl)) .nil))) .nil)))
  have table : model.table = {
      name := "users"
      columns := [{ name := "id", type := .integer, isKey := true },
        { name := "name", type := .varchar },
        { name := "age", type := .integer, nullable := true }] } := by
    decide +kernel
  let name : ColumnRef := ⟨"users", "name", .varchar⟩
  let age : ColumnRef := ⟨"users", "age", .integer⟩
  have nameKnown : Filter.readColumn model.table "name" = .ok name := by
    rw [table]
    rfl
  have ageKnown : Filter.readColumn model.table "age" = .ok age := by
    rw [table]
    rfl
  have accepted : Filter.compile model.table plain = .ok (clause "Bob") := by
    have read : Filter.read model.table plain = .ok (.ofEntries
        [.any [.ofEntries [.test name (.equals (.text "Ann"))], .ofEntries [.all []]],
          .test name (.comparisons [(.notEqual, .text "Bob")]),
          .none [.ofEntries [.test age (.equals .null)]]]) := by
      simp only [plain, filter, Value.text, Value.list, Value.null, Filter.read,
        Filter.readEntries, Filter.readEntry, Filter.readBranches, Filter.readAll,
        Value.isMapping, List.all_cons, List.all_nil, Bool.and_self, if_true, String.reduceEq,
        imp_self, nameKnown, ageKnown]
      rfl
    rw [Filter.compile, read]
    rfl
  obtain ⟨otherClause, shown, kept, otherAccepted, -, -, within, -, written, -, -, -, deletion⟩ :=
    statements_alike alike accepted
  exact ⟨alike, accepted, by decide +kernel, otherClause, shown, kept, otherAccepted, within,
    written .sqlite, deletion⟩

end Model
end SchemaStore
