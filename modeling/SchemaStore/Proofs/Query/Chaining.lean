import SchemaStore.Proofs.Query.Counting
import SchemaStore.Proofs.Query.Windows

/-!
# Chains as searches

Filters, limits, offsets and one order can be put on a query in any sequence.  The filters hold
together, and of the limits and the offsets the last ones stand.  If the order tells the rows
apart, the query gives what one search gives that is asked for the conjunction of the filters.
-/

namespace SchemaStore

open SchemaStore.Except (Succeeds)

section Conjunction

variable {model : Model} {filters : List Value} {conditions : List (List Clause)}

/-- The filter that all of several filters match. -/
def Value.conjunction (kind : SequenceKind) (filters : List Value) : Value :=
  .object [("AND", .sequence kind filters)]

/-- Up to constants that hold, the conditions of a mapping are the clause of its filter. -/
theorem Model.condition_mapping {filter : Value} {clauses : List Clause}
    (mapping : filter.isMapping = true) (accepted : model.condition filter = .ok clauses) :
    ∃ read, Filter.read model.table filter = .ok read ∧
      clauses.filter (!Clause.isConstant true ·) =
        [read.clause].filter (!Clause.isConstant true ·) := by
  have compiled := Except.mapError_eq_ok.mp accepted
  unfold Filter.compile? at compiled
  split at compiled
  · obtain ⟨clause, clauseCompiled, rfl⟩ := Except.map_eq_ok.mp compiled
    obtain ⟨read, filterRead, rfl⟩ := Except.map_eq_ok.mp clauseCompiled
    exact ⟨read, filterRead, rfl⟩
  · next empty =>
    cases compiled
    cases filter with
    | object entries =>
        cases entries with
        | nil =>
            refine ⟨.ofEntries [], ?_, rfl⟩
            rw [Filter.read, Filter.readEntries]
            rfl
        | cons entry rest => exact absurd rfl empty
    | scalar s => cases mapping
    | sequence kind items => cases mapping

theorem Model.readAll_mappings (mappings : ∀ filter ∈ filters, filter.isMapping = true)
    (accepted : filters.mapM model.condition = .ok conditions) :
    ∃ reads, Filter.readAll model.table filters = .ok reads ∧
      conditions.flatten.filter (!Clause.isConstant true ·) =
        (Filter.clauseList reads).filter (!Clause.isConstant true ·) := by
  induction filters generalizing conditions with
  | nil =>
      cases accepted
      exact ⟨[], by rw [Filter.readAll], rfl⟩
  | cons filter rest induction =>
      obtain ⟨mapping, others⟩ := List.forall_mem_cons.mp mappings
      rw [List.mapM_cons] at accepted
      obtain ⟨clauses, first, followed⟩ := Except.bind_eq_ok.mp accepted
      obtain ⟨later, ran, made⟩ := Except.bind_eq_ok.mp followed
      cases made
      obtain ⟨read, filterRead, same⟩ := condition_mapping mapping first
      obtain ⟨reads, allRead, sameLater⟩ := induction others ran
      refine ⟨read :: reads, ?_, ?_⟩
      · rw [Filter.readAll, filterRead, allRead]
        rfl
      · rw [List.flatten_cons, List.filter_append, same, sameLater, ← List.filter_append]
        rfl

/-- Filters that are accepted one by one are accepted together, as the conjunction of their
conditions. -/
theorem Model.condition_conjunction (kind : SequenceKind)
    (mappings : ∀ filter ∈ filters, filter.isMapping = true)
    (accepted : filters.mapM model.condition = .ok conditions) :
    ∃ clauses, model.condition (.conjunction kind filters) = .ok [Clause.conjoin clauses] ∧
      conditions.flatten.filter (!Clause.isConstant true ·) =
        clauses.filter (!Clause.isConstant true ·) := by
  obtain ⟨reads, allRead, same⟩ := readAll_mappings mappings accepted
  refine ⟨Filter.clauseList reads, ?_, same⟩
  have entry : Filter.readEntry model.table "AND" (.sequence kind filters) = .ok (.all reads) := by
    rw [Filter.readEntry, Filter.readBranches, if_pos (List.all_eq_true.mpr mappings), allRead]
    rfl
  exact condition_of_read (Filter.read_single entry)

end Conjunction

namespace Clause

variable {conditions others : List Clause}
  (same : conditions.filter (!isConstant true ·) = others.filter (!isConstant true ·))

include same

/-- Constants that hold bind nothing. -/
theorem boundParameters_congr : boundParameters conditions = boundParameters others := by
  have settled (clauses : List Clause) :
      (clauses.filter (!isConstant true ·)).any (isConstant false) =
        clauses.any (isConstant false) := by
    rw [List.any_filter]
    congr 1
    funext clause
    cases clause with
    | constant value => cases value <;> rfl
    | _ => rfl
  rw [boundParameters_eq, boundParameters_eq, openParameters, openParameters,
    ← settled conditions, ← settled others, ← flatMap_parameters_filter true conditions,
    ← flatMap_parameters_filter true others, same]

/-- The conditions hold where their conjunction does. -/
theorem holdAll_conjoin (cellOf : ColumnRef → Cell) :
    holdAll cellOf conditions = ((conjoin others).eval cellOf).holds := by
  have together (clauses : List Clause) :
      holdAll cellOf clauses = (Truth.all (clauses.map (eval cellOf))).holds := by
    rw [holdAll_eq_all, Truth.holds_all, List.all_map]
    rfl
  rw [together, eval_conjoin, ← all_filter_constant, same, all_filter_constant]

theorem boundParameters_conjoin : boundParameters conditions = (conjoin others).parameters := by
  rw [boundParameters_congr same, boundParameters_eq, parameters_conjoin]

end Clause

namespace Query

namespace Step

/-- The filter that a step keeps the matching rows of. -/
def filter? : Step → Option Value
  | .matching filter => some filter
  | _ => none

/-- The number of rows that a step leaves out. -/
def offset? : Step → Option Nat
  | .offset value => (amount "offset" value).toOption
  | _ => none

/-- The field and the direction that a step orders by. -/
def ordering? : Step → Option (Value × String)
  | .orderBy field direction => some (field, direction)
  | _ => none

/-- Steps that keep matching rows, order them or cut a part out of them. -/
def isPlain : Step → Bool
  | .excluding _ | .distinct => false
  | _ => true

end Step

/-- The offset that stands after steps. -/
def lastOffset (steps : List Step) : Option Nat :=
  (steps.filterMap Step.offset?).getLast?

/-- The order that a field and a direction ask for. -/
def ordering (model : Model) : Value × String → Except Failure OrderTerm
  | (field, direction) =>
      let word := Text.lower direction
      match Direction.all.find? (·.label == word) with
      | none => .error (.validation ("Unknown order direction '" ++ word ++ "'"))
      | some direction => do return ⟨← model.columnOf field, direction == .ascending⟩

/-- A query with more conditions and orders, and with another limit and offset if they are given. -/
def extend (query : Query) (conditions : List Clause) (orderings : List OrderTerm)
    (limit offset : Option Nat) : Query :=
  { query with
    select.criteria := query.select.criteria ++ conditions
    select.orderings := query.select.orderings ++ orderings
    select.limit := limit.or query.select.limit
    select.offset := offset.or query.select.offset }

section Chain

variable {model : Model} {query next : Query} {taken : Step} {steps : List Step}

theorem extend_extend (query : Query) (conditions others : List Clause)
    (orderings further : List OrderTerm) (limit offset later last : Option Nat) :
    (query.extend conditions orderings limit offset).extend others further later last =
      query.extend (conditions ++ others) (orderings ++ further) (later.or limit)
        (last.or offset) := by
  simp [extend, List.append_assoc, Option.or_assoc]

/-- What a plain step does to a query. -/
theorem step_extend (plain : taken.isPlain = true) (stepped : query.step taken = .ok next) :
    ∃ conditions orderings,
      taken.filter?.toList.mapM query.model.condition = .ok conditions ∧
      taken.ordering?.toList.mapM (ordering query.model) = .ok orderings ∧
      next = query.extend conditions.flatten orderings taken.limit? taken.offset? := by
  cases taken with
  | matching filter =>
      obtain ⟨clauses, accepted, rfl⟩ := Except.map_eq_ok.mp stepped
      refine ⟨[clauses], [], ?_, rfl, ?_⟩
      · exact Except.mapM_eq_ok.mpr (by simp [Step.filter?, accepted])
      · simp [extend, narrow, Step.limit?, Step.offset?]
  | limit value =>
      obtain ⟨n, read, rfl⟩ := Except.map_eq_ok.mp stepped
      have taken : (amount "limit" value).toOption = some n := by rw [read]; rfl
      refine ⟨[], [], rfl, rfl, ?_⟩
      simp [extend, Step.limit?, Step.offset?, taken]
  | offset value =>
      obtain ⟨n, read, rfl⟩ := Except.map_eq_ok.mp stepped
      have taken : (amount "offset" value).toOption = some n := by rw [read]; rfl
      refine ⟨[], [], rfl, rfl, ?_⟩
      simp [extend, Step.limit?, Step.offset?, taken]
  | orderBy field direction =>
      unfold step orderBy at stepped
      dsimp only at stepped
      split at stepped
      · cases stepped
      · next toward known =>
        obtain ⟨column, named, rfl⟩ := Except.map_eq_ok.mp stepped
        refine ⟨[], [⟨column, toward == .ascending⟩], rfl, ?_, ?_⟩
        · refine Except.mapM_eq_ok.mpr ?_
          simp only [Step.ordering?, Option.toList_some, List.map_cons, List.map_nil, ordering,
            known, named]
          rfl
        · simp [extend, Step.limit?, Step.offset?]
  | excluding filter => cases plain
  | distinct => cases plain

theorem filterMap_cons_eq {α β : Type} (f : α → Option β) (item : α) (items : List α) :
    (item :: items).filterMap f = (f item).toList ++ items.filterMap f := by
  cases known : f item <;> simp [known]

theorem getLast?_filterMap_cons {α β : Type} (f : α → Option β) (item : α) (items : List α) :
    ((item :: items).filterMap f).getLast? = ((items.filterMap f).getLast?).or (f item) := by
  rw [filterMap_cons_eq, List.getLast?_append]
  cases f item <;> rfl

/-- What plain steps do to a query: their conditions and orders add up, and the last limit and the
last offset stand. -/
theorem steps_extend (plain : ∀ taken ∈ steps, taken.isPlain = true)
    (ran : steps.foldlM step query = .ok next) :
    ∃ conditions orderings,
      (steps.filterMap Step.filter?).mapM query.model.condition = .ok conditions ∧
      (steps.filterMap Step.ordering?).mapM (ordering query.model) = .ok orderings ∧
      next = query.extend conditions.flatten orderings (lastLimit steps) (lastOffset steps) := by
  induction steps generalizing query with
  | nil =>
      cases ran
      exact ⟨[], [], rfl, rfl, by simp [extend, lastLimit, lastOffset]⟩
  | cons taken rest induction =>
      obtain ⟨here, later⟩ := List.forall_mem_cons.mp plain
      rw [List.foldlM_cons] at ran
      obtain ⟨between, stepped, others⟩ := Except.bind_eq_ok.mp ran
      obtain ⟨conditions, orderings, accepted, ordered, rfl⟩ := step_extend here stepped
      obtain ⟨further, last, acceptedLater, orderedLater, rfl⟩ := induction later others
      refine ⟨conditions ++ further, orderings ++ last, ?_, ?_, ?_⟩
      · rw [filterMap_cons_eq]
        exact Except.mapM_append_eq_ok accepted acceptedLater
      · rw [filterMap_cons_eq]
        exact Except.mapM_append_eq_ok ordered orderedLater
      · rw [extend_extend, List.flatten_append, lastLimit, lastLimit, lastOffset, lastOffset,
          getLast?_filterMap_cons, getLast?_filterMap_cons]

/-- Plain steps of which one orders the rows lead from all rows to the statement of a window. -/
theorem chain_window {field word : String} (plain : ∀ taken ∈ steps, taken.isPlain = true)
    (one : steps.filterMap Step.ordering? = [(.text field, word)])
    (ran : chain model steps = .ok query) :
    ∃ conditions column direction,
      (steps.filterMap Step.filter?).mapM model.condition = .ok conditions ∧
      model.column field = .ok column ∧
      Direction.all.find? (·.label == Text.lower word) = some direction ∧
      query = ⟨model, model.windowQuery conditions.flatten column direction (lastOffset steps)
        (lastLimit steps) .null⟩ := by
  obtain ⟨conditions, orderings, accepted, ordered, rfl⟩ := steps_extend plain ran
  rw [one] at ordered
  obtain ⟨term, asked, rest⟩ := Except.bind_eq_ok.mp ordered
  cases rest
  dsimp only [ordering] at asked
  split at asked
  · cases asked
  · next direction known =>
    obtain ⟨column, named, rfl⟩ := Except.map_eq_ok.mp asked
    refine ⟨conditions, column, direction, accepted, named, known, ?_⟩
    simp [extend, ofModel, Select.all, Model.windowQuery, Model.bounds, Value.isNull, Value.null]

end Chain

end Query

namespace Model

variable {State : Type} {backend : Backend State} {state : State} {model : Model}
  {database : Database} {tables : List StoredTable} {filter : Value} {column : ColumnRef}
  {direction : Direction} {query other : Select}

/-- A statement in a direction of a column that tells the matching rows apart gives them in the
one order that they can stand in. -/
theorem scopes_towards (whole : query.Whole model.table) (plain : query.distinct = false)
    (ordered : query.orderings = [⟨column, direction == .ascending⟩])
    (own : column.source = model.table.name)
    (holds : ∀ row, Clause.holdAll (rowScope model.table row).cell query.criteria =
      model.matchesRow filter row)
    (distinct : (model.matching tables filter).Pairwise fun first second =>
      (CellRow.cell first column.name).compare (CellRow.cell second column.name) ≠ .eq) :
    query.scopes tables = (Select.slice query.limit query.offset
      (model.matchingTowards tables filter column.name direction)).map (rowScope model.table) := by
  let rows := (query.visited tables).filter (model.matchesRow filter)
  have kept : ((query.visited tables).filter fun row =>
      Clause.holdAll (rowScope query.table row).cell query.criteria) = rows := by
    rw [whole.own]
    simp only [holds]
    rfl
  have matched : rows.Perm (model.matching tables filter) :=
    visited_matching tables filter whole.own
  have apart := matched.symm.pairwise distinct (compare_ne_symm (CellRow.cell · column.name))
  have sorted : sortedBy (CellRow.cell · column.name) rows =
      model.matchingBy tables filter column.name :=
    sortedBy_eq _ ((sortedBy_perm _ _).trans matched.symm) (sortedBy_pairwise _ distinct)
  have source : column.source = query.table.name := by rw [whole.own, own]
  rw [Select.scopes_of_directed direction whole.joins plain ordered source (kept ▸ apart), kept,
    sorted, whole.own]
  rfl

/-- Leaving out no rows is leaving none out. -/
theorem slice_filter {α : Type} (limit offset : Option Nat) (items : List α) :
    Select.slice limit (offset.filter (· != 0)) items = Select.slice limit offset items := by
  match offset with
  | none => rfl
  | some 0 => rfl
  | some (n + 1) => rfl

theorem statementOf_window_null {conditions : List Clause}
    (known : model.column column.name = .ok column)
    (accepted : model.condition filter = .ok conditions) (skip take : Option Nat) :
    model.statementOf (.window filter column.name direction skip take .null) =
      .ok (model.windowQuery conditions column direction (skip.filter (· != 0)) take .null,
        []) := by
  match skip with
  | none => exact statementOf_window known accepted nofun fun _ => rfl
  | some 0 =>
      have same : model.statementOf (.window filter column.name direction (some 0) take .null) =
        model.statementOf (.window filter column.name direction none take .null) := rfl
      rw [same]
      exact statementOf_window known accepted nofun fun _ => rfl
  | some (n + 1) =>
      apply statementOf_window known accepted _ fun _ => rfl
      intro same
      cases same

end Model

/-- The arguments that ask for a part of the rows in an order. -/
def Search.orderedArguments (filter : Value) (field word : String) (skip take : Option Nat) :
    Record Value :=
  [("where", filter), ("order_by", .text field), ("direction", .text word),
    ("skip", .ofAmount skip), ("take", .ofAmount take)]

theorem Search.ofInput_orderedArguments {idField field word : String} {filter : Value}
    {direction : Direction} {skip take : Option Nat} (named : field ≠ "")
    (known : Direction.all.find? (·.label == Text.lower word) = some direction) :
    Search.ofInput idField (orderedArguments filter field word skip take) =
      .ok (.window filter field direction skip take .null) := by
  have towards : Direction.ofInput (.text word) = .ok direction := by
    unfold Value.text Direction.ofInput Reader.choice
    dsimp only [Value.text]
    rw [known]
  have page : PageRequest.ofInput (.object [
      ("order_by", if (Value.text field).truthy then .text field else .text idField),
      ("direction", .text word), ("skip", .ofAmount skip), ("take", .ofAmount take),
      ("cursor", .null)]) = .ok { orderBy := field, direction, skip, take, cursor := .null } := by
    rw [orderBy_named named]
    exact PageRequest.ofInput_window towards (.inl rfl)
  exact Except.bind_eq_ok.mpr ⟨_, page, rfl⟩

namespace Select

variable {table : Table} {query other : Select} {tables : List StoredTable} {items : List Row}

/-- Two statements with all columns of a table give the same if they give the same rows and the
parameters of both can be bound or those of neither. -/
theorem Whole.rows_congr (whole : query.Whole table) (same : other.Whole table)
    (bound : (∀ parameter ∈ query.parameters, Succeeds parameter.cell) ↔
      ∀ parameter ∈ other.parameters, Succeeds parameter.cell)
    (scopes : query.scopes tables = other.scopes tables) :
    query.rows tables = .ok items ↔ other.rows tables = .ok items := by
  rw [rows_eq_ok, rows_eq_ok, check_eq_ok, check_eq_ok, whole.checkNames_iff, same.checkNames_iff,
    bound, scopes, whole.rowOf_eq, same.rowOf_eq]

/-- That no rows are left out can be bound. -/
theorem bound_filter (offset : Option Nat) :
    (∀ parameter ∈ amountParameter (offset.filter (· != 0)), Succeeds parameter.cell) ↔
      ∀ parameter ∈ amountParameter offset, Succeeds parameter.cell := by
  match offset with
  | none => exact Iff.rfl
  | some 0 => exact iff_of_true (List.forall_mem_nil _) (by decide)
  | some (n + 1) => exact Iff.rfl

end Select

namespace Model

variable {model : Model} {filter : Value} {column : ColumnRef} {direction : Direction}
  {conditions clauses : List Clause} {tables : List StoredTable} {items : List Row}

theorem whole_windowQuery (known : model.column column.name = .ok column)
    (closed : ∀ clause ∈ conditions, clause.Closed model.table) (direction : Direction)
    (skip take : Option Nat) :
    (model.windowQuery conditions column direction skip take .null).Whole model.table where
  own := rfl
  outputs := rfl
  joins := rfl
  closed := List.forall_mem_append.mpr ⟨closed, List.forall_mem_nil _⟩
  ordered := by
    intro term member
    rw [List.mem_singleton.mp member]
    exact has_of_column known

/-- A window of the rows that fulfil several conditions is one of the rows that fulfil their
conjunction. -/
theorem rows_windowQuery_conjoin (known : model.column column.name = .ok column)
    (closed : ∀ clause ∈ conditions, clause.Closed model.table)
    (accepted : model.condition filter = .ok [Clause.conjoin clauses])
    (same : conditions.filter (!Clause.isConstant true ·) =
      clauses.filter (!Clause.isConstant true ·))
    (distinct : (model.matching tables filter).Pairwise fun first second =>
      (CellRow.cell first column.name).compare (CellRow.cell second column.name) ≠ .eq)
    (skip take : Option Nat) :
    (model.windowQuery conditions column direction skip take .null).rows tables = .ok items ↔
      (model.windowQuery [Clause.conjoin clauses] column direction (skip.filter (· != 0)) take
        .null).rows tables = .ok items := by
  let several := model.windowQuery conditions column direction skip take .null
  let single := model.windowQuery [Clause.conjoin clauses] column direction
    (skip.filter (· != 0)) take .null
  have severalWhole : several.Whole model.table := whole_windowQuery known closed ..
  have singleWhole : single.Whole model.table :=
    whole_windowQuery known (closed_condition accepted) ..
  have unbounded : several.criteria = conditions := List.append_nil conditions
  have conjoined := holds_conditions accepted
  have holdsSeveral (row : CellRow) : Clause.holdAll (rowScope model.table row).cell
      several.criteria = model.matchesRow filter row := by
    rw [unbounded, Clause.holdAll_conjoin same, ← conjoined row, List.all_cons, List.all_nil,
      Bool.and_true]
  have holdsSingle (row : CellRow) : Clause.holdAll (rowScope model.table row).cell
      single.criteria = model.matchesRow filter row :=
    (Clause.holdAll_eq_all _ _).trans (conjoined row)
  have own := (column_eq_ref known).1
  have scopes : several.scopes tables = single.scopes tables := by
    rw [scopes_towards severalWhole rfl rfl own holdsSeveral distinct,
      scopes_towards singleWhole rfl rfl own holdsSingle distinct]
    exact congrArg _ (slice_filter ..).symm
  have criteria : Clause.boundParameters several.criteria =
      Clause.boundParameters single.criteria := by
    rw [unbounded, Clause.boundParameters_conjoin same]
    exact (Clause.boundParameters_single _).symm
  have bound : (∀ parameter ∈ several.parameters, Succeeds parameter.cell) ↔
      ∀ parameter ∈ single.parameters, Succeeds parameter.cell := by
    simp only [Select.parameters, List.forall_mem_append, criteria]
    exact and_congr_right fun _ => (Select.bound_filter skip).symm
  exact severalWhole.rows_congr singleWhole bound scopes

end Model

section Running

variable {State : Type} {backend : Backend State} {state : State} {model : Model}
  {tables : List StoredTable} {query : Query} {steps : List Query.Step} {field word : String}
  {items : List Row}

/-- A chain of plain steps of which one orders the rows is one search for the conjunction of its
filters, if the order tells the matching rows apart. -/
theorem Query.chain_gives_iff (reads : model.Reads backend state tables)
    (plain : ∀ taken ∈ steps, taken.isPlain = true)
    (one : steps.filterMap Step.ordering? = [(.text field, word)])
    (mappings : ∀ filter ∈ steps.filterMap Step.filter?, filter.isMapping = true)
    (named : "" ∉ model.table.columns.map Column.name) (kind : SequenceKind)
    (ran : chain model steps = .ok query)
    (distinct : (model.matching tables (.conjunction kind (steps.filterMap Step.filter?))).Pairwise
      fun first second => (CellRow.cell first field).compare (CellRow.cell second field) ≠ .eq) :
    ∃ search, Search.ofInput model.idField
        (Search.orderedArguments (.conjunction kind (steps.filterMap Step.filter?)) field word
          (lastOffset steps) (lastLimit steps)) = .ok search ∧
      ∀ items, query.all.Gives backend state items ↔
        (model.findMany search).Gives backend state items := by
  have whole := (built_of_chain ran).whole
  obtain ⟨conditions, column, direction, accepted, known, towards, rfl⟩ :=
    chain_window plain one ran
  obtain ⟨clauses, together, same⟩ := Model.condition_conjunction kind mappings accepted
  obtain ⟨-, declared, member, refers, declaredName⟩ := Model.column_eq_ref known
  have columnName : column.name = field := by
    rw [← refers, ← declaredName]
    rfl
  have fieldNamed : field ≠ "" := by
    intro empty
    rw [← empty, ← declaredName] at named
    exact named (List.mem_map_of_mem member)
  subst columnName
  have closed := (List.forall_mem_append.mp whole.closed).1
  refine ⟨_, Search.ofInput_orderedArguments fieldNamed towards, fun items => ?_⟩
  rw [Model.findMany, Model.statementOf_window_null known together]
  exact (Model.fetch_gives_iff reads).trans
    ((Model.rows_windowQuery_conjoin known closed together same distinct _ _).trans
      (Model.fetch_gives_iff reads).symm)

/-- Counting and reading agree.  The calls for the rows that match a filter give the same rows, or
their number; however a query was built, as many rows are read as are counted; and a chain of
filters, limits and offsets with one order is one search.  Rows that are counted are read if each
of them can be read, and not otherwise. -/
theorem Model.counting_and_reading_agree {database : Database} (valid : model.entity.Valid)
    (named : "" ∉ model.entity.fields.keys) (answers : model.Answers backend state database) :
    (∀ filter, model.CountsMatching backend state database.tables filter) ∧
      (∀ steps query, Query.chain model steps = .ok query →
        query.CountsRows backend state database.tables) ∧
      ∀ steps query field word kind,
        let filters := steps.filterMap Query.Step.filter?
        Query.chain model steps = .ok query →
        (∀ taken ∈ steps, taken.isPlain = true) →
        steps.filterMap Query.Step.ordering? = [(.text field, word)] →
        (∀ filter ∈ filters, filter.isMapping = true) →
        ((model.matching database.tables (.conjunction kind filters)).Pairwise
          fun first second =>
            (CellRow.cell first field).compare (CellRow.cell second field) ≠ .eq) →
        ∃ search, Search.ofInput model.idField
            (Search.orderedArguments (.conjunction kind filters) field word
              (Query.lastOffset steps) (Query.lastLimit steps)) = .ok search ∧
          ∀ items, query.all.Gives backend state items ↔
            (model.findMany search).Gives backend state items := by
  refine ⟨countsMatching valid answers, fun steps query ran => ?_, ?_⟩
  · exact Query.countsRows_of_chain ran answers
  · intro steps query field word kind filters ran plain one mappings distinct
    have columnsNamed : "" ∉ model.table.columns.map Column.name := by
      rwa [table, Entity.columns_table]
    exact Query.chain_gives_iff answers.reads plain one mappings columnsNamed kind ran distinct

set_option maxRecDepth 4000 in
/-- Of two events the time of the second one cannot be read.  Both are counted, but they are not
found; the query and the search for the first one give it. -/
theorem Model.counting_and_reading_agree_events :
    let entity : Entity :=
      ⟨"Event", [("id", { type := .int, isId := true }), ("at", { type := .dateTime })]⟩
    let model : Model := {
      schema := ⟨⟨.sqlite, "file:./dev.db", none⟩, [entity]⟩
      entity
      dialect := .sqlite
      settings := {}
      pool := 0 }
    let event (id : Int) (at_ : String) : CellRow := [("id", .int id), ("at", .text at_)]
    let events : List CellRow := [event 1 "2020-01-01 00:00:00.000000", event 2 "soon"]
    let tables : List StoredTable := [{ table := model.table, rows := events }]
    let clock : Moment := ⟨2020, 1, 1, 0, 0, 0, 0, none⟩
    let host : Host := { pools := [.memory { tables, clock }], clock }
    let filter : Value := .object [("id", .object [("lt", .int 2)])]
    let steps : List Query.Step := [.limit (.int 0), .offset (.int 1), .matching filter,
      .orderBy (.text "id") "DESC", .offset (.int 0), .limit (.int 3)]
    ∃ query search items, Query.chain model steps = .ok query ∧
      Search.ofInput model.idField
          (Search.orderedArguments (.conjunction .list [filter]) "id" "DESC" (some 0) (some 3)) =
        .ok search ∧
      query.all.Gives Host.backend host items ∧
      (model.findMany search).Gives Host.backend host items ∧
      query.count.Gives Host.backend host (.int 1) ∧
      (model.count .null).Gives Host.backend host (.int 2) ∧
      (model.countFound .null).Gives Host.backend host (.int 2) ∧
      ∀ items, ¬(model.find .null).Gives Host.backend host items := by
  intro entity model event events tables clock host filter steps
  have table : model.table = {
      name := "events"
      columns := [{ name := "id", type := .integer, isKey := true },
        { name := "at", type := .timestamp }] } := by
    decide +kernel
  have valid : entity.Valid := by
    rw [Entity.valid_iff]
    decide
  have answers : model.Answers Host.backend host { tables, clock } := by
    intro statement isQuery
    cases statement with
    | write change => cases isQuery
    | _ => rfl
  let key : ColumnRef := ⟨"events", "id", .integer⟩
  have ref : model.table.ref? "id" = some key := by
    rw [table]
    rfl
  have known : model.column "id" = .ok key := by
    rw [Model.column, ref]
  have accepted : model.condition filter = .ok [.compare .less key (.int 2)] := by
    have test : Filter.readTest (.object [("lt", .int 2)]) =
        .ok (.comparisons [(.less, .int 2)]) := rfl
    exact condition_of_read (read_field ref (by decide) test)
  let window := model.windowQuery [.compare .less key (.int 2)] key .descending (some 0) (some 3)
    .null
  have ran : Query.chain model steps = .ok ⟨model, window⟩ := by
    refine Except.bind_eq_ok.mpr ⟨_, rfl, Except.bind_eq_ok.mpr ⟨_, rfl, ?_⟩⟩
    refine Except.bind_eq_ok.mpr ⟨_, Except.map_eq_ok.mpr ⟨_, accepted, rfl⟩, ?_⟩
    have ordered (query : Query) (own : query.model = model) :
        query.orderBy (.text "id") "DESC" =
          .ok { query with select.orderings := query.select.orderings ++ [⟨key, false⟩] } := by
      have toward : Direction.all.find? (·.label == Text.lower "DESC") = some .descending := by
        decide
      have named : query.model.columnOf (.text "id") = .ok key := by
        rw [own]
        exact known
      simp only [Query.orderBy, toward, named]
      rfl
    refine Except.bind_eq_ok.mpr ⟨_, ordered _ rfl, ?_⟩
    rfl
  have checked : window.check tables = .ok () := by
    dsimp only [window, tables, windowQuery, Select.all]
    rw [table]
    rfl
  have scopes : window.scopes tables = [rowScope model.table
      (event 1 "2020-01-01 00:00:00.000000")] := by
    have one : model.matching tables filter = [event 1 "2020-01-01 00:00:00.000000"] := by
      decide +kernel
    have holds (row : CellRow) : Clause.holdAll (rowScope model.table row).cell window.criteria =
        model.matchesRow filter row :=
      (Clause.holdAll_eq_all _ _).trans (holds_conditions accepted row)
    have whole : window.Whole model.table :=
      whole_windowQuery known (closed_condition accepted) ..
    rw [scopes_towards whole rfl rfl (column_eq_ref known).1 holds (by rw [one]; simp),
      matchingTowards, matchingBy, one, sortedBy, List.mergeSort_singleton]
    rfl
  obtain ⟨item, read⟩ : Succeeds (model.readRow (event 1 "2020-01-01 00:00:00.000000")) := by
    unfold readRow
    rw [table]
    decide +kernel
  have given : (Query.all ⟨model, window⟩).Gives Host.backend host [item] := by
    refine (fetch_gives_iff answers.reads).mpr (Select.rows_eq_ok.mpr ⟨checked, ?_⟩)
    rw [scopes]
    exact Except.bind_eq_ok.mpr ⟨item, read, rfl⟩
  obtain ⟨matching, chained, searched⟩ :=
    counting_and_reading_agree (show model.entity.Valid from valid) (by decide) answers
  obtain ⟨search, asked, same⟩ := searched steps _ "id" "DESC" .list ran (by decide) rfl
    (by decide) (by decide +kernel)
  have counted : (model.count .null).Gives Host.backend host (.int 2) := by
    have both : (model.matching tables .null).length = 2 := by decide +kernel
    refine answers.count_gives_iff.mpr ⟨[], rfl, ?_, by rw [both]; rfl⟩
    dsimp only [countQuery, tables]
    rw [table]
    rfl
  have names : (Select.all model.table).checkNames tables = .ok () := by
    dsimp only [tables]
    rw [table]
    rfl
  refine ⟨_, search, [item], ran, asked, given, (same _).mp given,
    (chained _ _ ran).counted _ given, counted, ((matching .null).counted _).mpr ⟨counted, names⟩,
    fun items found => ?_⟩
  obtain ⟨-, readable⟩ := (matching .null).readable.mp ⟨items, found⟩
  have unreadable : ¬Succeeds (model.readRow (event 2 "soon")) := by
    unfold readRow
    rw [table]
    decide +kernel
  exact unreadable (readable _ (by decide +kernel))

end Running

end SchemaStore
