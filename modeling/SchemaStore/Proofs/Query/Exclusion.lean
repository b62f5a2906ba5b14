import SchemaStore.Proofs.Filter.Parts
import SchemaStore.Proofs.Query.Criteria

/-!
# Rows that are found and rows that are excluded

Finding by a filter gives the rows that match all parts of the filter, excluding by it
the rows that match none of its parts.  A row on which the parts disagree is given by
neither, and every row is given by both if there are no parts; so the two readings
split a table exactly where the parts agree, and always if there is one part.
-/

namespace SchemaStore

/-- Two selections make up a list if every item is in exactly one of them. -/
theorem filter_append_perm_iff {α : Type} [DecidableEq α] {items : List α} {first second : α → Bool} :
    (items.filter first ++ items.filter second).Perm items ↔
      ∀ item ∈ items, first item ≠ second item := by
  constructor
  · intro whole item member same
    have once := whole.count_eq item
    have there : 0 < items.count item := List.count_pos_iff.mpr member
    rw [List.count_append] at once
    cases chosen : first item with
    | true =>
        rw [List.count_filter chosen, List.count_filter (same ▸ chosen)] at once
        omega
    | false =>
        rw [List.count_eq_zero.mpr (by simp [chosen]),
          List.count_eq_zero.mpr (by simp [← same, chosen])] at once
        omega
  · intro differ
    have opposite : items.filter second = items.filter (!first ·) := by
      refine List.filter_congr fun item member => ?_
      rw [Bool.eq_not]
      exact (differ item member).symm
    rw [opposite]
    exact List.filter_append_perm first items

namespace Model

/-- The rows that match a filter. -/
def find (model : Model) (filter : Value) : Program (List Row) := do
  let query ← Program.ofResult ((Query.ofModel model).matching filter)
  query.all

/-- The rows that a filter excludes. -/
def except (model : Model) (filter : Value) : Program (List Row) := do
  let query ← Program.ofResult ((Query.ofModel model).excluding filter)
  query.all

/-- A stored table of the model that has a value in every column of every row. -/
structure Complete (model : Model) (tables : List StoredTable) (stored : StoredTable) : Prop where
  found : Database.find? tables model.table.name = some stored
  names : (Select.all model.table).checkNames tables = .ok ()
  readable : ∀ row ∈ stored.rows, Except.Succeeds (model.readRow row)
  present : ∀ row ∈ stored.rows, ∀ column ∈ model.table.columns,
    CellRow.cell row column.name ≠ .null

variable {State : Type} {backend : Backend State} {state : State} {model : Model}
  {tables : List StoredTable} {stored : StoredTable} {conditions : List Clause} {filter : Value}

theorem Complete.cells (complete : model.Complete tables stored) {row : CellRow}
    (member : row ∈ stored.rows) :
    ∀ column, model.table.Has column → (rowScope model.table row).cell column ≠ .null := by
  rintro _ ⟨declared, known, rfl⟩
  rw [rowScope_cell model.table row rfl]
  exact complete.present row member declared known

theorem checkNames_narrow (names : (Select.all model.table).checkNames tables = .ok ())
    (closed : ∀ clause ∈ conditions, clause.Closed model.table) :
    ((Query.ofModel model).narrow conditions).select.checkNames tables = .ok () := by
  refine Select.checkNames_of_subset (Select.all model.table) rfl ?_ names
  intro column member
  simp only [Select.columns, Query.narrow, Query.ofModel, Select.all, List.mem_append,
    List.flatMap_nil, List.map_nil, List.not_mem_nil, or_false, List.nil_append] at member ⊢
  rcases member with output | condition
  · exact output
  · obtain ⟨clause, clauseMember, columnMember⟩ := List.mem_flatMap.mp condition
    obtain ⟨declared, known, rfl⟩ :=
      Clause.has_of_closed (closed clause clauseMember) column columnMember
    simp only [List.map_map, List.mem_map]
    exact ⟨declared, known, rfl⟩

/-- A query with conditions on the columns of the model gives the rows that fulfil them. -/
theorem Complete.narrow_gives (complete : model.Complete tables stored)
    (reads : model.Reads backend state tables)
    (closed : ∀ clause ∈ conditions, clause.Closed model.table)
    (bound : ∀ parameter ∈ conditions.flatMap Clause.parameters,
      Except.Succeeds parameter.cell) :
    ∃ (rows : List CellRow) (items : List Row),
      rows.Perm (stored.rows.filter fun row =>
        conditions.all fun clause => (clause.eval (rowScope model.table row).cell).holds) ∧
      rows.mapM model.readRow = .ok items ∧
      ((Query.ofModel model).narrow conditions).all.Gives backend state items := by
  let query := ((Query.ofModel model).narrow conditions).select
  let rows := (query.visited tables).filter fun row =>
    Clause.holdAll (rowScope model.table row).cell conditions
  have same : rows.Perm (stored.rows.filter fun row =>
      conditions.all fun clause => (clause.eval (rowScope model.table row).cell).holds) := by
    simp only [rows, Clause.holdAll_eq_all]
    exact (Select.visited_perm complete.found).filter _
  have readable : Except.Succeeds (rows.mapM model.readRow) := by
    rw [Except.succeeds_mapM]
    intro row member
    exact complete.readable row (List.mem_of_mem_filter (same.subset member))
  obtain ⟨items, read⟩ := readable
  have checked : query.check tables = .ok () := by
    rw [Select.check_eq_ok]
    refine ⟨checkNames_narrow complete.names closed, fun parameter member => bound parameter ?_⟩
    apply Clause.boundParameters_subset
    simpa [query, Select.parameters, Query.narrow, Query.ofModel, Select.all,
      Select.amountParameter] using member
  have given : query.rows tables = .ok items := by
    refine Except.bind_eq_ok.mpr ⟨(), checked, ?_⟩
    rw [Select.scopes_of_unordered tables rfl rfl rfl rfl rfl, Except.mapM_eq_ok, List.map_map]
    exact Except.mapM_eq_ok.mp read
  have answered : backend (.execute model.pool (.select query)) state =
      (.ok { rows := items }, state) := by
    rw [reads, given]
    rfl
  exact ⟨rows, items, same, read, fetch_gives answered⟩

/-- Finding by an accepted filter whose values can be bound gives the rows that match it. -/
theorem Complete.find_gives {read : Filter} (complete : model.Complete tables stored)
    (reads : model.Reads backend state tables)
    (accepted : Filter.read model.table filter = .ok read)
    (bound : ∀ parameter ∈ read.parameters, Except.Succeeds parameter.cell) :
    ∃ (rows : List CellRow) (items : List Row),
      rows.Perm (stored.rows.filter (model.matchesRow filter)) ∧
      rows.mapM model.readRow = .ok items ∧ (model.find filter).Gives backend state items := by
  have conditions := condition_of_read accepted
  have binds : ∀ parameter ∈ (if filter.truthy then [read.clause] else []).flatMap
      Clause.parameters, Except.Succeeds parameter.cell := by
    intro parameter member
    obtain ⟨clause, clauseMember, parameterMember⟩ := List.mem_flatMap.mp member
    split at clauseMember
    · rw [List.mem_singleton.mp clauseMember] at parameterMember
      exact bound parameter (Filter.parameters_clause read parameterMember)
    · cases clauseMember
  obtain ⟨rows, items, same, rowsRead, gives⟩ :=
    complete.narrow_gives reads (closed_condition conditions) binds
  have matched : (Query.ofModel model).matching filter = .ok ((Query.ofModel model).narrow _) :=
    Except.map_eq_ok.mpr ⟨_, conditions, rfl⟩
  refine ⟨rows, items, ?_, rowsRead, ?_⟩
  · simpa only [holds_conditions conditions] using same
  · rw [find, matched]
    exact (Program.Gives.ofResult _).bind gives

theorem except_eq_find (given : filter.truthy = true) :
    model.except filter = model.find (.object [("NOT", filter)]) := by
  have excluded : (Query.ofModel model).excluding filter =
      (Query.ofModel model).matching (.object [("NOT", filter)]) := by
    rw [Query.excluding, if_pos given]
    rfl
  rw [except, excluded, find]

theorem read_negated {read : Filter} (accepted : Filter.read model.table filter = .ok read) :
    Filter.read model.table (.object [("NOT", filter)]) =
      .ok (.ofEntries [.none [read]]) := by
  cases filter with
  | object entries =>
      rw [Filter.read] at accepted
      obtain ⟨entriesRead, entriesAccepted, rfl⟩ := Except.map_eq_ok.mp accepted
      apply Filter.read_single
      rw [Filter.readEntry, entriesAccepted]
      rfl
  | scalar s => rw [Filter.read] at accepted; cases accepted
  | sequence kind items => rw [Filter.read] at accepted; cases accepted

theorem truthy_part {part : Value} (member : part ∈ Filter.parts filter) :
    part.truthy = true := by
  cases filter with
  | object entries =>
      obtain ⟨⟨key, value⟩, -, partMember⟩ := List.mem_flatMap.mp member
      dsimp only at partMember
      unfold Filter.entryParts at partMember
      split at partMember
      · split at partMember
        · rw [List.mem_singleton.mp partMember]
          rfl
        · obtain ⟨operator, -, rfl⟩ := List.mem_map.mp partMember
          rfl
      · rw [List.mem_singleton.mp partMember]
        rfl
  | scalar s => cases member
  | sequence kind items => cases member

/-- A row matches a part if the part is true of it. -/
theorem matchesRow_part {part : Value} (member : part ∈ Filter.parts filter) (row : CellRow) :
    model.matchesRow part row =
      (Filter.meaning model.table (rowScope model.table row).cell part).holds := by
  rw [matchesRow, truthy_part member]
  rfl

theorem matchesRow_parts {read : Filter} (given : filter.truthy = true)
    (accepted : Filter.read model.table filter = .ok read) (row : CellRow) :
    model.matchesRow filter row =
      (Filter.parts filter).all fun part => model.matchesRow part row := by
  rw [matchesRow, given, (Filter.meaning_parts accepted).1, Truth.holds_all, List.all_map,
    Bool.not_true, Bool.false_or, Bool.eq_iff_iff, List.all_eq_true, List.all_eq_true]
  refine forall₂_congr fun part member => ?_
  rw [matchesRow_part member]
  rfl

theorem matchesRow_negated {read : Filter} (complete : model.Complete tables stored)
    (accepted : Filter.read model.table filter = .ok read)
    (bound : Filter.Present model.table filter) {row : CellRow} (stands : row ∈ stored.rows) :
    model.matchesRow (.object [("NOT", filter)]) row =
      (Filter.parts filter).all fun part => !model.matchesRow part row := by
  have holds := Filter.holds_negated_parts accepted bound (complete.cells stands)
  rw [matchesRow, holds, Bool.eq_iff_iff]
  simp only [Value.truthy, List.isEmpty_cons, Bool.not_false, Bool.not_true, Bool.false_or,
    List.all_eq_true]
  refine forall₂_congr fun part member => ?_
  rw [matchesRow_part member]

/-- On a table without missing values, finding by a filter gives exactly the rows that match all
parts of it, and excluding by it exactly those that match none.  Together they give every row
once if and only if on each row either all parts match or none does, and not both; so it is
for every filter of one part. -/
theorem find_except_parts {read : Filter} (complete : model.Complete tables stored)
    (reads : model.Reads backend state tables) (given : filter.truthy = true)
    (accepted : Filter.read model.table filter = .ok read)
    (bound : Filter.Present model.table filter) :
    ∃ (found excluded : List CellRow) (items others : List Row),
      found.mapM model.readRow = .ok items ∧ (model.find filter).Gives backend state items ∧
      excluded.mapM model.readRow = .ok others ∧
      (model.except filter).Gives backend state others ∧
      found.Perm (stored.rows.filter (model.matchesRow filter)) ∧
      (∀ row, model.matchesRow filter row =
        (Filter.parts filter).all fun part => model.matchesRow part row) ∧
      excluded.Perm (stored.rows.filter fun row =>
        (Filter.parts filter).all fun part => !model.matchesRow part row) ∧
      ((found ++ excluded).Perm stored.rows ↔ ∀ row ∈ stored.rows,
        ((Filter.parts filter).all fun part => model.matchesRow part row) ≠
          (Filter.parts filter).all fun part => !model.matchesRow part row) ∧
      ((Filter.parts filter).length = 1 → (found ++ excluded).Perm stored.rows) := by
  have binds : ∀ parameter ∈ read.parameters, Except.Succeeds parameter.cell := by
    intro parameter member
    obtain ⟨cell, cellBound, -⟩ := (Filter.present_iff accepted).mp bound parameter member
    exact ⟨cell, cellBound⟩
  obtain ⟨found, items, foundSame, foundRead, finds⟩ := complete.find_gives reads accepted binds
  obtain ⟨excluded, others, excludedSame, excludedRead, excludes⟩ :=
    complete.find_gives reads (read_negated accepted)
      (by rwa [Filter.parameters_negated])
  rw [← except_eq_find given] at excludes
  have negated : stored.rows.filter (model.matchesRow (.object [("NOT", filter)])) =
      stored.rows.filter fun row =>
        (Filter.parts filter).all fun part => !model.matchesRow part row :=
    List.filter_congr fun row stands => matchesRow_negated complete accepted bound stands
  rw [negated] at excludedSame
  have together : (found ++ excluded).Perm stored.rows ↔ ∀ row ∈ stored.rows,
      ((Filter.parts filter).all fun part => model.matchesRow part row) ≠
        (Filter.parts filter).all fun part => !model.matchesRow part row := by
    have matched : stored.rows.filter (model.matchesRow filter) = stored.rows.filter fun row =>
        (Filter.parts filter).all fun part => model.matchesRow part row :=
      List.filter_congr fun row _ => matchesRow_parts given accepted row
    rw [matched] at foundSame
    rw [← filter_append_perm_iff]
    exact ⟨(foundSame.append excludedSame).symm.trans, (foundSame.append excludedSame).trans⟩
  refine ⟨found, excluded, items, others, foundRead, finds, excludedRead, excludes, foundSame,
    matchesRow_parts given accepted, excludedSame, together, fun one => together.mpr ?_⟩
  obtain ⟨part, single⟩ := List.length_eq_one_iff.mp one
  intro row _
  rw [single]
  cases matched : model.matchesRow part row <;> simp [matched]

set_option maxRecDepth 8000 in
/-- A disjunction is one part: every user is found or excluded. -/
theorem find_except_parts_users :
    let entity : Entity :=
      ⟨"User", [("id", { type := .int, isId := true }), ("name", { type := .string }),
        ("age", { type := .int })]⟩
    let model : Model := {
      schema := ⟨⟨.sqlite, "file:./dev.db", none⟩, [entity]⟩
      entity
      dialect := .sqlite
      settings := {}
      pool := 0 }
    let user (id : Int) (name : String) (age : Int) : CellRow :=
      [("id", .int id), ("name", .text name), ("age", .int age)]
    let users : List CellRow := [user 1 "Ann" 30, user 2 "Bob" 40, user 3 "Cid" 20]
    let tables : List StoredTable := [{ table := model.table, rows := users }]
    let clock : Moment := ⟨2020, 1, 1, 0, 0, 0, 0, none⟩
    let host : Host := { pools := [.memory { tables, clock }], clock }
    let filter : Value := .object
      [("OR", .object [("name", .text "Ann"), ("age", .object [("gt", .int 30)])])]
    ∃ (found excluded : List CellRow) (items others : List Row),
      found.mapM model.readRow = .ok items ∧ (model.find filter).Gives Host.backend host items ∧
      excluded.mapM model.readRow = .ok others ∧
      (model.except filter).Gives Host.backend host others ∧
      found.Perm [user 1 "Ann" 30, user 2 "Bob" 40] ∧ (found ++ excluded).Perm users := by
  intro entity model user users tables clock host filter
  have table : model.table = {
      name := "users"
      columns := [{ name := "id", type := .integer, isKey := true },
        { name := "name", type := .varchar }, { name := "age", type := .integer }] } := by
    decide +kernel
  have complete : model.Complete tables { table := model.table, rows := users } := {
    found := by
      dsimp only [tables]
      rw [table]
      rfl
    names := by
      dsimp only [tables]
      rw [table]
      rfl
    readable := by
      intro row member
      unfold readRow
      rw [table]
      simp only [users, List.mem_cons, List.not_mem_nil, or_false] at member
      rcases member with rfl | rfl | rfl <;> exact ⟨_, rfl⟩
    present := by
      rw [table]
      decide }
  have nameKnown : Filter.readColumn model.table "name" = .ok ⟨"users", "name", .varchar⟩ := by
    rw [table]
    rfl
  have ageKnown : Filter.readColumn model.table "age" = .ok ⟨"users", "age", .integer⟩ := by
    rw [table]
    rfl
  have accepted : Filter.read model.table filter = .ok (.ofEntries
      [.any [.ofEntries [.test ⟨"users", "name", .varchar⟩ (.equals (.text "Ann"))],
        .ofEntries [.test ⟨"users", "age", .integer⟩ (.comparisons [(.greater, .int 30)])]]]) := by
    simp only [filter, Value.text, Value.int, Filter.read, Filter.readEntries, Filter.readEntry,
      String.reduceEq, imp_self, nameKnown, ageKnown]
    rfl
  have bound : Filter.Present model.table filter := by
    rw [Filter.present_iff accepted]
    intro parameter member
    rcases List.mem_pair.mp member with rfl | rfl <;> exact ⟨_, rfl, by decide⟩
  have reads : model.Reads Host.backend host tables := fun _ => rfl
  obtain ⟨found, excluded, items, others, foundRead, finds, excludedRead, excludes, foundSame, -,
    -, -, split⟩ := find_except_parts complete reads rfl accepted bound
  have matching : users.filter (model.matchesRow filter) =
      [user 1 "Ann" 30, user 2 "Bob" 40] := by
    decide +kernel
  exact ⟨found, excluded, items, others, foundRead, finds, excludedRead, excludes,
    matching ▸ foundSame, split (by decide +kernel)⟩

set_option maxRecDepth 8000 in
/-- A user of whom one of two entries is true is neither found nor excluded, and so is every user
by a number that is none; by an operator object without operators every user is found and
excluded. -/
theorem find_except_disagree_users :
    let entity : Entity :=
      ⟨"User", [("id", { type := .int, isId := true }), ("name", { type := .string }),
        ("age", { type := .int })]⟩
    let model : Model := {
      schema := ⟨⟨.sqlite, "file:./dev.db", none⟩, [entity]⟩
      entity
      dialect := .sqlite
      settings := {}
      pool := 0 }
    let ann : CellRow := [("id", .int 1), ("name", .text "Ann"), ("age", .int 30)]
    let stored : StoredTable := { table := model.table, rows := [ann] }
    let clock : Moment := ⟨2020, 1, 1, 0, 0, 0, 0, none⟩
    let host : Host := { pools := [.memory { tables := [stored], clock }], clock }
    let entries : Value := .object [("name", .text "Ann"), ("age", .int 40)]
    let number : Value := .object [("age", .scalar (.real .notANumber))]
    let nothing : Value := .object [("age", .object [])]
    let item : Row := [("id", .int 1), ("name", .text "Ann"), ("age", .int 30)]
    model.Complete [stored] stored ∧
      (∀ filter ∈ [entries, number, nothing], filter.truthy = true ∧
        (∃ read, Filter.read model.table filter = .ok read) ∧
        ∀ leaf ∈ Filter.leaves filter, leaf.isNull = false) ∧
      (model.find entries).Gives Host.backend host [] ∧
      (model.except entries).Gives Host.backend host [] ∧
      (model.find number).Gives Host.backend host [] ∧
      (model.except number).Gives Host.backend host [] ∧
      (model.find nothing).Gives Host.backend host [item] ∧
      (model.except nothing).Gives Host.backend host [item] := by
  intro entity model ann stored clock host entries number nothing item
  have table : model.table = {
      name := "users"
      columns := [{ name := "id", type := .integer, isKey := true },
        { name := "name", type := .varchar }, { name := "age", type := .integer }] } := by
    decide +kernel
  have readAnn : model.readRow ann = .ok item := by
    unfold readRow
    rw [table]
    rfl
  have complete : model.Complete [stored] stored := {
    found := by
      dsimp only [stored]
      rw [table]
      rfl
    names := by
      dsimp only [stored]
      rw [table]
      rfl
    readable := List.forall_mem_singleton.mpr ⟨item, readAnn⟩
    present := by
      rw [table]
      decide }
  have reads : model.Reads Host.backend host [stored] := fun _ => rfl
  let name : ColumnRef := ⟨"users", "name", .varchar⟩
  let age : ColumnRef := ⟨"users", "age", .integer⟩
  have nameKnown : Filter.readColumn model.table "name" = .ok name := by
    rw [table]
    rfl
  have ageKnown : Filter.readColumn model.table "age" = .ok age := by
    rw [table]
    rfl
  have entriesRead : Filter.read model.table entries = .ok (.ofEntries
      [.test name (.equals (.text "Ann")), .test age (.equals (.int 40))]) := by
    simp only [entries, Value.text, Value.int, Filter.read, Filter.readEntries, Filter.readEntry,
      nameKnown, ageKnown]
    rfl
  have numberRead : Filter.read model.table number = .ok (.ofEntries
      [.test age (.equals (.scalar (.real .notANumber)))]) := by
    simp only [number, Filter.read, Filter.readEntries, Filter.readEntry, ageKnown]
    rfl
  have nothingRead : Filter.read model.table nothing = .ok (.ofEntries
      [.test age (.comparisons [])]) := by
    simp only [nothing, Filter.read, Filter.readEntries, Filter.readEntry, String.reduceEq,
      imp_self, ageKnown]
    rfl
  have givesNone {filter : Value} {read : Filter}
      (accepted : Filter.read model.table filter = .ok read)
      (bound : ∀ parameter ∈ read.parameters, Except.Succeeds parameter.cell)
      (missed : [ann].filter (model.matchesRow filter) = []) :
      (model.find filter).Gives Host.backend host [] := by
    obtain ⟨rows, items, same, rowsRead, gives⟩ := complete.find_gives reads accepted bound
    rw [missed, List.perm_nil] at same
    subst same
    cases rowsRead
    exact gives
  have givesAnn {filter : Value} {read : Filter}
      (accepted : Filter.read model.table filter = .ok read)
      (bound : ∀ parameter ∈ read.parameters, Except.Succeeds parameter.cell)
      (matched : [ann].filter (model.matchesRow filter) = [ann]) :
      (model.find filter).Gives Host.backend host [item] := by
    obtain ⟨rows, items, same, rowsRead, gives⟩ := complete.find_gives reads accepted bound
    rw [matched, List.perm_singleton] at same
    subst same
    rw [List.mapM_cons, readAnn] at rowsRead
    cases rowsRead
    exact gives
  have entriesBound : ∀ parameter ∈ [Parameter.operand name (.text "Ann"), .operand age (.int 40)],
      Except.Succeeds parameter.cell := by
    intro parameter member
    rcases List.mem_pair.mp member with rfl | rfl <;> exact ⟨_, rfl⟩
  have numberBound : ∀ parameter ∈ [Parameter.operand age (.scalar (.real .notANumber))],
      Except.Succeeds parameter.cell :=
    List.forall_mem_singleton.mpr ⟨_, rfl⟩
  have nothingBound : ∀ parameter ∈ ([] : List Parameter), Except.Succeeds parameter.cell :=
    List.forall_mem_nil _
  refine ⟨complete, ?_, givesNone entriesRead entriesBound (by decide +kernel), ?_,
    givesNone numberRead numberBound (by decide +kernel), ?_,
    givesAnn nothingRead nothingBound (by decide +kernel), ?_⟩
  · simp only [List.forall_mem_cons, List.not_mem_nil, false_imp_iff, implies_true, and_true]
    exact ⟨⟨rfl, ⟨_, entriesRead⟩, by decide⟩, ⟨rfl, ⟨_, numberRead⟩, by decide⟩,
      ⟨rfl, ⟨_, nothingRead⟩, by decide⟩⟩
  · rw [except_eq_find rfl]
    exact givesNone (read_negated entriesRead) entriesBound (by decide +kernel)
  · rw [except_eq_find rfl]
    exact givesNone (read_negated numberRead) numberBound (by decide +kernel)
  · rw [except_eq_find rfl]
    exact givesAnn (read_negated nothingRead) nothingBound (by decide +kernel)

end Model
end SchemaStore
