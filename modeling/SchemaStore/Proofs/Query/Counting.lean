import SchemaStore.Proofs.Clause.Bound
import SchemaStore.Proofs.Query.Exclusion
import SchemaStore.Proofs.Query.Issue
import SchemaStore.Proofs.Query.Lookup
import SchemaStore.Proofs.Query.Steps

/-!
# Counting rows

A query gives all columns of the rows of one table, in whatever steps it was built.  Its rows are
counted without being read, so the number is given also if a cell of a row cannot be read.  When
all rows can be read, they are as many as were counted.
-/

namespace SchemaStore

open SchemaStore.Except (Succeeds)

/-- A list of images is the image of a list. -/
theorem exists_map_eq {α β : Type} {f : α → β} {known : α → Prop} {images : List β}
    (each : ∀ image ∈ images, ∃ item, known item ∧ f item = image) :
    ∃ items : List α, (∀ item ∈ items, known item) ∧ items.map f = images := by
  induction images with
  | nil => exact ⟨[], List.forall_mem_nil _, rfl⟩
  | cons image rest induction =>
      obtain ⟨⟨item, here, same⟩, others⟩ := List.forall_mem_cons.mp each
      obtain ⟨items, later, made⟩ := induction others
      refine ⟨item :: items, List.forall_mem_cons.mpr ⟨here, later⟩, ?_⟩
      rw [List.map_cons, same, made]

namespace Select

/-- A statement on one table that gives all columns and names no others. -/
structure Whole (table : Table) (query : Select) : Prop where
  own : query.table = table
  outputs : query.outputs = (all table).outputs
  joins : query.joins = []
  closed : ∀ clause ∈ query.criteria, clause.Closed table
  ordered : ∀ term ∈ query.orderings, table.Has term.column

variable {table : Table} {query other : Select} {tables : List StoredTable}

theorem whole_all (table : Table) : (all table).Whole table where
  own := rfl
  outputs := rfl
  joins := rfl
  closed := List.forall_mem_nil _
  ordered := List.forall_mem_nil _

theorem mem_outputs_all {column : ColumnRef} :
    column ∈ (all table).outputs.map Output.column ↔ table.Has column := by
  simp only [all, List.map_map, List.mem_map, Function.comp_apply]
  exact Iff.rfl

theorem Whole.mem_columns (whole : query.Whole table) {column : ColumnRef} :
    column ∈ query.columns ↔ table.Has column := by
  simp only [columns, whole.outputs, whole.joins, List.mem_append, mem_outputs_all,
    List.flatMap_nil, List.not_mem_nil, or_false]
  constructor
  · intro member
    rcases member with (output | condition) | ordering
    · exact output
    · obtain ⟨clause, clauseMember, own⟩ := List.mem_flatMap.mp condition
      exact Clause.has_of_closed (whole.closed clause clauseMember) column own
    · obtain ⟨term, termMember, rfl⟩ := List.mem_map.mp ordering
      exact whole.ordered term termMember
  · exact fun known => .inl (.inl known)

/-- Whether the names of such a statement are known depends on the table alone. -/
theorem Whole.checkNames_congr (whole : query.Whole table) (same : other.Whole table)
    (checked : query.checkNames tables = .ok ()) : other.checkNames tables = .ok () := by
  apply checkNames_of_subset query _ _ checked
  · rw [sources, sources, same.own, same.joins, whole.own, whole.joins]
  · intro column member
    exact whole.mem_columns.mpr (same.mem_columns.mp member)

theorem Whole.checkNames_iff (whole : query.Whole table) :
    query.checkNames tables = .ok () ↔ (all table).checkNames tables = .ok () :=
  ⟨whole.checkNames_congr (whole_all table), (whole_all table).checkNames_congr whole⟩

theorem Whole.rowOf_eq (whole : query.Whole table) : query.rowOf = (all table).rowOf := by
  unfold rowOf labels
  rw [whole.outputs]

theorem dropRepeated_subset (query : Select) (seen : List (List Cell)) (scopes : List Scope) :
    query.dropRepeated seen scopes ⊆ scopes := by
  induction scopes generalizing seen with
  | nil => exact List.Subset.refl _
  | cons scope rest induction =>
      rw [dropRepeated]
      split
      · exact List.subset_cons_of_subset scope (induction _)
      · exact List.cons_subset_cons scope (induction _)

theorem slice_subset {α : Type} (limit offset : Option Nat) (items : List α) :
    slice limit offset items ⊆ items := by
  have dropped : items.drop (offset.getD 0) ⊆ items := List.drop_subset _ _
  cases limit with
  | none => exact dropped
  | some n => exact List.Subset.trans (List.take_subset n _) dropped

theorem scopes_subset (query : Select) (tables : List StoredTable) :
    query.scopes tables ⊆ query.joined tables := by
  intro scope member
  have sorted := slice_subset query.limit query.offset _ member
  rw [List.mem_mergeSort] at sorted
  split at sorted
  · exact List.mem_of_mem_filter (dropRepeated_subset query [] _ sorted)
  · exact List.mem_of_mem_filter sorted

theorem visited_subset (query : Select) (tables : List StoredTable) :
    query.visited tables ⊆ rowsOf tables query.table.name := by
  intro row member
  unfold rowsOf
  cases found : Database.find? tables query.table.name with
  | none =>
      rw [Select.visited, found] at member
      cases member
  | some stored => exact (visited_perm found).subset member

/-- What a statement gives of one table are rows of the table. -/
theorem Whole.exists_rows (whole : query.Whole table) (tables : List StoredTable) :
    ∃ rows : List CellRow, (∀ row ∈ rows, row ∈ rowsOf tables table.name) ∧
      rows.map (rowScope table) = query.scopes tables := by
  apply exists_map_eq
  intro scope member
  have joined := scopes_subset query tables member
  rw [Select.joined, whole.joins, List.foldl_nil] at joined
  obtain ⟨row, visited, rfl⟩ := List.mem_map.mp joined
  rw [← whole.own]
  exact ⟨row, visited_subset query tables visited, rfl⟩

theorem size_eq_ok {n : Nat} :
    query.size tables = .ok n ↔
      query.check tables = .ok () ∧ (query.scopes tables).length = n := by
  rw [size, Except.bind_eq_ok]
  constructor
  · rintro ⟨⟨⟩, checked, same⟩
    exact ⟨checked, Except.pure_eq_ok.mp same⟩
  · rintro ⟨checked, rfl⟩
    exact ⟨(), checked, rfl⟩

end Select

/-- The answer to a statement that counts holds the number. -/
theorem Database.counted_map (counted : Except Failure Nat) :
    (do return ((← counted : Nat) : Int)).map (fun n => ({ scalar := .int n } : Result)) =
      counted.map fun n => { scalar := .int n } := by
  cases counted <;> rfl

section Running

variable {State : Type} {backend : Backend State} {state : State} {model : Model}
  {database : Database} {filter value : Value} {conditions : List Clause}

namespace Model

/-- A backend answers what changes nothing from a database, and stays as it is. -/
def Answers (model : Model) (backend : Backend State) (state : State) (database : Database) :
    Prop :=
  ∀ statement : Statement, statement.isWrite = false →
    backend (.execute model.pool statement) state = ((database.execute statement).1, state)

theorem Answers.reads (answers : model.Answers backend state database) :
    model.Reads backend state database.tables :=
  fun query => answers (.select query) rfl

/-- What is given is taken from an answer of the backend. -/
def TakenFrom {α : Type} (model : Model) (backend : Backend State) (statement : Statement)
    (extract : Result → α) (kept : State → Prop) (outcome : Except Failure α) : Prop :=
  ∀ given, outcome = .ok given → ∃ between result, kept between ∧
    (backend (.execute model.pool statement) between).1 = .ok result ∧ extract result = given

theorem exists_answer_of_read {α : Type} {statement : Statement} {extract : Result → α}
    {kept : State → Prop} {start final : State} {given : α}
    {events : List (Event Request Request.Reply)}
    (keeps : ∀ between, kept between →
      kept (backend (.execute model.pool statement) between).2)
    (sound : kept start)
    (ends : (model.read do
      let result ← model.execute statement
      return extract result).Ends backend start (.ok given) events final) :
    ∃ between result, kept between ∧
      (backend (.execute model.pool statement) between).1 = .ok result ∧
      extract result = given := by
  let fits (outcome : Except Failure α) (_ : List (Event Request Request.Reply)) : Prop :=
    TakenFrom model backend statement extract kept outcome
  have attempts {outcome : Except Failure α} {events : List (Event Request Request.Reply)}
      {final : State} (ends : Program.Ends backend
        (Program.ofSession (Dialogue.retry model.readPolicy ("read " ++ model.table.name)
          (Program.session do
            let result ← model.execute statement
            return extract result)))
        start outcome events final) :
      kept final ∧ fits outcome events := by
    refine Program.Ends.of_attemptFrom ?_ ?_ ?_ _ sound ends
    · intro start outcome events final sound ends
      obtain ⟨inner, executed, rfl⟩ := Program.Ends.exists_of_map ends
      obtain ⟨reply, -⟩ := ends_of_execute executed
      have sent := keeps start sound
      rw [reply] at sent
      refine ⟨sent, fun given same => ?_⟩
      obtain ⟨result, rfl, rfl⟩ := Except.map_eq_ok.mp same
      exact ⟨start, result, sound, congrArg Prod.fst reply, rfl⟩
    · intro outcome events others subset answered
      exact answered
    · intro failure events answered given same
      cases same
  rcases Program.Ends.recover_cases ends with
    ⟨other, same, held⟩ | ⟨failure, between, first, second, held, rescued, -⟩
  · cases same
    exact (attempts held).2 given rfl
  · split at rescued
    · cases (ends_of_giveUp rescued).1
    · cases rescued.of_ofResult.1

/-- A single value is given if the backend answers with it. -/
theorem fetchScalar_gives_iff {statement : Statement} {reply : Except Failure Result}
    (answered : backend (.execute model.pool statement) state = (reply, state)) :
    (model.fetchScalar statement).Gives backend state value ↔
      ∃ result, reply = .ok result ∧ result.scalar = value := by
  constructor
  · rintro ⟨events, ends⟩
    have keeps (between : State) (same : between = state) :
        (backend (.execute model.pool statement) between).2 = state := by
      rw [same, answered]
    obtain ⟨_, result, rfl, replied, extracted⟩ := exists_answer_of_read keeps rfl ends
    rw [answered] at replied
    exact ⟨result, replied, extracted⟩
  · rintro ⟨result, rfl, rfl⟩
    have attempt : Program.Ends backend
        (do
          let result ← model.execute statement
          return result.scalar)
        state (.ok result.scalar) _ state := (execute_ends answered).bind rfl
    exact ⟨_, (attempt.retry model.readPolicy ("read " ++ model.table.name)).recover _⟩

/-- The number of rows of a statement is given if the statement can be carried out. -/
theorem Answers.size_gives_iff {statement : Statement} {query : Select}
    (answers : model.Answers backend state database) (isQuery : statement.isWrite = false)
    (counts : (database.execute statement).1 =
      (query.size database.tables).map fun n => { scalar := .int n }) :
    (model.fetchScalar statement).Gives backend state value ↔
      query.check database.tables = .ok () ∧
        value = .int (query.scopes database.tables).length := by
  rw [fetchScalar_gives_iff (answers statement isQuery), counts]
  constructor
  · rintro ⟨result, counted, rfl⟩
    obtain ⟨n, sized, rfl⟩ := Except.map_eq_ok.mp counted
    obtain ⟨checked, rfl⟩ := Select.size_eq_ok.mp sized
    exact ⟨checked, rfl⟩
  · rintro ⟨checked, rfl⟩
    exact ⟨_, Except.map_eq_ok.mpr ⟨_, Select.size_eq_ok.mpr ⟨checked, rfl⟩, rfl⟩, rfl⟩

theorem gives_ofResult_bind {α β : Type} {result : Except Failure α} {next : α → Program β}
    {b : β} : Program.Gives backend state (Program.ofResult result >>= next) b ↔
      ∃ a, result = .ok a ∧ (next a).Gives backend state b := by
  constructor
  · rintro ⟨events, ends⟩
    rcases Program.Ends.ofResult_bind_cases ends with ⟨_, -, failed, -⟩ | ⟨a, known, goesOn⟩
    · cases failed
    · exact ⟨a, known, events, goesOn⟩
  · rintro ⟨a, rfl, events, goesOn⟩
    exact ⟨events, goesOn⟩

/-- The number of rows of a query for the rows that match a filter. -/
def countFound (model : Model) (filter : Value) : Program Value := do
  let query ← Program.ofResult ((Query.ofModel model).matching filter)
  query.count

/-- The statement whose rows `count` counts. -/
def countQuery (model : Model) (conditions : List Clause) : Select :=
  { table := model.table, outputs := [], criteria := conditions }

/-- A statement with no more than the conditions of a filter gives the matching rows. -/
theorem scopes_matching (query : Select) (tables : List StoredTable)
    (accepted : model.condition filter = .ok conditions)
    (own : query.table = model.table) (criteria : query.criteria = conditions)
    (single : query.joins = []) (plain : query.distinct = false)
    (unordered : query.orderings = []) (unlimited : query.limit = none)
    (start : query.offset = none) :
    query.scopes tables =
      ((query.visited tables).filter (model.matchesRow filter)).map (rowScope model.table) := by
  rw [Select.scopes_of_unordered tables single plain unordered unlimited start, own, criteria]
  congr 2
  funext row
  rw [Clause.holdAll_eq_all]
  exact holds_conditions accepted row

/-- The number that `count` gives is that of the matching rows. -/
theorem Answers.count_gives_iff (answers : model.Answers backend state database) :
    (model.count filter).Gives backend state value ↔
      ∃ conditions, model.condition filter = .ok conditions ∧
        (model.countQuery conditions).check database.tables = .ok () ∧
        value = .int (model.matching database.tables filter).length := by
  rw [count, gives_ofResult_bind]
  refine exists_congr fun conditions => and_congr_right fun accepted => ?_
  have given := scopes_matching (model.countQuery conditions) database.tables accepted rfl rfl rfl
    rfl rfl rfl rfl
  have matched : (((model.countQuery conditions).visited database.tables).filter
      (model.matchesRow filter)).Perm _ := visited_matching database.tables filter rfl
  rw [← matched.length_eq, ← List.length_map (rowScope model.table), ← given]
  exact answers.size_gives_iff rfl (Database.counted_map _)

end Model

namespace Query

variable {query : Query} {items : List Row}

/-- A query that was built gives all columns of its model's table. -/
theorem Built.whole (built : query.Built model) : query.select.Whole model.table := by
  induction built with
  | all => exact Select.whole_all model.table
  | matching built accepted induction =>
      have closed := (Model.closed_of_built (Built.matching built accepted)).2
      obtain ⟨conditions, -, rfl⟩ := Except.map_eq_ok.mp accepted
      exact { induction with closed }
  | excluding built accepted induction =>
      have closed := (Model.closed_of_built (Built.excluding built accepted)).2
      unfold Query.excluding at accepted
      split at accepted
      · obtain ⟨conditions, -, rfl⟩ := Except.map_eq_ok.mp accepted
        exact { induction with closed }
      · cases accepted
        exact induction
  | limit built accepted induction =>
      obtain ⟨n, -, rfl⟩ := Except.map_eq_ok.mp accepted
      exact { induction with }
  | offset built accepted induction =>
      obtain ⟨n, -, rfl⟩ := Except.map_eq_ok.mp accepted
      exact { induction with }
  | orderBy built accepted induction =>
      unfold Query.orderBy at accepted
      dsimp only at accepted
      split at accepted
      · cases accepted
      · obtain ⟨column, known, rfl⟩ := Except.map_eq_ok.mp accepted
        rw [(Model.closed_of_built built).1] at known
        refine { induction with ordered := fun term member => ?_ }
        rcases List.mem_append.mp member with before | last
        · exact induction.ordered term before
        · rw [List.mem_singleton.mp last]
          exact Model.has_of_columnOf known
  | distinct built induction => exact { induction with }

theorem count_gives_iff (answers : query.model.Answers backend state database) :
    query.count.Gives backend state value ↔
      query.select.check database.tables = .ok () ∧
        value = .int (query.select.scopes database.tables).length :=
  answers.size_gives_iff rfl (Database.counted_map _)

/-- What is read are the rows that are counted, if all of them can be read. -/
theorem all_gives_iff (answers : query.model.Answers backend state database) {rows : List CellRow}
    (whole : query.select.Whole query.model.table)
    (given : rows.map (rowScope query.model.table) = query.select.scopes database.tables) :
    query.all.Gives backend state items ↔
      query.select.check database.tables = .ok () ∧
        rows.mapM query.model.readRow = .ok items := by
  rw [all, Model.fetch_gives_iff answers.reads, Select.rows_eq_ok, ← given, whole.rowOf_eq,
    Except.mapM_eq_ok, Except.mapM_eq_ok, List.map_map]
  exact Iff.rfl

/-- What a query reads and what its count gives agree: the rows that are read are as many as are
counted, and all rows that are counted are read if each of them can be read. -/
structure CountsRows (query : Query) (backend : Backend State) (state : State)
    (tables : List StoredTable) : Prop where
  counted : ∀ items, query.all.Gives backend state items →
    query.count.Gives backend state (.int items.length)
  read : ∀ value, query.count.Gives backend state value →
    ∃ rows : List CellRow, (∀ row ∈ rows, row ∈ Select.rowsOf tables query.model.table.name) ∧
      value = .int rows.length ∧
      ∀ items, query.all.Gives backend state items ↔ rows.mapM query.model.readRow = .ok items

/-- Counting and reading agree in whatever steps a query was built. -/
theorem countsRows_of_chain {steps : List Step} (ran : chain model steps = .ok query)
    (answers : model.Answers backend state database) :
    query.CountsRows backend state database.tables := by
  have built := built_of_chain ran
  have whole := built.whole
  rw [← (Model.closed_of_built built).1] at answers whole
  obtain ⟨rows, known, given⟩ := whole.exists_rows database.tables
  have reads {items : List Row} : query.all.Gives backend state items ↔ _ :=
    all_gives_iff answers whole given
  constructor
  · intro items read
    obtain ⟨checked, rowsRead⟩ := reads.mp read
    refine (count_gives_iff answers).mpr ⟨checked, ?_⟩
    rw [← given, List.length_map, Except.length_of_mapM rowsRead]
  · intro value counted
    obtain ⟨checked, rfl⟩ := (count_gives_iff answers).mp counted
    refine ⟨rows, known, by rw [← given, List.length_map], fun items => ?_⟩
    exact reads.trans (and_iff_right checked)

end Query

namespace Model

/-- What the calls for the rows that match a filter give agrees. -/
structure CountsMatching (model : Model) (backend : Backend State) (state : State)
    (tables : List StoredTable) (filter : Value) : Prop where
  /-- Searching for the matching rows is finding them. -/
  searched : Search.ofInput model.idField [("where", filter)] =
    .ok (model.search filter .null .null)
  found : model.findMany (model.search filter .null .null) = model.find filter
  /-- The number of matching rows is counted. -/
  matched : ∀ value, (model.count filter).Gives backend state value →
    value = .int (model.matching tables filter).length
  /-- Counting what is found also needs the columns that are found. -/
  counted : ∀ value, (model.countFound filter).Gives backend state value ↔
    (model.count filter).Gives backend state value ∧
      (Select.all model.table).checkNames tables = .ok ()
  /-- The rows that are found are as many as are counted. -/
  read : ∀ items, (model.find filter).Gives backend state items →
    (model.countFound filter).Gives backend state (.int items.length)
  /-- Rows are found if they can be counted and each of them can be read. -/
  readable : (∃ items, (model.find filter).Gives backend state items) ↔
    (∃ value, (model.countFound filter).Gives backend state value) ∧
      ∀ row ∈ model.matching tables filter, Succeeds (model.readRow row)

/-- Finding rows through a query is searching for them. -/
theorem findMany_eq_find (valid : model.entity.Valid) (filter : Value) :
    model.findMany (model.search filter .null .null) = model.find filter := by
  unfold findMany find Query.matching
  dsimp only [Query.ofModel]
  cases accepted : model.condition filter with
  | error failure =>
      have stated := statementOf_refused accepted false none
      dsimp only [search] at stated ⊢
      rw [stated]
      rfl
  | ok conditions =>
      have stated := statementOf_search valid accepted false none
      dsimp only [search] at stated ⊢
      rw [stated]
      rfl

/-- A query for the matching rows can be carried out if they can be counted and the table has all
columns. -/
theorem check_narrow_iff (tables : List StoredTable)
    (closed : ∀ clause ∈ conditions, clause.Closed model.table) :
    ((Query.ofModel model).narrow conditions).select.check tables = .ok () ↔
      (model.countQuery conditions).check tables = .ok () ∧
        (Select.all model.table).checkNames tables = .ok () := by
  have whole : ((Query.ofModel model).narrow conditions).select.Whole model.table :=
    { Select.whole_all model.table with closed }
  have columns : (model.countQuery conditions).columns ⊆
      ((Query.ofModel model).narrow conditions).select.columns := by
    intro column member
    apply whole.mem_columns.mpr
    simp only [Select.columns, countQuery, List.map_nil, List.flatMap_nil, List.nil_append,
      List.append_nil] at member
    obtain ⟨clause, clauseMember, own⟩ := List.mem_flatMap.mp member
    exact Clause.has_of_closed (closed clause clauseMember) column own
  rw [Select.check_eq_ok, Select.check_eq_ok, whole.checkNames_iff]
  constructor
  · rintro ⟨names, bound⟩
    have fewer : (model.countQuery conditions).checkNames tables = .ok () := by
      apply Select.checkNames_of_subset _ _ columns (whole.checkNames_iff.mpr names)
      rfl
    exact ⟨⟨fewer, bound⟩, names⟩
  · rintro ⟨⟨-, bound⟩, names⟩
    exact ⟨names, bound⟩

/-- The rows that match an accepted filter, as they are found. -/
def foundRows (model : Model) (tables : List StoredTable) (filter : Value)
    (conditions : List Clause) : List CellRow :=
  (((Query.ofModel model).narrow conditions).select.visited tables).filter (model.matchesRow filter)

theorem foundRows_perm (model : Model) (tables : List StoredTable) (filter : Value)
    (conditions : List Clause) :
    (model.foundRows tables filter conditions).Perm (model.matching tables filter) :=
  visited_matching tables filter rfl

theorem scopes_found (tables : List StoredTable)
    (accepted : model.condition filter = .ok conditions) :
    ((Query.ofModel model).narrow conditions).select.scopes tables =
      (model.foundRows tables filter conditions).map (rowScope model.table) :=
  scopes_matching _ tables accepted rfl rfl rfl rfl rfl rfl rfl

theorem Answers.countFound_gives_iff (answers : model.Answers backend state database) :
    (model.countFound filter).Gives backend state value ↔
      ∃ conditions, model.condition filter = .ok conditions ∧
        ((Query.ofModel model).narrow conditions).select.check database.tables = .ok () ∧
        value = .int (model.matching database.tables filter).length := by
  rw [countFound, gives_ofResult_bind]
  have counts {conditions : List Clause} (accepted : model.condition filter = .ok conditions) :
      ((Query.ofModel model).narrow conditions).count.Gives backend state value ↔
        ((Query.ofModel model).narrow conditions).select.check database.tables = .ok () ∧
          value = .int (model.matching database.tables filter).length := by
    rw [← (foundRows_perm model database.tables filter conditions).length_eq,
      ← List.length_map (rowScope model.table), ← scopes_found database.tables accepted]
    exact Query.count_gives_iff answers
  constructor
  · rintro ⟨query, built, counted⟩
    obtain ⟨conditions, accepted, rfl⟩ := Except.map_eq_ok.mp built
    exact ⟨conditions, accepted, (counts accepted).mp counted⟩
  · rintro ⟨conditions, accepted, counted⟩
    exact ⟨_, Except.map_eq_ok.mpr ⟨conditions, accepted, rfl⟩, (counts accepted).mpr counted⟩

theorem Answers.find_gives_iff {items : List Row} (answers : model.Answers backend state database) :
    (model.find filter).Gives backend state items ↔
      ∃ conditions, model.condition filter = .ok conditions ∧
        ((Query.ofModel model).narrow conditions).select.check database.tables = .ok () ∧
        (model.foundRows database.tables filter conditions).mapM model.readRow = .ok items := by
  rw [find, gives_ofResult_bind]
  have finds {conditions : List Clause} (accepted : model.condition filter = .ok conditions) :
      ((Query.ofModel model).narrow conditions).all.Gives backend state items ↔ _ :=
    Query.all_gives_iff answers
      { Select.whole_all model.table with closed := closed_condition accepted }
      (scopes_found database.tables accepted).symm
  constructor
  · rintro ⟨query, built, found⟩
    obtain ⟨conditions, accepted, rfl⟩ := Except.map_eq_ok.mp built
    exact ⟨conditions, accepted, (finds accepted).mp found⟩
  · rintro ⟨conditions, accepted, found⟩
    exact ⟨_, Except.map_eq_ok.mpr ⟨conditions, accepted, rfl⟩, (finds accepted).mpr found⟩

/-- The calls for the rows that match a filter agree. -/
theorem countsMatching (valid : model.entity.Valid)
    (answers : model.Answers backend state database) (filter : Value) :
    model.CountsMatching backend state database.tables filter := by
  constructor
  · rfl
  · exact findMany_eq_find valid filter
  · intro value counted
    obtain ⟨conditions, -, -, same⟩ := answers.count_gives_iff.mp counted
    exact same
  · intro value
    rw [answers.countFound_gives_iff, answers.count_gives_iff]
    constructor
    · rintro ⟨conditions, accepted, checked, same⟩
      obtain ⟨counts, names⟩ := (check_narrow_iff _ (closed_condition accepted)).mp checked
      exact ⟨⟨conditions, accepted, counts, same⟩, names⟩
    · rintro ⟨⟨conditions, accepted, counts, same⟩, names⟩
      have checked := (check_narrow_iff _ (closed_condition accepted)).mpr ⟨counts, names⟩
      exact ⟨conditions, accepted, checked, same⟩
  · intro items found
    obtain ⟨conditions, accepted, checked, read⟩ := answers.find_gives_iff.mp found
    refine answers.countFound_gives_iff.mpr ⟨conditions, accepted, checked, ?_⟩
    rw [Except.length_of_mapM read, (foundRows_perm ..).length_eq]
  · constructor
    · rintro ⟨items, found⟩
      obtain ⟨conditions, accepted, checked, read⟩ := answers.find_gives_iff.mp found
      refine ⟨⟨_, answers.countFound_gives_iff.mpr ⟨conditions, accepted, checked, rfl⟩⟩, ?_⟩
      intro row member
      exact Except.succeeds_mapM.mp ⟨items, read⟩ row ((foundRows_perm ..).symm.subset member)
    · rintro ⟨⟨value, counted⟩, readable⟩
      obtain ⟨conditions, accepted, checked, -⟩ := answers.countFound_gives_iff.mp counted
      obtain ⟨items, read⟩ : Succeeds
          ((model.foundRows database.tables filter conditions).mapM model.readRow) :=
        Except.succeeds_mapM.mpr fun row member =>
          readable row ((foundRows_perm ..).subset member)
      exact ⟨items, answers.find_gives_iff.mpr ⟨conditions, accepted, checked, read⟩⟩

end Model

end Running
end SchemaStore
