import SchemaStore.Database.Host
import SchemaStore.Proofs.Backend.Program
import SchemaStore.Proofs.Clause.Bound
import SchemaStore.Proofs.Database.Reading
import SchemaStore.Proofs.Filter.Meaning
import SchemaStore.Query.Search

/-!
# Pages of matching rows

A page asks for one row more than it holds, and the next one begins at that row.
Following the cursors therefore gives the matching rows in the order of their
column, each of them once, as long as the column tells the rows apart and a cell
that is read from it is bound as the same cell again.
-/

namespace SchemaStore

open SchemaStore.Except (Succeeds)

/-- The value of a cell in a column that does not hold moments. -/
def Cell.value : Cell → Value
  | .null => .null
  | .int n => .int n
  | .real x => .scalar (.real x)
  | .text s => .text s
  | .blob octets => .scalar (.bytes octets)

theorem ColumnType.read_eq_value {type : ColumnType} (untimed : type ≠ .timestamp) (cell : Cell) :
    type.read cell = .ok cell.value := by
  cases type with
  | timestamp => exact absurd rfl untimed
  | integer => cases cell <;> rfl
  | varchar => cases cell <;> rfl
  | text => cases cell <;> rfl

/-- A cell as a column keeps it: a value that the column prefers and that can be bound.  A moment
is kept in the form in which moments are bound. -/
structure ColumnType.Keeps (type : ColumnType) (cell : Cell) : Prop where
  preferred : cell.prefer type.affinity = cell
  storable : ∀ n, cell = .int n → Cell.isStorable n = true
  number : ∀ x, cell = .real x → x.parts ≠ .notANumber
  moment : type = .timestamp → ∃ s m, cell = .text s ∧ Moment.ofText? s = some m ∧ m.stored = s

/-- What is read from a kept cell has an order and is bound as the cell. -/
theorem ColumnType.Keeps.cell_operand {column : ColumnRef} {cell : Cell}
    (kept : column.type.Keeps cell) (present : cell ≠ .null) {value : Value}
    (read : column.type.read cell = .ok value) :
    value.isUnordered = false ∧ (Parameter.operand column value).cell = .ok cell := by
  by_cases timed : column.type = .timestamp
  · obtain ⟨s, m, rfl, moment, stored⟩ := kept.moment timed
    rw [timed] at read
    simp only [ColumnType.read, moment] at read
    cases read
    exact ⟨rfl, congrArg (fun text => Except.ok (Cell.text text)) stored⟩
  · rw [ColumnType.read_eq_value timed] at read
    cases read
    cases cell with
    | null => exact absurd rfl present
    | int n =>
        exact ⟨rfl, if_pos (kept.storable n rfl)⟩
    | real x =>
        exact ⟨rfl, congrArg Except.ok (if_neg (kept.number x rfl))⟩
    | text s =>
        exact ⟨rfl, rfl⟩
    | blob octets =>
        exact ⟨rfl, rfl⟩

namespace Model

/-- Whether a row matches a filter; an empty filter matches every row. -/
def matchesRow (model : Model) (filter : Value) (row : CellRow) : Bool :=
  !filter.truthy || (Filter.meaning model.table (rowScope model.table row).cell filter).holds

def matching (model : Model) (tables : List StoredTable) (filter : Value) : List CellRow :=
  (Select.rowsOf tables model.table.name).filter (model.matchesRow filter)

def matchingBy (model : Model) (tables : List StoredTable) (filter : Value) (name : String) :
    List CellRow :=
  sortedBy (CellRow.cell · name) (model.matching tables filter)

def readRow (model : Model) (row : CellRow) : Except Failure Row :=
  (Select.all model.table).rowOf (rowScope model.table row)

/-- Whether a row compares with a cursor as given; every row does with a missing one. -/
def fulfilsBound (comparison : Comparison) (column : ColumnRef) (cursor : Value)
    (row : CellRow) : Bool :=
  cursor.isNull ||
    (Clause.comparisonTruth comparison column cursor (CellRow.cell row column.name)).holds

/-- The condition that rows compare with a cursor as given, if there is one. -/
def bounds (comparison : Comparison) (column : ColumnRef) (cursor : Value) : List Clause :=
  if cursor.isNull then [] else [.compare comparison column cursor]

/-- Whether a row does not stand before a cursor. -/
def reaches (column : ColumnRef) (cursor : Value) (row : CellRow) : Bool :=
  cursor.isNull ||
    (Clause.comparisonTruth .greaterEqual column cursor (CellRow.cell row column.name)).holds

/-- The conditions that a cursor adds to the statement of its page. -/
def boundary (column : ColumnRef) (cursor : Value) : List Clause :=
  if cursor.isNull then [] else [.compare .greaterEqual column cursor]

theorem reaches_eq_fulfilsBound : reaches = fulfilsBound .greaterEqual := rfl

theorem boundary_eq_bounds : boundary = bounds .greaterEqual := rfl

/-- The statement of the page that begins at a cursor. -/
def pageQuery (model : Model) (conditions : List Clause) (column : ColumnRef) (cursor : Value)
    (size : Nat) : Select :=
  { Select.all model.table with
    criteria := conditions ++ boundary column cursor
    orderings := [⟨column, true⟩]
    limit := some (size + 1) }

/-- What the pages that are ordered by a column rely on. -/
structure PagesBy (model : Model) (tables : List StoredTable) (filter : Value)
    (column : ColumnRef) (size : Nat) : Prop where
  /-- No two columns of the table have one name. -/
  named : (model.table.columns.map Column.name).Nodup
  known : model.column column.name = .ok column
  /-- The statement of the first page can be carried out. -/
  accepted : ∃ query, model.pageStatement filter (.text column.name) .null size = .ok query ∧
    query.check tables = .ok ()
  present : ∀ row ∈ model.matching tables filter, CellRow.cell row column.name ≠ .null
  distinct : (model.matching tables filter).Pairwise fun first second =>
    (CellRow.cell first column.name).compare (CellRow.cell second column.name) ≠ .eq
  kept : ∀ row ∈ model.matching tables filter, column.type.Keeps (CellRow.cell row column.name)

section Reading

variable {model : Model} {tables : List StoredTable} {filter cursor : Value} {column : ColumnRef}
  {conditions : List Clause} {size : Nat}

theorem condition_of_read {read : Filter} (accepted : Filter.read model.table filter = .ok read) :
    model.condition filter = .ok (if filter.truthy then [read.clause] else []) := by
  unfold condition Filter.compile? Filter.compile
  rw [accepted]
  cases filter.truthy <;> rfl

theorem holds_conditions (accepted : model.condition filter = .ok conditions) (row : CellRow) :
    (conditions.all fun clause => (clause.eval (rowScope model.table row).cell).holds) =
      model.matchesRow filter row := by
  have compiled := Except.mapError_eq_ok.mp accepted
  unfold Filter.compile? at compiled
  unfold matchesRow
  split at compiled
  · next given =>
    obtain ⟨clause, clauseCompiled, rfl⟩ := Except.map_eq_ok.mp compiled
    obtain ⟨read, filterRead, rfl⟩ := Except.map_eq_ok.mp clauseCompiled
    rw [List.all_cons, List.all_nil, Bool.and_true, given, Bool.not_true, Bool.false_or,
      (Filter.eval_clause_of_read filterRead).1]
  · next empty =>
    cases compiled
    rw [Bool.eq_false_iff.mpr empty]
    rfl

theorem column_eq_ref {name : String} (known : model.column name = .ok column) :
    column.source = model.table.name ∧ ∃ own ∈ model.table.columns,
      own.ref model.table.name = column ∧ own.name = name := by
  unfold Model.column Table.ref? Table.column? at known
  split at known
  · next found there =>
    cases known
    obtain ⟨own, ownFound, rfl⟩ := Option.map_eq_some_iff.mp there
    exact ⟨rfl, own, List.mem_of_find?_eq_some ownFound, rfl,
      by simpa using List.find?_some ownFound⟩
  · cases known

theorem pageStatement_eq (cursor : Value) (size : Nat)
    (known : model.column column.name = .ok column)
    (accepted : model.condition filter = .ok conditions)
    (ordered : cursor.isUnordered = true → cursor.isNull = true) :
    model.pageStatement filter (.text column.name) cursor size =
      .ok (model.pageQuery conditions column cursor size) := by
  have passes : ¬(cursor.isUnordered && !cursor.isNull) = true := by
    intro refused
    obtain ⟨unordered, notNull⟩ := Bool.and_eq_true_iff.mp refused
    rw [ordered unordered] at notNull
    cases notNull
  have named : model.columnOf (.text column.name) = .ok column := known
  unfold pageStatement
  rw [named, Except.ok_bind, accepted, Except.ok_bind]
  exact if_neg passes

theorem columns_bounds (comparison : Comparison) (column : ColumnRef) (cursor : Value) :
    (bounds comparison column cursor).flatMap Clause.columns ⊆ [column] := by
  unfold bounds
  split
  · exact List.nil_subset _
  · exact List.Subset.refl _

theorem parameters_bounds (comparison : Comparison)
    (bound : cursor.isNull = false → Succeeds (Parameter.operand column cursor).cell) :
    ∀ parameter ∈ (bounds comparison column cursor).flatMap Clause.parameters,
      Succeeds parameter.cell := by
  unfold bounds
  split
  · simp
  · next given =>
    simpa [Clause.parameters] using bound (Bool.eq_false_iff.mpr given)

/-- A cursor that can be bound adds no parameter that cannot. -/
theorem bound_conditions_bounds (comparison : Comparison)
    (bound : cursor.isNull = false → Succeeds (Parameter.operand column cursor).cell)
    (binds : ∀ parameter ∈ Clause.boundParameters conditions, Succeeds parameter.cell) :
    ∀ parameter ∈ Clause.boundParameters (conditions ++ bounds comparison column cursor),
      Succeeds parameter.cell := by
  intro parameter member
  rcases List.mem_append.mp (Clause.boundParameters_append_subset _ _ member) with own | added
  · exact binds parameter own
  · exact parameters_bounds comparison bound parameter added

/-- The conditions of the first page can be bound if its statement can be carried out. -/
theorem bound_of_check_pageQuery
    (checked : (model.pageQuery conditions column .null size).check tables = .ok ()) :
    ∀ parameter ∈ Clause.boundParameters conditions, Succeeds parameter.cell := by
  intro parameter member
  apply (Select.check_eq_ok.mp checked).2 parameter
  rw [Select.parameters, List.append_assoc]
  apply List.mem_append_left
  have first : conditions ++ boundary column .null = conditions := List.append_nil conditions
  rwa [pageQuery, first]

/-- A statement with a boundary that can be bound is carried out like that of the first page. -/
theorem check_pageQuery
    (bound : cursor.isNull = false → Succeeds (Parameter.operand column cursor).cell)
    (checked : (model.pageQuery conditions column .null size).check tables = .ok ()) :
    (model.pageQuery conditions column cursor size).check tables = .ok () := by
  obtain ⟨names, parameters⟩ := Select.check_eq_ok.mp checked
  rw [Select.check_eq_ok]
  constructor
  · refine Select.checkNames_of_subset (model.pageQuery conditions column .null size) rfl ?_ names
    intro named member
    simp only [Select.columns, pageQuery, boundary_eq_bounds, List.flatMap_append,
      List.mem_append] at member ⊢
    have fromBounds := @columns_bounds .greaterEqual column cursor named
    grind
  · intro parameter member
    rw [Select.parameters, List.append_assoc] at member
    rcases List.mem_append.mp member with criterion | amount
    · exact bound_conditions_bounds .greaterEqual bound (bound_of_check_pageQuery checked)
        parameter criterion
    · apply parameters parameter
      rw [Select.parameters, List.append_assoc]
      exact List.mem_append_right _ amount

theorem holds_bounds (comparison : Comparison) (own : column.source = model.table.name)
    (row : CellRow) :
    ((bounds comparison column cursor).all fun clause =>
      (clause.eval (rowScope model.table row).cell).holds) =
      fulfilsBound comparison column cursor row := by
  unfold bounds fulfilsBound
  rw [← rowScope_cell model.table row own]
  cases cursor.isNull <;> simp [Clause.eval]

/-- The conditions of a page hold on the matching rows that its cursor reaches. -/
theorem holdAll_pageQuery (known : model.column column.name = .ok column)
    (accepted : model.condition filter = .ok conditions) (row : CellRow) :
    Clause.holdAll (rowScope model.table row).cell
        (model.pageQuery conditions column cursor size).criteria =
      (model.matchesRow filter row && reaches column cursor row) := by
  rw [Clause.holdAll_eq_all, pageQuery, List.all_append, boundary_eq_bounds,
    holds_bounds .greaterEqual (column_eq_ref known).1, holds_conditions accepted,
    reaches_eq_fulfilsBound]

/-- A statement of the model's table visits the matching rows once, in some order. -/
theorem visited_matching (tables : List StoredTable) (filter : Value) {query : Select}
    (own : query.table = model.table) :
    ((query.visited tables).filter (model.matchesRow filter)).Perm
      (model.matching tables filter) := by
  unfold matching Select.rowsOf
  rw [← own]
  refine List.Perm.filter _ ?_
  cases found : Database.find? tables query.table.name with
  | none =>
      rw [Select.visited, found]
      exact .nil
  | some stored => exact Select.visited_perm found

/-- A page is made from the first rows that its cursor reaches. -/
theorem scopes_pageQuery (paging : model.PagesBy tables filter column size)
    (accepted : model.condition filter = .ok conditions) :
    (model.pageQuery conditions column cursor size).scopes tables =
      (((model.matchingBy tables filter column.name).filter (reaches column cursor)).take
        (size + 1)).map (rowScope model.table) := by
  have matched : (((model.pageQuery conditions column cursor size).visited tables).filter
      (model.matchesRow filter)).Perm (model.matching tables filter) :=
    visited_matching tables filter rfl
  rw [Select.scopes_of_single column rfl rfl rfl rfl rfl (column_eq_ref paging.known).1,
    matchingBy, ← sortedBy_filter (CellRow.cell · column.name) matched paging.distinct]
  congr 3
  rw [List.filter_filter]
  refine List.filter_congr fun row _ => ?_
  rw [Bool.and_comm]
  exact holdAll_pageQuery paging.known accepted row

/-- A cursor stands before the rest of the matching rows, the last ones in their order. -/
structure StandsBefore (model : Model) (tables : List StoredTable) (filter : Value)
    (column : ColumnRef) (cursor : Value) (rest : List CellRow) : Prop where
  remaining : rest <:+ model.matchingBy tables filter column.name
  reached : (model.matchingBy tables filter column.name).filter (reaches column cursor) = rest
  bound : cursor.isNull = false →
    cursor.isUnordered = false ∧ Succeeds (Parameter.operand column cursor).cell

theorem standsBefore_null : StandsBefore model tables filter column .null
    (model.matchingBy tables filter column.name) where
  remaining := List.suffix_refl _
  reached := List.filter_eq_self.mpr fun _ _ => rfl
  bound := by rintro ⟨⟩

/-- A value of the column bounds rows as the cell does that it was read from. -/
theorem fulfilsBound_eq {comparison : Comparison} (ordering : comparison.isOrdering = true)
    {value : Value} {cell : Cell} (kept : column.type.Keeps cell) (present : cell ≠ .null)
    (read : column.type.read cell = .ok value) {row : CellRow}
    (valued : CellRow.cell row column.name ≠ .null) :
    fulfilsBound comparison column value row =
      comparison.holds ((CellRow.cell row column.name).compare cell) := by
  obtain ⟨ordered, bound⟩ := kept.cell_operand present read
  have notNull : value.isNull = false := by
    cases value with
    | scalar s => cases s <;> first | rfl | cases ordered
    | sequence kind items => rfl
    | object entries => rfl
  have operand : Clause.operandCell column (.operand column value) = cell := by
    rw [Clause.operandCell, Parameter.boundCell, bound]
    exact kept.preferred
  have compared : Clause.comparisonTruth comparison column value (CellRow.cell row column.name) =
      comparison.truth (CellRow.cell row column.name) cell := by
    rw [← operand]
    cases comparison with
    | equal => cases ordering
    | notEqual => cases ordering
    | _ => rfl
  rw [fulfilsBound, notNull, compared, Bool.false_or, Comparison.truth_of_present valued present]
  cases comparison.holds ((CellRow.cell row column.name).compare cell) <;> rfl

/-- The value of the row after a page stands before that row. -/
theorem StandsBefore.next {rest before after : List CellRow} {row : CellRow} {value : Value}
    (paging : model.PagesBy tables filter column size)
    (stands : StandsBefore model tables filter column cursor rest)
    (split : rest = before ++ row :: after)
    (read : column.type.read (CellRow.cell row column.name) = .ok value) :
    StandsBefore model tables filter column value (row :: after) := by
  have perm := sortedBy_perm (CellRow.cell · column.name) (model.matching tables filter)
  have strict : (model.matchingBy tables filter column.name).Pairwise fun first second =>
      (CellRow.cell first column.name).compare (CellRow.cell second column.name) = .lt :=
    sortedBy_pairwise (CellRow.cell · column.name) paging.distinct
  obtain ⟨earlier, whole⟩ := stands.remaining
  have ordered : model.matchingBy tables filter column.name =
      (earlier ++ before) ++ row :: after := by
    rw [← whole, split, List.append_assoc]
  have matched {other : CellRow}
      (member : other ∈ model.matchingBy tables filter column.name) :
      other ∈ model.matching tables filter :=
    perm.mem_iff.mp member
  have own : row ∈ model.matching tables filter := matched (by simp [ordered])
  constructor
  · exact ⟨earlier ++ before, ordered.symm⟩
  · rw [← filter_from (CellRow.cell · column.name) (ordered ▸ strict), ← ordered]
    refine List.filter_congr fun other member => ?_
    exact fulfilsBound_eq rfl (paging.kept row own) (paging.present row own) read
      (paging.present other (matched member))
  · intro _
    obtain ⟨hasOrder, bound⟩ := (paging.kept row own).cell_operand (paging.present row own) read
    exact ⟨hasOrder, _, bound⟩

/-- The rows of a page and the one after them. -/
theorem rows_pageQuery {rest : List CellRow} {items : List Row}
    (paging : model.PagesBy tables filter column size)
    (accepted : model.condition filter = .ok conditions)
    (checked : (model.pageQuery conditions column .null size).check tables = .ok ())
    (stands : StandsBefore model tables filter column cursor rest)
    (read : rest.mapM model.readRow = .ok items) :
    (model.pageQuery conditions column cursor size).rows tables =
      .ok (items.take (size + 1)) := by
  have carriedOut := check_pageQuery (fun given => (stands.bound given).2) checked
  refine Except.bind_eq_ok.mpr ⟨(), carriedOut, ?_⟩
  rw [scopes_pageQuery paging accepted, stands.reached, Except.mapM_eq_ok,
    List.map_map, List.map_take, List.map_take]
  exact congrArg (List.take (size + 1)) (Except.mapM_eq_ok.mp read)

theorem PagesBy.stated (paging : model.PagesBy tables filter column size) :
    ∃ conditions, model.condition filter = .ok conditions ∧
      (model.pageQuery conditions column .null size).check tables = .ok () := by
  obtain ⟨query, stated, checked⟩ := paging.accepted
  obtain ⟨own, -, rest⟩ := Except.bind_eq_ok.mp stated
  obtain ⟨conditions, accepted, -⟩ := Except.bind_eq_ok.mp rest
  have same := pageStatement_eq .null size paging.known accepted fun _ => rfl
  rw [stated] at same
  cases same
  exact ⟨conditions, accepted, checked⟩

/-- The value of the column in a row as it was read from the row's cell. -/
theorem valueIn_readRow (named : (model.table.columns.map Column.name).Nodup)
    (known : model.column column.name = .ok column) {row : CellRow} {item : Row}
    (read : model.readRow row = .ok item) :
    ∃ value, column.type.read (CellRow.cell row column.name) = .ok value ∧
      valueIn column.name item = .ok value := by
  obtain ⟨-, own, member, rfl, -⟩ := column_eq_ref known
  obtain ⟨value, valueRead, there⟩ := Select.get?_of_rowOf named read member
  rw [rowScope_cell _ row rfl] at valueRead
  refine ⟨value, valueRead, ?_⟩
  have sameName : (own.ref model.table.name).name = own.name := rfl
  rw [valueIn, sameName, there]

/-- An item goes back to a row at its place, and has the value of the row's cell. -/
theorem exists_row_of_read (named : (model.table.columns.map Column.name).Nodup)
    (known : model.column column.name = .ok column)
    {rest : List CellRow} {items : List Row} {place : Nat} {item : Row}
    (read : rest.mapM model.readRow = .ok items) (there : items[place]? = some item) :
    ∃ row value, rest.drop place = row :: rest.drop (place + 1) ∧
      column.type.read (CellRow.cell row column.name) = .ok value ∧
      valueIn column.name item = .ok value := by
  have each := Except.mapM_eq_ok.mp read
  have long : rest.length = items.length := by simpa using congrArg List.length each
  obtain ⟨inItems, rfl⟩ := List.getElem?_eq_some_iff.mp there
  have inRest : place < rest.length := long ▸ inItems
  have rowRead : model.readRow rest[place] = .ok items[place] := by
    have atPlace := List.getElem_of_eq each (by simpa using inRest)
    simpa using atPlace
  obtain ⟨value, valueRead, valued⟩ := valueIn_readRow named known rowRead
  exact ⟨rest[place], value, List.drop_eq_getElem_cons inRest, valueRead, valued⟩

end Reading

/-- A backend answers what a model reads from tables and stays as it is. -/
def Reads {State : Type} (model : Model) (backend : Backend State) (state : State)
    (tables : List StoredTable) : Prop :=
  ∀ query : Select, backend (.execute model.pool (.select query)) state =
    ((query.rows tables).map fun rows => { rows }, state)

/-- Following the cursors from a given one on gives these pages, of which the last one has no
next page. -/
inductive Follows {State : Type} (backend : Backend State) (state : State) (model : Model)
    (filter orderBy take : Value) : Value → List Page → Prop where
  | last {cursor : Value} {page : Page}
      (given : (model.paginate filter orderBy take cursor).Gives backend state page)
      (final : page.hasNext = false) :
      Follows backend state model filter orderBy take cursor [page]
  | next {cursor : Value} {page : Page} {others : List Page}
      (given : (model.paginate filter orderBy take cursor).Gives backend state page)
      (more : page.hasNext = true)
      (followed : Follows backend state model filter orderBy take page.nextCursor others) :
      Follows backend state model filter orderBy take cursor (page :: others)

section Following

variable {State : Type} {backend : Backend State} {state : State} {model : Model}
  {tables : List StoredTable} {filter orderBy take cursor : Value} {column : ColumnRef}
  {size : Nat}

/-- The page at a cursor has the first of the remaining rows; its next cursor is the value of the
row after them. -/
theorem paginate_gives (next : Value) {rest : List CellRow} {items : List Row}
    (paging : model.PagesBy tables filter column size)
    (chosen : (if orderBy.truthy then orderBy else .text model.idField) = .text column.name)
    (sized : pageSize? take = some size) (reads : model.Reads backend state tables)
    (stands : StandsBefore model tables filter column cursor rest)
    (read : rest.mapM model.readRow = .ok items)
    (following : (match items[size]? with
      | some item => valueIn column.name item
      | none => .ok .null) = .ok next) :
    (model.paginate filter orderBy take cursor).Gives backend state {
      items := items.take size
      nextCursor := next
      cursor
      hasNext := size < items.length
      hasPrevious := !cursor.isNull
      size } := by
  obtain ⟨conditions, accepted, checked⟩ := paging.stated
  have stated := pageStatement_eq cursor size paging.known accepted fun unordered => by
    by_contra given
    rw [(stands.bound (Bool.eq_false_iff.mpr given)).1] at unordered
    cases unordered
  have answered : backend (.execute model.pool
      (.select (model.pageQuery conditions column cursor size))) state =
        (.ok { rows := items.take (size + 1) }, state) := by
    rw [reads, rows_pageQuery paging accepted checked stands read]
    rfl
  have taken : (items.take (size + 1)).take size = items.take size := by
    rw [List.take_take, Nat.min_eq_left (Nat.le_succ size)]
  have after : (items.take (size + 1))[size]? = items[size]? :=
    List.getElem?_take_of_lt (Nat.lt_succ_self size)
  have more : (decide ((items.take (size + 1)).length > size)) = decide (size < items.length) := by
    rw [List.length_take]
    congr 1
    simp
  unfold paginate
  rw [sized]
  dsimp only
  rw [chosen, stated]
  refine (Program.Gives.ofResult _).bind ((fetch_gives answered).bind ?_)
  rw [taken, after, more]
  cases place : items[size]? with
  | some item =>
      rw [place] at following
      have value : fieldIn (.text column.name) item = .ok next := following
      dsimp only
      rw [value]
      exact (Program.Gives.ofResult next).bind (Program.Gives.ofResult _)
  | none =>
      rw [place] at following
      cases following
      exact (Program.Gives.ofResult Value.null).bind (Program.Gives.ofResult _)

theorem pageSize_pos (sized : pageSize? take = some size) : 0 < size := by
  unfold pageSize? at sized
  split at sized
  · split at sized
    · cases sized
    · next n positive =>
      cases sized
      omega
  · cases sized
    exact Nat.one_pos
  · cases sized

/-- One page more than the remaining rows fill, unless they end with a page. -/
theorem pages_succ {n : Nat} (positive : 0 < size) (more : size < n) :
    1 + max 1 ((n - size + size - 1) / size) = max 1 ((n + size - 1) / size) := by
  have shifted : n + size - 1 = (n - 1) + size := by omega
  have whole : n - size + size - 1 = n - 1 := by omega
  have some : 1 ≤ (n - 1) / size := (Nat.one_le_div_iff positive).mpr (by omega)
  rw [shifted, whole, Nat.add_div_right _ positive]
  omega

theorem exists_follows {rest : List CellRow} {items : List Row}
    (paging : model.PagesBy tables filter column size)
    (chosen : (if orderBy.truthy then orderBy else .text model.idField) = .text column.name)
    (sized : pageSize? take = some size) (reads : model.Reads backend state tables)
    (stands : StandsBefore model tables filter column cursor rest)
    (read : rest.mapM model.readRow = .ok items) :
    ∃ pages, Follows backend state model filter orderBy take cursor pages ∧
      pages.flatMap Page.items = items ∧
      (∀ page ∈ pages.dropLast, page.items.length = size) ∧
      pages.length = max 1 ((items.length + size - 1) / size) := by
  have positive := pageSize_pos sized
  -- The rest gets shorter with every page, since a page has at least one row.
  induction amount : items.length using Nat.strong_induction_on generalizing cursor rest items with
  | h amount induction =>
    by_cases more : size < items.length
    · obtain ⟨row, value, after, valueRead, following⟩ :=
        exists_row_of_read paging.named paging.known read (List.getElem?_eq_getElem more)
      have split : rest = rest.take size ++ row :: rest.drop (size + 1) := by
        rw [← after, List.take_append_drop]
      have standsNext := stands.next paging split valueRead
      rw [← after] at standsNext
      obtain ⟨pages, followed, all, full, count⟩ :=
        induction (items.drop size).length (by rw [List.length_drop]; omega) standsNext
          (Except.mapM_drop read size) rfl
      have given := paginate_gives value paging chosen sized reads stands read (by
        rw [List.getElem?_eq_getElem more]
        exact following)
      refine ⟨_, .next given (decide_eq_true more) followed, ?_, ?_, ?_⟩
      · rw [List.flatMap_cons, all]
        exact List.take_append_drop size items
      · have nonempty : pages ≠ [] := by
          rintro rfl
          cases followed
        rw [List.dropLast_cons_of_ne_nil nonempty, List.forall_mem_cons]
        exact ⟨List.length_take_of_le more.le, full⟩
      · rw [List.length_cons, count, List.length_drop, Nat.add_comm]
        exact amount ▸ pages_succ positive more
    · have given := paginate_gives .null paging chosen sized reads stands read (by
        rw [List.getElem?_eq_none (Nat.le_of_not_lt more)])
      refine ⟨_, .last given (decide_eq_false more), ?_, ?_, ?_⟩
      · simpa using List.take_of_length_le (Nat.le_of_not_lt more)
      · simp
      · have one : (items.length + size - 1) / size ≤ 1 := by
          rw [← Nat.lt_succ_iff, Nat.div_lt_iff_lt_mul positive]
          omega
        rw [amount] at one
        exact (Nat.max_eq_left one).symm

theorem Follows.unique {pages others : List Page}
    (followed : Follows backend state model filter orderBy take cursor pages)
    (again : Follows backend state model filter orderBy take cursor others) : pages = others := by
  induction followed generalizing others with
  | last given final =>
      cases again with
      | last givenAgain _ => rw [given.unique givenAgain]
      | next givenAgain more _ =>
          rw [← given.unique givenAgain, final] at more
          cases more
  | next given more _ induction =>
      cases again with
      | last givenAgain final =>
          rw [← given.unique givenAgain, more] at final
          cases final
      | next givenAgain _ followedAgain =>
          cases given.unique givenAgain
          rw [induction followedAgain]

/-- Following the cursors from the first page on ends, and the pages have the matching rows in
ascending order of the column, each of them once.  Every page but the last one is full, and there
are as many pages as the rows fill, at least one. -/
theorem follows_matching (orderBy take : Value) (items : List Row)
    (paging : model.PagesBy tables filter column size)
    (chosen : (if orderBy.truthy then orderBy else .text model.idField) = .text column.name)
    (sized : pageSize? take = some size) (reads : model.Reads backend state tables)
    (read : (model.matchingBy tables filter column.name).mapM model.readRow = .ok items) :
    ∃ pages,
      (∀ others, Follows backend state model filter orderBy take .null others ↔ others = pages) ∧
      pages.flatMap Page.items = items ∧
      (∀ page ∈ pages.dropLast, page.items.length = size) ∧
      pages.length = max 1 ((items.length + size - 1) / size) := by
  obtain ⟨pages, followed, all, full, count⟩ :=
    exists_follows paging chosen sized reads standsBefore_null read
  refine ⟨pages, fun others => ?_, all, full, count⟩
  constructor
  · exact fun again => again.unique followed
  · rintro rfl
    exact followed

end Following

set_option maxRecDepth 8000 in
/-- Three of four notes, ordered by their titles, fill two pages. -/
theorem follows_matching_notes :
    let entity : Entity :=
      ⟨"Note", [("id", { type := .int, isId := true }), ("title", { type := .string })]⟩
    let model : Model := {
      schema := ⟨⟨.sqlite, "file:./dev.db", none⟩, [entity]⟩
      entity
      dialect := .sqlite
      settings := {}
      pool := 0 }
    let note (id : Int) (title : String) : CellRow := [("id", .int id), ("title", .text title)]
    let item (id : Int) (title : String) : Row := [("id", .int id), ("title", .text title)]
    let tables : List StoredTable :=
      [{ table := model.table, rows := [note 1 "b", note 2 "d", note 3 "a", note 4 "c"] }]
    let clock : Moment := ⟨2020, 1, 1, 0, 0, 0, 0, none⟩
    let host : Host := { pools := [.memory { tables, clock }], clock }
    let filter : Value := .object [("title", .object [("not", .text "d")])]
    ∃ pages,
      (∀ others, Follows Host.backend host model filter (.text "title") (.int 2) .null others ↔
        others = pages) ∧
      pages.flatMap Page.items = [item 3 "a", item 1 "b", item 4 "c"] ∧
      (∀ page ∈ pages.dropLast, page.items.length = 2) ∧
      pages.length = 2 := by
  intro entity model note item tables clock host filter
  let title : ColumnRef := ⟨"notes", "title", .varchar⟩
  have table : model.table = {
      name := "notes"
      columns := [{ name := "id", type := .integer, isKey := true },
        { name := "title", type := .varchar }] } := by
    decide +kernel
  have known : model.column title.name = .ok title := by
    unfold Model.column
    rw [table]
    rfl
  have accepted : model.condition filter =
      .ok [.compare .notEqual title (.text "d")] := by
    have read : Filter.read model.table filter =
        .ok (.ofEntries [.test title (.comparisons [(.notEqual, .text "d")])]) := by
      rw [table]
      simp only [filter, Value.text, Filter.read, Filter.readEntries, Filter.readEntry,
        String.reduceEq, imp_self]
      rfl
    rw [condition, Filter.compile?, Filter.compile, read]
    rfl
  have matching : model.matching tables filter = [note 1 "b", note 3 "a", note 4 "c"] := by
    decide +kernel
  have ordered : model.matchingBy tables filter title.name =
      [note 3 "a", note 1 "b", note 4 "c"] := by
    rw [matchingBy, matching]
    exact sortedBy_eq _ (by decide) (by decide)
  have paging : model.PagesBy tables filter title 2 := {
    named := by decide +kernel
    known
    accepted := ⟨_, pageStatement_eq .null 2 known accepted fun _ => rfl, by
      dsimp only [tables, pageQuery]
      rw [table]
      rfl⟩
    present := by rw [matching]; decide
    distinct := by rw [matching]; decide
    kept := by
      rw [matching]
      intro row member
      have text : ∃ s, CellRow.cell row title.name = .text s := by
        simp only [List.mem_cons, List.not_mem_nil, or_false] at member
        rcases member with rfl | rfl | rfl <;> exact ⟨_, rfl⟩
      obtain ⟨s, cell⟩ := text
      rw [cell]
      exact ⟨rfl, by simp, by simp, by rintro ⟨⟩⟩ }
  have chosen : (if (Value.text title.name).truthy then .text title.name
      else .text model.idField) = Value.text title.name := rfl
  have reads : model.Reads Host.backend host tables := fun _ => rfl
  have read : (model.matchingBy tables filter title.name).mapM model.readRow =
      .ok [item 3 "a", item 1 "b", item 4 "c"] := by
    rw [ordered]
    unfold readRow
    rw [table]
    rfl
  obtain ⟨pages, follows, all, full, count⟩ :=
    follows_matching (.text title.name) (.int 2) _ paging chosen rfl reads read
  exact ⟨pages, follows, all, full, by simpa using count⟩

/-- A moment that is not kept in its bound form lies before itself as a cursor. -/
example : reaches ⟨"events", "at", .timestamp⟩ (.scalar (.moment ⟨2020, 1, 2, 0, 0, 0, 0, none⟩))
    [("at", .text "2020-01-02 00:00:00")] = false := by
  decide +kernel

end Model
end SchemaStore
