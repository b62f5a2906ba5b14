import SchemaStore.Proofs.Database.Direction
import SchemaStore.Proofs.Query.Pages

/-!
# Windows of ordered rows

A window of the matching rows, in either direction of a column, begins after a number of
rows or after a value of the column.  Both ways lead to the same rows if the value is
that of the last row left out, as long as the column tells the rows apart and a cell that
is read from it is bound as the same cell again.  So the rows can be read window by
window, each beginning after the last row received.
-/

namespace SchemaStore

open SchemaStore.Except (Succeeds)

/-- A search for a part of the rows that match a filter, in a direction of a field. -/
def Search.window (filter : Value) (field : String) (direction : Direction)
    (skip take : Option Nat) (cursor : Value) : Search :=
  { filter, page := { orderBy := field, direction, skip, take, cursor }, ordered := true }

/-- A number of rows as an argument. -/
def Value.ofAmount : Option Nat → Value
  | none => .null
  | some n => .int n

/-- The arguments that ask for such a part, by name. -/
def Search.windowArguments (filter : Value) (field : String) (direction : Direction)
    (skip take : Option Nat) (cursor : Value) : Record Value :=
  [("where", filter), ("order_by", .text field), ("direction", .text direction.label),
    ("skip", .ofAmount skip), ("take", .ofAmount take), ("cursor", cursor)]

theorem Reader.optional_ofAmount (amount : Option Nat) :
    Reader.optional Reader.natural (.ofAmount amount) = .ok amount := by
  cases amount <;> rfl

/-- A part of ordered rows is requested after a number of rows or after a value, and not after
both. -/
theorem PageRequest.ofInput_window {field word : String} {cursor : Value} {direction : Direction}
    {skip take : Option Nat} (towards : Direction.ofInput (.text word) = .ok direction)
    (exclusive : cursor.isNull = true ∨ skip = none) :
    PageRequest.ofInput (.object [("order_by", .text field), ("direction", .text word),
        ("skip", .ofAmount skip), ("take", .ofAmount take), ("cursor", cursor)]) =
      .ok { orderBy := field, direction, skip, take, cursor } := by
  have possible : (!cursor.isNull && skip.isSome) = false := by
    rcases exclusive with blank | rfl
    · rw [blank]
      rfl
    · exact Bool.and_false _
  have fields : PageRequest.fieldsOfInput (.object [("order_by", .text field),
      ("direction", .text word), ("skip", .ofAmount skip), ("take", .ofAmount take),
      ("cursor", cursor)]) = .ok { orderBy := field, direction, skip, take, cursor } := by
    refine Except.bind_eq_ok.mpr ⟨_, rfl, Except.bind_eq_ok.mpr ⟨field, rfl, ?_⟩⟩
    refine Except.bind_eq_ok.mpr ⟨direction, towards, ?_⟩
    refine Except.bind_eq_ok.mpr ⟨skip, Reader.optional_ofAmount skip, ?_⟩
    refine Except.bind_eq_ok.mpr ⟨take, Reader.optional_ofAmount take, ?_⟩
    refine Except.bind_eq_ok.mpr ⟨cursor, rfl, ?_⟩
    exact if_neg (Bool.eq_false_iff.mp possible)
  rw [PageRequest.ofInput, fields]
  rfl

/-- A field with a name is the one to order by. -/
theorem Search.orderBy_named {field : String} (named : field ≠ "") (idField : String) :
    (if (Value.text field).truthy then Value.text field else .text idField) = .text field :=
  if_pos (by simp [Value.truthy, Value.text, Scalar.truthy, named])

/-- A part of ordered rows is asked for by these arguments, as long as it begins after a number of
rows or after a value, and not after both. -/
theorem Search.ofInput_windowArguments {idField field : String} {filter cursor : Value}
    {direction : Direction} {skip take : Option Nat} (named : field ≠ "")
    (exclusive : cursor.isNull = true ∨ skip = none) :
    Search.ofInput idField (windowArguments filter field direction skip take cursor) =
      .ok (.window filter field direction skip take cursor) := by
  have towards : Direction.ofInput (.text direction.label) = .ok direction := by
    cases direction <;> decide +kernel
  have page : PageRequest.ofInput (.object [
      ("order_by", if (Value.text field).truthy then .text field else .text idField),
      ("direction", .text direction.label), ("skip", .ofAmount skip), ("take", .ofAmount take),
      ("cursor", cursor)]) = .ok { orderBy := field, direction, skip, take, cursor } := by
    rw [orderBy_named named]
    exact PageRequest.ofInput_window towards exclusive
  exact Except.bind_eq_ok.mpr ⟨_, page, rfl⟩

namespace Model

/-- The matching rows in a direction of a column. -/
def matchingTowards (model : Model) (tables : List StoredTable) (filter : Value) (name : String)
    (direction : Direction) : List CellRow :=
  direction.turn (model.matchingBy tables filter name)

def windowQuery (model : Model) (conditions : List Clause) (column : ColumnRef)
    (direction : Direction) (skip take : Option Nat) (cursor : Value) : Select :=
  { Select.all model.table with
    criteria := conditions ++ bounds direction.comparison column cursor
    orderings := [⟨column, direction == .ascending⟩]
    limit := take
    offset := skip }

/-- What the windows that are ordered by a column rely on: what its pages rely on, and that a
number of rows can be bound. -/
structure WindowsBy (model : Model) (tables : List StoredTable) (filter : Value)
    (column : ColumnRef) : Prop where
  paging : model.PagesBy tables filter column 0
  countable : Cell.isStorable (model.matching tables filter).length = true

/-- A cursor leaves the rest of the matching rows, the last ones in their direction. -/
structure Leaves (model : Model) (tables : List StoredTable) (filter : Value)
    (column : ColumnRef) (direction : Direction) (cursor : Value) (rest : List CellRow) : Prop where
  remaining : rest <:+ model.matchingTowards tables filter column.name direction
  reached : (model.matchingTowards tables filter column.name direction).filter
    (fulfilsBound direction.comparison column cursor) = rest
  bound : cursor.isNull = false →
    cursor.isUnordered = false ∧ Succeeds (Parameter.operand column cursor).cell

section Reading

variable {model : Model} {tables : List StoredTable} {filter cursor : Value} {column : ColumnRef}
  {direction : Direction} {conditions : List Clause} {skip take : Option Nat}
  {rest : List CellRow} {items : List Row}

theorem statementOf_window (known : model.column column.name = .ok column)
    (accepted : model.condition filter = .ok conditions) (some : skip ≠ some 0)
    (ordered : cursor.isUnordered = true → cursor.isNull = true) :
    model.statementOf (.window filter column.name direction skip take cursor) =
      .ok (model.windowQuery conditions column direction skip take cursor, []) := by
  have passes : ¬(cursor.isUnordered && !cursor.isNull) = true := by
    intro refused
    obtain ⟨unordered, notNull⟩ := Bool.and_eq_true_iff.mp refused
    rw [ordered unordered] at notNull
    cases notNull
  unfold statementOf
  dsimp only [Search.window]
  rw [accepted, known]
  refine (if_neg passes).trans ?_
  match skip, some with
  | none, _ => cases direction <;> rfl
  | .some 0, some => exact absurd rfl some
  | .some (n + 1), _ => cases direction <;> rfl

theorem leaves_null : Leaves model tables filter column direction .null
    (model.matchingTowards tables filter column.name direction) where
  remaining := List.suffix_refl _
  reached := List.filter_eq_self.mpr fun _ _ => rfl
  bound := by rintro ⟨⟩

theorem matchingTowards_pairwise (windows : model.WindowsBy tables filter column)
    (direction : Direction) :
    (model.matchingTowards tables filter column.name direction).Pairwise fun first second =>
      (CellRow.cell first column.name).compare (CellRow.cell second column.name) =
        direction.order :=
  turn_sortedBy_pairwise (CellRow.cell · column.name) direction windows.paging.distinct

theorem matchingTowards_perm (model : Model) (tables : List StoredTable) (filter : Value)
    (name : String) (direction : Direction) :
    (model.matchingTowards tables filter name direction).Perm (model.matching tables filter) :=
  (direction.turn_perm _).trans (sortedBy_perm (CellRow.cell · name) _)

theorem Leaves.next {before after : List CellRow} {row : CellRow} {value : Value}
    (windows : model.WindowsBy tables filter column)
    (leaves : Leaves model tables filter column direction cursor rest)
    (split : rest = before ++ row :: after)
    (read : column.type.read (CellRow.cell row column.name) = .ok value) :
    Leaves model tables filter column direction value after := by
  obtain ⟨earlier, whole⟩ := leaves.remaining
  have ordered : model.matchingTowards tables filter column.name direction =
      (earlier ++ before) ++ row :: after := by
    rw [← whole, split, List.append_assoc]
  have strict := matchingTowards_pairwise windows direction
  have perm := matchingTowards_perm model tables filter column.name direction
  have own : row ∈ model.matching tables filter := perm.subset (by simp [ordered])
  have present := windows.paging.present
  have kept := windows.paging.kept row own
  constructor
  · exact ⟨earlier ++ before ++ [row], by rw [ordered, List.append_assoc]; rfl⟩
  · rw [ordered] at strict
    refine Eq.trans ?_ (filter_beyond (CellRow.cell · column.name) direction strict)
    rw [← ordered]
    refine List.filter_congr fun other member => ?_
    exact fulfilsBound_eq (by cases direction <;> rfl) kept (present row own) read
      (present other (perm.subset member))
  · intro _
    obtain ⟨hasOrder, bound⟩ := kept.cell_operand (present row own) read
    exact ⟨hasOrder, _, bound⟩

/-- The value of a row that was received leaves the rows after it. -/
theorem Leaves.advance (windows : model.WindowsBy tables filter column)
    (leaves : Leaves model tables filter column direction cursor rest)
    (read : rest.mapM model.readRow = .ok items) {place : Nat} {item : Row}
    (there : items[place]? = some item) :
    ∃ value, valueIn column.name item = .ok value ∧
      Leaves model tables filter column direction value (rest.drop (place + 1)) ∧
      (rest.drop (place + 1)).mapM model.readRow = .ok (items.drop (place + 1)) := by
  obtain ⟨row, value, after, valueRead, valued⟩ :=
    exists_row_of_read windows.paging.named windows.paging.known read there
  have split : rest = rest.take place ++ row :: rest.drop (place + 1) := by
    rw [← after, List.take_append_drop]
  exact ⟨value, valued, leaves.next windows split valueRead, Except.mapM_drop read (place + 1)⟩

theorem checkNames_windowQuery
    (checked : (model.pageQuery conditions column .null 0).check tables = .ok ()) :
    (model.windowQuery conditions column direction skip take cursor).checkNames tables =
      .ok () := by
  refine Select.checkNames_of_subset (model.pageQuery conditions column .null 0) rfl ?_
    (Select.check_eq_ok.mp checked).1
  intro named member
  simp only [Select.columns, windowQuery, pageQuery, List.flatMap_append, List.mem_append]
    at member ⊢
  have fromBounds := @columns_bounds direction.comparison column cursor named
  grind

theorem bound_windowQuery
    (bound : cursor.isNull = false → Succeeds (Parameter.operand column cursor).cell)
    (checked : (model.pageQuery conditions column .null 0).check tables = .ok ()) :
    ∀ parameter ∈ Clause.boundParameters (model.windowQuery conditions column direction skip take
      cursor).criteria, Succeeds parameter.cell :=
  bound_conditions_bounds direction.comparison bound (bound_of_check_pageQuery checked)

theorem holdAll_windowQuery (known : model.column column.name = .ok column)
    (accepted : model.condition filter = .ok conditions) (row : CellRow) :
    Clause.holdAll (rowScope model.table row).cell
        (model.windowQuery conditions column direction skip take cursor).criteria =
      (model.matchesRow filter row && fulfilsBound direction.comparison column cursor row) := by
  rw [Clause.holdAll_eq_all, windowQuery, List.all_append, holds_bounds _ (column_eq_ref known).1,
    holds_conditions accepted]

/-- A window is cut out of the matching rows beyond its cursor. -/
theorem scopes_windowQuery (windows : model.WindowsBy tables filter column)
    (accepted : model.condition filter = .ok conditions) :
    (model.windowQuery conditions column direction skip take cursor).scopes tables =
      (Select.slice take skip ((model.matchingTowards tables filter column.name direction).filter
        (fulfilsBound direction.comparison column cursor))).map (rowScope model.table) := by
  have known := windows.paging.known
  let query := model.windowQuery conditions column direction skip take cursor
  have kept : ((query.visited tables).filter fun row =>
      Clause.holdAll (rowScope model.table row).cell query.criteria) =
        ((query.visited tables).filter (model.matchesRow filter)).filter
          (fulfilsBound direction.comparison column cursor) := by
    rw [List.filter_filter]
    refine List.filter_congr fun row _ => ?_
    rw [holdAll_windowQuery known accepted, Bool.and_comm]
  have matched : ((query.visited tables).filter (model.matchesRow filter)).Perm
      (model.matching tables filter) :=
    visited_matching tables filter rfl
  have perm : ((model.matchingTowards tables filter column.name direction).filter
      (fulfilsBound direction.comparison column cursor)).Perm
        ((query.visited tables).filter fun row =>
          Clause.holdAll (rowScope model.table row).cell query.criteria) := by
    rw [kept]
    exact ((matchingTowards_perm model tables filter column.name direction).trans
      matched.symm).filter _
  have strict := (matchingTowards_pairwise windows direction).filter
    (fulfilsBound direction.comparison column cursor)
  have distinct := perm.pairwise (strict.imp fun {first second} before same => by
    rw [before] at same
    cases direction <;> cases same) (compare_ne_symm (CellRow.cell · column.name))
  have sameTable : query.table = model.table := rfl
  have whole := @Select.scopes_of_directed query tables column direction rfl rfl rfl
  rw [sameTable] at whole
  rw [whole (column_eq_ref known).1 distinct,
    ← eq_turn_sortedBy (CellRow.cell · column.name) direction perm strict]
  rfl

/-- A window of the rows that its cursor leaves. -/
theorem rows_windowQuery (windows : model.WindowsBy tables filter column)
    (accepted : model.condition filter = .ok conditions)
    (checked : (model.pageQuery conditions column .null 0).check tables = .ok ())
    (leaves : Leaves model tables filter column direction cursor rest)
    (read : rest.mapM model.readRow = .ok items)
    (amounts : ∀ parameter ∈ Select.amountParameter take ++ Select.amountParameter skip,
      Succeeds parameter.cell) :
    (model.windowQuery conditions column direction skip take cursor).rows tables =
      .ok (Select.slice take skip items) := by
  have carriedOut : (model.windowQuery conditions column direction skip take cursor).check
      tables = .ok () := by
    refine Select.check_eq_ok.mpr ⟨checkNames_windowQuery checked, ?_⟩
    rw [Select.parameters, List.append_assoc]
    exact List.forall_mem_append.mpr
      ⟨bound_windowQuery (fun given => (leaves.bound given).2) checked, amounts⟩
  refine Except.bind_eq_ok.mpr ⟨(), carriedOut, ?_⟩
  have reads (row : CellRow) : (model.windowQuery conditions column direction skip take
      cursor).rowOf (rowScope model.table row) = model.readRow row := rfl
  rw [scopes_windowQuery windows accepted, leaves.reached, Except.mapM_eq_ok,
    List.map_map, ← Select.slice_map, ← Select.slice_map, ← Except.mapM_eq_ok.mp read]
  simp only [Function.comp_def, reads]

/-- A number of rows that cannot be bound is refused, with what else is asked for. -/
theorem rows_windowQuery_oversized {n : Nat} (oversized : Cell.isStorable n = false)
    (bound : cursor.isNull = false → Succeeds (Parameter.operand column cursor).cell)
    (checked : (model.pageQuery conditions column .null 0).check tables = .ok ()) :
    (model.windowQuery conditions column direction skip (some n) cursor).rows tables =
      .error .oversizedNumber := by
  let query := model.windowQuery conditions column direction skip (some n) cursor
  have parameters : query.parameters = Clause.boundParameters query.criteria ++
      ⟨.plain, .int n⟩ :: Select.amountParameter skip := by
    rw [Select.parameters, List.append_assoc]
    rfl
  have criteria := @bound_windowQuery model tables cursor column direction conditions skip (some n)
    bound checked
  have conversions : Parameter.checkConversions query.parameters = .ok () := by
    rw [parameters]
    refine Parameter.checkConversions_append criteria ?_
    cases skip <;> rfl
  have refused : (⟨.plain, .int n⟩ : Parameter).cell = .error .oversizedNumber := by
    rw [Parameter.cell_int, oversized]
    rfl
  have bindings : Parameter.checkBindings query.parameters = .error .oversizedNumber := by
    rw [parameters]
    exact Parameter.checkBindings_append criteria refused
  refine Except.bind_eq_error.mpr (.inl ?_)
  refine Except.bind_eq_error.mpr (.inr ⟨(), conversions, ?_⟩)
  exact Except.bind_eq_error.mpr (.inr ⟨(), checkNames_windowQuery checked, bindings⟩)

end Reading

/-- Reading window by window, each of so many rows, beginning after a cursor and then after the
value of the last row received, until a window is empty: these rows are received. -/
inductive Chain {State : Type} (backend : Backend State) (state : State) (model : Model)
    (filter : Value) (field : String) (direction : Direction) (size : Nat) :
    Value → List (List Row) → Prop where
  | stop {cursor : Value}
      (given : (model.findMany (.window filter field direction none (some size) cursor)).Gives
        backend state []) :
      Chain backend state model filter field direction size cursor []
  | next {cursor value : Value} {received : List Row} {last : Row} {others : List (List Row)}
      (given : (model.findMany (.window filter field direction none (some size) cursor)).Gives
        backend state received)
      (ends : received.getLast? = some last)
      (valued : valueIn field last = .ok value)
      (followed : Chain backend state model filter field direction size value others) :
      Chain backend state model filter field direction size cursor (received :: others)

section Searching

variable {State : Type} {backend : Backend State} {state : State} {model : Model}
  {tables : List StoredTable} {filter cursor : Value} {column : ColumnRef}
  {direction : Direction} {skip take : Option Nat} {rest : List CellRow} {items : List Row}
  {size : Nat}

theorem findMany_window {conditions : List Clause} (known : model.column column.name = .ok column)
    (accepted : model.condition filter = .ok conditions) (some : skip ≠ some 0)
    (ordered : cursor.isUnordered = true → cursor.isNull = true) :
    model.findMany (.window filter column.name direction skip take cursor) =
      model.fetch (model.windowQuery conditions column direction skip take cursor) [] := by
  unfold findMany
  rw [statementOf_window known accepted some ordered]
  rfl

theorem Leaves.ordered (leaves : Leaves model tables filter column direction cursor rest)
    (unordered : cursor.isUnordered = true) : cursor.isNull = true := by
  by_contra given
  rw [(leaves.bound (Bool.eq_false_iff.mpr given)).1] at unordered
  cases unordered

theorem window_gives (windows : model.WindowsBy tables filter column)
    (reads : model.Reads backend state tables)
    (leaves : Leaves model tables filter column direction cursor rest)
    (read : rest.mapM model.readRow = .ok items) (some : skip ≠ some 0)
    (amounts : ∀ parameter ∈ Select.amountParameter take ++ Select.amountParameter skip,
      Succeeds parameter.cell) :
    (model.findMany (.window filter column.name direction skip take cursor)).Gives backend state
      (Select.slice take skip items) := by
  obtain ⟨conditions, accepted, checked⟩ := windows.paging.stated
  rw [findMany_window windows.paging.known accepted some leaves.ordered]
  apply fetch_gives
  rw [reads, rows_windowQuery windows accepted checked leaves read amounts]
  rfl

/-- With more rows than can be bound as a number, a search fails. -/
theorem window_oversized (windows : model.WindowsBy tables filter column)
    (reads : model.Reads backend state tables)
    (leaves : Leaves model tables filter column direction cursor rest)
    (some : skip ≠ some 0) (oversized : Cell.isStorable size = false) :
    ∃ events, (model.findMany (.window filter column.name direction skip (.some size)
      cursor)).Ends backend state (.error .oversizedNumber) events state := by
  obtain ⟨conditions, accepted, checked⟩ := windows.paging.stated
  rw [findMany_window windows.paging.known accepted some leaves.ordered]
  refine ⟨_, fetch_fails ?_ rfl⟩
  rw [reads, rows_windowQuery_oversized oversized (fun given => (leaves.bound given).2) checked]
  rfl

theorem amounts_bound (takeFits : ∀ n, take = some n → Cell.isStorable n = true)
    (skipFits : ∀ n, skip = some n → Cell.isStorable n = true) :
    ∀ parameter ∈ Select.amountParameter take ++ Select.amountParameter skip,
      Succeeds parameter.cell :=
  List.forall_mem_append.mpr
    ⟨Select.amountParameter_bound takeFits, Select.amountParameter_bound skipFits⟩

/-- The rows beyond a cursor are received window by window, and then an empty window. -/
theorem exists_chain (windows : model.WindowsBy tables filter column)
    (reads : model.Reads backend state tables) (positive : 0 < size)
    (storable : Cell.isStorable size = true)
    (leaves : Leaves model tables filter column direction cursor rest)
    (read : rest.mapM model.readRow = .ok items) :
    ∃ parts, Chain backend state model filter column.name direction size cursor parts ∧
      parts.flatten = items ∧ ∀ part ∈ parts, part.length ≤ size := by
  -- The rest gets shorter with every window, since a window that is not empty has a row.
  induction amount : items.length using Nat.strong_induction_on generalizing cursor rest items with
  | h amount induction =>
    have given : (model.findMany (.window filter column.name direction none (some size)
        cursor)).Gives backend state (items.take size) :=
      window_gives windows reads leaves read nofun
        (amounts_bound (fun _ same => Option.some.inj same ▸ storable) nofun)
    by_cases empty : items = []
    · subst empty
      rw [List.take_nil] at given
      exact ⟨[], .stop given, rfl, nofun⟩
    · obtain ⟨place, counted⟩ : ∃ place, min size items.length = place + 1 :=
        Nat.exists_eq_add_one.mpr (Nat.lt_min.mpr ⟨positive, List.length_pos_iff.mpr empty⟩)
      have inItems : place < items.length := by omega
      rw [List.take_eq_take_min, counted] at given
      have ends : (items.take (place + 1)).getLast? = some items[place] := by
        rw [List.getLast?_take, if_neg (Nat.succ_ne_zero place), Nat.add_sub_cancel,
          List.getElem?_eq_getElem inItems]
        rfl
      obtain ⟨value, valued, beyond, readBeyond⟩ :=
        leaves.advance windows read (List.getElem?_eq_getElem inItems)
      obtain ⟨parts, chained, all, bounded⟩ :=
        induction (items.drop (place + 1)).length (by rw [List.length_drop]; omega)
          beyond readBeyond rfl
      refine ⟨_, .next given ends valued chained, ?_, ?_⟩
      · rw [List.flatten_cons, all, List.take_append_drop]
      · refine List.forall_mem_cons.mpr ⟨?_, bounded⟩
        rw [List.length_take]
        omega

theorem Chain.unique {field : String} {parts others : List (List Row)}
    (chained : Chain backend state model filter field direction size cursor parts)
    (again : Chain backend state model filter field direction size cursor others) :
    parts = others := by
  induction chained generalizing others with
  | stop given =>
      cases again with
      | stop _ => rfl
      | next givenAgain ends _ _ =>
          cases given.unique givenAgain
          cases ends
  | next given ends valued _ induction =>
      cases again with
      | stop givenAgain =>
          cases given.unique givenAgain
          cases ends
      | next givenAgain endsAgain valuedAgain chainedAgain =>
          cases given.unique givenAgain
          cases ends.symm.trans endsAgain
          cases valued.symm.trans valuedAgain
          rw [induction chainedAgain]

/-- A window that begins after some rows is the one that begins after the value of the last of
them, whether so many rows can be asked for or not. -/
theorem window_after (windows : model.WindowsBy tables filter column)
    (reads : model.Reads backend state tables)
    (read : (model.matchingTowards tables filter column.name direction).mapM model.readRow =
      .ok items)
    {skip : Nat} {item : Row} (take : Nat) (positive : 0 < skip)
    (there : items[skip - 1]? = some item) :
    ∃ value outcome, valueIn column.name item = .ok value ∧
      outcome = (if Cell.isStorable take then .ok ((items.drop skip).take take)
        else .error .oversizedNumber) ∧
      (∃ events, (model.findMany (.window filter column.name direction (some skip) (some take)
        .null)).Ends backend state outcome events state) ∧
      ∃ events, (model.findMany (.window filter column.name direction none (some take)
        value)).Ends backend state outcome events state := by
  obtain ⟨place, rfl⟩ := Nat.exists_eq_add_one.mpr positive
  rw [Nat.add_sub_cancel] at there
  obtain ⟨value, valued, beyond, readBeyond⟩ := leaves_null.advance windows read there
  refine ⟨value, _, valued, rfl, ?_⟩
  by_cases storable : Cell.isStorable take = true
  · rw [if_pos storable]
    have skippable : Cell.isStorable (place + 1 : Nat) = true := by
      refine Cell.isStorable_of_le ?_ windows.countable
      have inItems := (List.getElem?_eq_some_iff.mp there).1
      have long : items.length = (model.matching tables filter).length := by
        rw [← (matchingTowards_perm model tables filter column.name direction).length_eq]
        exact Except.length_of_mapM read
      omega
    have takeFits (n : Nat) (same : some take = some n) : Cell.isStorable n = true :=
      Option.some.inj same ▸ storable
    constructor
    · exact window_gives windows reads leaves_null read (by simp)
        (amounts_bound takeFits fun _ same => Option.some.inj same ▸ skippable)
    · exact window_gives windows reads beyond readBeyond nofun
        (amounts_bound takeFits nofun)
  · rw [if_neg storable]
    have oversized := Bool.eq_false_iff.mpr storable
    exact ⟨window_oversized windows reads leaves_null (by simp) oversized,
      window_oversized windows reads beyond nofun oversized⟩

/-- Leaving out rows by their number and by a value of the column agrees.  Searches that begin
after the first `skip` rows in a direction, and after the value of the row at that place, end alike,
with so many of the rows after it as are asked for.  Windows that each begin after the last row
received are received to an end, and have all matching rows in order, each of them once. -/
theorem windows_agree (direction : Direction) (items : List Row)
    (windows : model.WindowsBy tables filter column) (reads : model.Reads backend state tables)
    (read : (model.matchingTowards tables filter column.name direction).mapM model.readRow =
      .ok items) :
    (model.findMany (.window filter column.name direction none none .null)).Gives backend state
      items ∧
    (∀ (skip take : Nat) (item : Row), 0 < skip → items[skip - 1]? = some item →
      ∃ value outcome, valueIn column.name item = .ok value ∧
        outcome = (if Cell.isStorable take then .ok ((items.drop skip).take take)
          else .error .oversizedNumber) ∧
        (∃ events, (model.findMany (.window filter column.name direction (some skip) (some take)
          .null)).Ends backend state outcome events state) ∧
        ∃ events, (model.findMany (.window filter column.name direction none (some take)
          value)).Ends backend state outcome events state) ∧
    ∀ size : Nat, 0 < size → Cell.isStorable size = true →
      ∃ parts, (∀ others, Chain backend state model filter column.name direction size .null others ↔
          others = parts) ∧
        parts.flatten = items ∧ ∀ part ∈ parts, part.length ≤ size := by
  refine ⟨?_, ?_, ?_⟩
  · exact window_gives windows reads leaves_null read nofun (amounts_bound nofun nofun)
  · intro skip take item positive there
    exact window_after windows reads read take positive there
  · intro size positive storable
    obtain ⟨parts, chained, all, bounded⟩ :=
      exists_chain windows reads positive storable leaves_null read
    refine ⟨parts, fun others => ⟨fun again => again.unique chained, ?_⟩, all, bounded⟩
    rintro rfl
    exact chained

end Searching

set_option maxRecDepth 8000 in
/-- The notes with one of two titles, from the last title on. -/
theorem windows_agree_notes :
    let entity : Entity :=
      ⟨"Note", [("id", { type := .int, isId := true }), ("title", { type := .string })]⟩
    let model : Model := {
      schema := ⟨⟨.sqlite, "file:./dev.db", none⟩, [entity]⟩
      entity
      dialect := .sqlite
      settings := {}
      pool := 0 }
    let note (id : Int) (title : String) : CellRow := [("id", .int id), ("title", .text title)]
    let item (id : Int) (title : String) : Row := [("id", .int id), ("title", .text title)]
    let tables : List StoredTable :=
      [{ table := model.table, rows := [note 1 "b", note 2 "d", note 3 "a"] }]
    let clock : Moment := ⟨2020, 1, 1, 0, 0, 0, 0, none⟩
    let host : Host := { pools := [.memory { tables, clock }], clock }
    let filter : Value := .object [("OR", .list [.object [("title", .text "a")],
      .object [("title", .text "b")]])]
    (model.findMany (.window filter "title" .descending (some 1) (some 5) .null)).Gives
        Host.backend host [item 3 "a"] ∧
      (model.findMany (.window filter "title" .descending none (some 5) (.text "b"))).Gives
        Host.backend host [item 3 "a"] ∧
      ∃ parts, (∀ others, Chain Host.backend host model filter "title" .descending 1 .null others ↔
          others = parts) ∧ parts.flatten = [item 1 "b", item 3 "a"] := by
  intro entity model note item tables clock host filter
  let title : ColumnRef := ⟨"notes", "title", .varchar⟩
  have table : model.table = {
      name := "notes"
      columns := [{ name := "id", type := .integer, isKey := true },
        { name := "title", type := .varchar }] } := by
    decide +kernel
  have known : model.column title.name = .ok title := by
    unfold Model.column
    rw [table]
    rfl
  have accepted : model.condition filter =
      .ok [.group (.either (.compare .equal title (.text "a"))
        (.compare .equal title (.text "b")))] := by
    have read : Filter.read model.table filter =
        .ok (.ofEntries [.any [.ofEntries [.test title (.equals (.text "a"))],
          .ofEntries [.test title (.equals (.text "b"))]]]) := by
      rw [table]
      simp only [filter, Value.text, Value.list, Filter.read, Filter.readEntries,
        Filter.readEntry, Filter.readBranches, Filter.readAll]
      rfl
    rw [condition, Filter.compile?, Filter.compile, read]
    rfl
  have matching : model.matching tables filter = [note 1 "b", note 3 "a"] := by
    decide +kernel
  have ordered : model.matchingTowards tables filter title.name .descending =
      [note 1 "b", note 3 "a"] := by
    rw [matchingTowards, matchingBy, matching]
    exact (eq_turn_sortedBy _ _ (.refl _) (by decide)).symm
  have windows : model.WindowsBy tables filter title := {
    countable := by rw [matching]; decide
    paging := {
      named := by decide +kernel
      known
      accepted := ⟨_, pageStatement_eq .null 0 known accepted fun _ => rfl, by
        dsimp only [tables, pageQuery]
        rw [table]
        rfl⟩
      present := by rw [matching]; decide
      distinct := by rw [matching]; decide
      kept := by
        rw [matching]
        intro row member
        have text : ∃ s, CellRow.cell row title.name = .text s := by
          simp only [List.mem_cons, List.not_mem_nil, or_false] at member
          rcases member with rfl | rfl <;> exact ⟨_, rfl⟩
        obtain ⟨s, cell⟩ := text
        rw [cell]
        exact ⟨rfl, by simp, by simp, by rintro ⟨⟩⟩ } }
  have reads : model.Reads Host.backend host tables := fun _ => rfl
  have read : (model.matchingTowards tables filter title.name .descending).mapM model.readRow =
      .ok [item 1 "b", item 3 "a"] := by
    rw [ordered]
    unfold readRow
    rw [table]
    rfl
  obtain ⟨-, agree, chains⟩ := windows_agree .descending _ windows reads read
  obtain ⟨value, outcome, valued, rfl, byNumber, byValue⟩ := agree 1 5 _ Nat.one_pos rfl
  obtain ⟨parts, only, all, -⟩ := chains 1 Nat.one_pos (by decide)
  cases valued
  exact ⟨byNumber, byValue, parts, only, all⟩

/-- A moment that is not kept in its bound form lies beyond itself as a cursor. -/
example : fulfilsBound .less ⟨"events", "at", .timestamp⟩
    (.scalar (.moment ⟨2020, 1, 2, 0, 0, 0, 0, none⟩)) [("at", .text "2020-01-02 00:00:00")] =
      true := by
  decide +kernel

end Model
end SchemaStore
