import SchemaStore.Proofs.Query.Fetching
import SchemaStore.Proofs.Query.Lookup

/-!
# The row after a page

A page holds the first of the rows that it is asked for, in the order of a column whose
cells may be missing and may repeat, and tells from one row more whether others were left
out.  The value of that row is the cursor of the next page.  Rows without a value come
first, so it is missing although there is a next page when more of them match than a page
holds; nothing else goes wrong with a page.
-/

namespace SchemaStore

open SchemaStore.Except (Succeeds)

section Missing

variable {α : Type} {key : α → Cell}

/-- Whether items stand in the order of their cells, the equal ones in any order. -/
def Ascending (key : α → Cell) (items : List α) : Prop :=
  items.Pairwise fun first second => ((key first).compare (key second)).isLE = true

theorem sortedBy_ascending (items : List α) : Ascending key (sortedBy key items) := by
  apply List.pairwise_mergeSort
  · exact fun first second third => Std.TransCmp.isLE_trans
  · intro first second
    rw [Cell.compare_swap (key second)]
    cases (key first).compare (key second) <;> rfl

theorem Cell.eq_null_of_isLE {cell : Cell} (before : (cell.compare .null).isLE = true) :
    cell = .null := by
  cases cell with
  | null => rfl
  | int | real | text | blob => cases before

/-- Missing cells stand first. -/
theorem Ascending.missing_iff {items : List α} (ascending : Ascending key items) {place : Nat}
    {item : α} (there : items[place]? = some item) :
    key item = .null ↔ place < items.countP (key · == .null) := by
  induction items generalizing place with
  | nil => cases there
  | cons first rest induction =>
      obtain ⟨before, restAscending⟩ := List.pairwise_cons.mp ascending
      cases missing : key first == .null with
      | true =>
          have one : (first :: rest).countP (key · == .null) = rest.countP (key · == .null) + 1 :=
            List.countP_cons_of_pos missing
          rw [one]
          cases place with
          | zero =>
              cases there
              exact iff_of_true (beq_iff_eq.mp missing) (Nat.succ_pos _)
          | succ place => rw [induction restAscending there, Nat.succ_lt_succ_iff]
      | false =>
          -- After a cell that is there, none is missing.
          have filled : ∀ other ∈ first :: rest, key other ≠ .null := by
            rw [List.forall_mem_cons]
            refine ⟨beq_eq_false_iff_ne.mp missing, fun other member empty => ?_⟩
            have earlier := before other member
            rw [empty] at earlier
            exact beq_eq_false_iff_ne.mp missing (Cell.eq_null_of_isLE earlier)
          have none : (first :: rest).countP (key · == .null) = 0 := by
            rw [List.countP_eq_zero]
            exact fun other member => by simpa using filled other member
          rw [none]
          exact iff_of_false (filled item (List.mem_of_getElem? there)) (Nat.not_lt_zero _)

end Missing

theorem ColumnType.read_isNull {type : ColumnType} {cell : Cell} {value : Value}
    (read : type.read cell = .ok value) : value.isNull = true ↔ cell = .null := by
  by_cases timed : type = .timestamp
  · subst timed
    cases cell with
    | null =>
        cases read
        exact iff_of_true rfl rfl
    | text s =>
        simp only [ColumnType.read] at read
        split at read
        · cases read
          exact iff_of_false Bool.false_ne_true Cell.noConfusion
        · cases read
    | int | real | blob => cases read
  · rw [ColumnType.read_eq_value timed] at read
    cases read
    cases cell <;> simp [Cell.value, Value.isNull, Value.null, Value.int, Value.text]

namespace Model

/-- The matching rows that a page may hold: those that its cursor reaches. -/
def asked (model : Model) (tables : List StoredTable) (filter : Value) (column : ColumnRef)
    (cursor : Value) : List CellRow :=
  (model.matching tables filter).filter (reaches column cursor)

section Statement

variable {model : Model} {tables : List StoredTable} {filter cursor : Value} {column : ColumnRef}
  {conditions : List Clause} {size : Nat}

/-- A cursor reaches no row without a value. -/
theorem present_of_reaches (given : cursor.isNull = false) {row : CellRow}
    (reached : reaches column cursor row = true) : CellRow.cell row column.name ≠ .null := by
  intro missing
  rw [reaches, given, missing] at reached
  cases reached

/-- Only without a cursor a page is asked for rows without a value. -/
theorem missing_asked_le (size : Nat) :
    (model.asked tables filter column cursor).countP (CellRow.cell · column.name == .null) ≤ size ↔
      (cursor.isNull = true →
        (model.matching tables filter).countP (CellRow.cell · column.name == .null) ≤ size) := by
  unfold asked
  cases given : cursor.isNull with
  | true =>
      have all : (model.matching tables filter).filter (reaches column cursor) =
          model.matching tables filter := by
        rw [List.filter_eq_self]
        intro row _
        rw [reaches, given]
        rfl
      rw [all]
      exact ⟨fun few _ => few, fun few => few rfl⟩
  | false =>
      have none : ((model.matching tables filter).filter (reaches column cursor)).countP
          (CellRow.cell · column.name == .null) = 0 := by
        rw [List.countP_eq_zero]
        intro row member
        simpa using present_of_reaches given (List.mem_filter.mp member).2
      rw [none]
      exact iff_of_true (Nat.zero_le size) nofun

theorem exists_of_pageStatement {name : String} {query : Select}
    (stated : model.pageStatement filter (.text name) cursor size = .ok query) :
    ∃ column conditions, model.column name = .ok column ∧ column.name = name ∧
      model.condition filter = .ok conditions ∧
      query = model.pageQuery conditions column cursor size := by
  obtain ⟨column, known, rest⟩ := Except.bind_eq_ok.mp stated
  obtain ⟨conditions, accepted, rest⟩ := Except.bind_eq_ok.mp rest
  obtain ⟨-, own, -, rfl, named⟩ := column_eq_ref known
  refine ⟨_, conditions, known, named, accepted, ?_⟩
  by_cases refused : (cursor.isUnordered && !cursor.isNull) = true
  · cases rest.symm.trans (if_pos refused)
  · cases rest.symm.trans (if_neg refused)
    rfl

/-- The statement of a page stands at the first of the asked rows, in the order of the column. -/
theorem exists_ascending (known : model.column column.name = .ok column)
    (accepted : model.condition filter = .ok conditions)
    (checked : (model.pageQuery conditions column cursor size).check tables = .ok ()) :
    ∃ ordered, ordered.Perm (model.asked tables filter column cursor) ∧
      Ascending (CellRow.cell · column.name) ordered ∧
      (model.pageQuery conditions column cursor size).rows tables =
        (ordered.take (size + 1)).mapM model.readRow := by
  let query := model.pageQuery conditions column cursor size
  refine ⟨sortedBy (CellRow.cell · column.name) ((query.visited tables).filter fun row =>
    Clause.holdAll (rowScope model.table row).cell query.criteria),
    (sortedBy_perm _ _).trans ?_, sortedBy_ascending _, ?_⟩
  · have reached : (query.visited tables).filter (fun row =>
        Clause.holdAll (rowScope model.table row).cell query.criteria) =
          ((query.visited tables).filter (model.matchesRow filter)).filter
            (reaches column cursor) := by
      rw [List.filter_filter]
      refine List.filter_congr fun row _ => ?_
      exact (holdAll_pageQuery known accepted row).trans (Bool.and_comm ..)
    rw [reached]
    exact (visited_matching tables filter rfl).filter _
  · rw [Select.rows, checked, Except.ok_bind,
      Select.scopes_of_single column rfl rfl rfl rfl rfl (column_eq_ref known).1, List.mapM_map]
    rfl

/-- A page that can be read is read from those rows. -/
theorem check_of_rows {query : Select} {items : List Row} (read : query.rows tables = .ok items) :
    query.check tables = .ok () := by
  obtain ⟨⟨⟩, checked, -⟩ := Except.bind_eq_ok.mp read
  exact checked

end Statement

section Page

variable {State : Type} {backend : Backend State} {state : State} {model : Model}
  {tables : List StoredTable} {filter orderBy take cursor : Value} {name : String} {size : Nat}

/-- The value of the row after a page; there is none after the last one. -/
def lookahead (name : String) (items : List Row) (size : Nat) : Except Failure Value :=
  match items[size]? with
  | some item => valueIn name item
  | none => .ok .null

/-- The value after a page is missing if no row follows, or one whose cell is missing. -/
theorem exists_lookahead (named : (model.table.columns.map Column.name).Nodup)
    {column : ColumnRef} (known : model.column column.name = .ok column) {ordered : List CellRow}
    {items : List Row} (ascending : Ascending (CellRow.cell · column.name) ordered)
    (read : (ordered.take (size + 1)).mapM model.readRow = .ok items) :
    ∃ next, lookahead column.name items size = .ok next ∧
      (next.isNull = true ↔ ordered.length ≤ size ∨
        size < ordered.countP (CellRow.cell · column.name == .null)) := by
  have long : (ordered.take (size + 1)).length = items.length := (Except.length_of_mapM read).symm
  rw [List.length_take] at long
  unfold lookahead
  cases place : items[size]? with
  | none =>
      have short := List.getElem?_eq_none_iff.mp place
      exact ⟨.null, rfl, iff_of_true rfl (.inl (by omega))⟩
  | some item =>
      have inItems : size < items.length := (List.getElem?_eq_some_iff.mp place).1
      obtain ⟨row, value, following, valueRead, valued⟩ :=
        exists_row_of_read named known read place
      have there : ordered[size]? = some row := by
        rw [← List.getElem?_take_of_lt (Nat.lt_succ_self size), ← List.head?_drop, following]
        rfl
      refine ⟨value, valued, ?_⟩
      rw [ColumnType.read_isNull valueRead, ascending.missing_iff there]
      omega

/-- A page is given for the rows of its statement. -/
theorem paginate_gives_iff (reads : model.Reads backend state tables)
    (chosen : (if orderBy.truthy then orderBy else .text model.idField) = .text name)
    (sized : pageSize? take = some size) (page : Page) :
    (model.paginate filter orderBy take cursor).Gives backend state page ↔
      ∃ query items next, model.pageStatement filter (.text name) cursor size = .ok query ∧
        query.rows tables = .ok items ∧ lookahead name items size = .ok next ∧
        page = {
          items := items.take size
          nextCursor := next
          cursor
          hasNext := items.length > size
          hasPrevious := !cursor.isNull
          size } := by
  unfold paginate
  rw [sized]
  dsimp only
  rw [chosen]
  constructor
  · rintro ⟨events, ran⟩
    rcases Program.Ends.ofResult_bind_cases ran with
      ⟨_, -, ⟨⟩, -⟩ | ⟨query, stated, ran⟩
    rcases Program.Ends.bind_cases ran with
      ⟨_, ⟨⟩, -⟩ | ⟨items, between, _, _, fetched, ran, -⟩
    obtain ⟨rfl, rows⟩ := ok_of_fetch reads fetched
    unfold lookahead
    cases place : items[size]? with
    | some item =>
        rw [place] at ran
        rcases Program.Ends.ofResult_bind_cases ran with
          ⟨_, -, ⟨⟩, -⟩ | ⟨next, following, given⟩
        cases given
        refine ⟨query, items, next, stated, rows, ?_, rfl⟩
        rw [place]
        exact following
    | none =>
        rw [place] at ran
        cases ran
        refine ⟨query, items, .null, stated, rows, ?_, rfl⟩
        rw [place]
  · rintro ⟨query, items, next, stated, rows, following, rfl⟩
    have answered : backend (.execute model.pool (.select query)) state =
        (.ok { rows := items }, state) := by
      rw [reads, rows]
      rfl
    rw [stated]
    refine (Program.Gives.ofResult _).bind ((fetch_gives answered).bind ?_)
    unfold lookahead at following
    cases place : items[size]? with
    | some item =>
        rw [place] at following
        have value : fieldIn (.text name) item = .ok next := following
        dsimp only
        rw [value]
        exact (Program.Gives.ofResult next).bind (Program.Gives.ofResult _)
    | none =>
        rw [place] at following
        cases following
        exact (Program.Gives.ofResult Value.null).bind (Program.Gives.ofResult _)

/-- A page divides rows into those that it holds, which come first in the order of a column, and
those that it leaves out, and tells whether there are any. -/
structure Divides (model : Model) (column : ColumnRef) (page : Page)
    (asked held left : List CellRow) : Prop where
  complete : (held ++ left).Perm asked
  ascending : Ascending (CellRow.cell · column.name) (held ++ left)
  read : held.mapM model.readRow = .ok page.items
  more : page.hasNext = true ↔ left ≠ []

/-- A page is given if its statement is accepted and carried out.  It holds the first of the asked
rows, at most as many as its size, and tells whether others are left out; it has the cursor that it
was asked for with, and a next cursor only if there is a next page.  There is a next cursor for
every next page unless the first page leaves out a row without a value. -/
theorem paginate_divides (valid : model.entity.Valid) (reads : model.Reads backend state tables)
    (chosen : (if orderBy.truthy then orderBy else .text model.idField) = .text name)
    (sized : pageSize? take = some size) :
    ((∃ page, (model.paginate filter orderBy take cursor).Gives backend state page) ↔
      ∃ query, model.pageStatement filter (.text name) cursor size = .ok query ∧
        Succeeds (query.rows tables)) ∧
    ∀ page, (model.paginate filter orderBy take cursor).Gives backend state page →
      page.items.length ≤ size ∧ page.size = size ∧ page.cursor = cursor ∧
      page.hasPrevious = !cursor.isNull ∧
      (∃ column, model.column name = .ok column ∧ ∃ held left,
        model.Divides column page (model.asked tables filter column cursor) held left) ∧
      (page.nextCursor.isNull = false → page.hasNext = true) ∧
      ((page.nextCursor.isNull = false ↔ page.hasNext = true) ↔
        (cursor.isNull = true →
          (model.matching tables filter).countP (CellRow.cell · name == .null) ≤ size)) := by
  have named := columns_nodup valid
  constructor
  · simp only [paginate_gives_iff reads chosen sized]
    constructor
    · rintro ⟨_, query, items, _, stated, rows, -, -⟩
      exact ⟨query, stated, items, rows⟩
    · rintro ⟨query, stated, items, rows⟩
      obtain ⟨column, conditions, known, rfl, accepted, rfl⟩ := exists_of_pageStatement stated
      obtain ⟨ordered, -, ascending, read⟩ :=
        exists_ascending known accepted (check_of_rows rows)
      rw [rows] at read
      obtain ⟨next, following, -⟩ := exists_lookahead named known ascending read.symm
      exact ⟨_, _, items, next, stated, rows, following, rfl⟩
  · intro page given
    obtain ⟨query, items, next, stated, rows, following, rfl⟩ :=
      (paginate_gives_iff reads chosen sized page).mp given
    obtain ⟨column, conditions, known, rfl, accepted, rfl⟩ := exists_of_pageStatement stated
    obtain ⟨ordered, same, ascending, read⟩ :=
      exists_ascending known accepted (check_of_rows rows)
    rw [rows] at read
    obtain ⟨value, valued, missing⟩ := exists_lookahead named known ascending read.symm
    cases valued.symm.trans following
    have each := Except.mapM_eq_ok.mp read.symm
    have long : min (size + 1) ordered.length = items.length := by
      simpa using congrArg List.length each
    have more : items.length > size ↔ size < ordered.length := by omega
    have present : next.isNull = false ↔ size < ordered.length ∧
        ordered.countP (CellRow.cell · column.name == .null) ≤ size := by
      rw [← Bool.not_eq_true, missing]
      omega
    refine ⟨List.length_take_le size items, rfl, rfl, rfl, ⟨column, known, ordered.take size,
      ordered.drop size, ?_, ?_, ?_, ?_⟩, ?_, ?_⟩
    · rwa [List.take_append_drop]
    · rwa [List.take_append_drop]
    · have first := congrArg (List.take size) each
      rw [← List.map_take, ← List.map_take, List.take_take, Nat.min_eq_left (Nat.le_succ size)]
        at first
      exact Except.mapM_eq_ok.mpr first
    · simp [more]
    · exact fun given => decide_eq_true (more.mpr (present.mp given).1)
    · have fewer : ordered.countP (CellRow.cell · column.name == .null) ≤ ordered.length :=
        List.countP_le_length
      rw [← missing_asked_le size, ← same.countP_eq, present, decide_eq_true_iff, more]
      omega

end Page

/-- Of three users two have no age: the first page of one user ordered by the age has a next page,
but no cursor of it. -/
theorem paginate_divides_users :
    let entity : Entity :=
      ⟨"User", [("id", { type := .int, isId := true }), ("age", { type := .int, isOptional := true })]⟩
    let model : Model := {
      schema := ⟨⟨.sqlite, "file:./dev.db", none⟩, [entity]⟩
      entity
      dialect := .sqlite
      settings := {}
      pool := 0 }
    let user (id : Int) (age : Cell) : CellRow := [("id", .int id), ("age", age)]
    let tables : List StoredTable :=
      [{ table := model.table, rows := [user 1 .null, user 2 (.int 5), user 3 .null] }]
    let clock : Moment := ⟨2020, 1, 1, 0, 0, 0, 0, none⟩
    let host : Host := { pools := [.memory { tables, clock }], clock }
    ∃ page, (model.paginate .null (.text "age") (.int 1) .null).Gives Host.backend host page ∧
      page.hasNext = true ∧ page.nextCursor.isNull = true := by
  intro entity model user tables clock host
  let age : ColumnRef := ⟨"users", "age", .integer⟩
  have table : model.table = {
      name := "users"
      columns := [{ name := "id", type := .integer, isKey := true },
        { name := "age", type := .integer, nullable := true }] } := by
    decide +kernel
  have valid : entity.Valid := by
    rw [Entity.valid_iff]
    decide
  have known : model.column age.name = .ok age := by
    unfold Model.column
    rw [table]
    rfl
  have reads : model.Reads Host.backend host tables := fun _ => rfl
  have accepted : model.condition .null = .ok [] := rfl
  have stated := pageStatement_eq .null 1 known accepted fun _ => rfl
  have checked : (model.pageQuery [] age .null 1).check tables = .ok () := by
    dsimp only [tables, pageQuery]
    rw [table]
    rfl
  have readable : ∀ row ∈ model.asked tables .null age .null, Succeeds (model.readRow row) := by
    decide +kernel
  have carriedOut : Succeeds ((model.pageQuery [] age .null 1).rows tables) := by
    obtain ⟨ordered, same, -, read⟩ := exists_ascending known accepted checked
    rw [read, Except.succeeds_mapM]
    exact fun row member => readable row (same.mem_iff.mp (List.mem_of_mem_take member))
  obtain ⟨given, divides⟩ := @paginate_divides _ Host.backend host model tables .null
    (.text "age") (.int 1) .null "age" 1 valid reads rfl rfl
  obtain ⟨page, given⟩ := given.mpr ⟨_, stated, carriedOut⟩
  obtain ⟨-, -, -, -, -, onlyNext, defined⟩ := divides page given
  have two : ¬(model.matching tables .null).countP (CellRow.cell · "age" == .null) ≤ 1 := by
    decide +kernel
  have broken := mt defined.mp fun few => two (few rfl)
  refine ⟨page, given, ?_, ?_⟩
  · by_contra last
    exact broken ⟨onlyNext, fun more => absurd more last⟩
  · by_contra present
    have isDefined : page.nextCursor.isNull = false := Bool.eq_false_iff.mpr present
    exact broken (iff_of_true isDefined (onlyNext isDefined))

end Model
end SchemaStore
