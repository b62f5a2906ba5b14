import Mathlib.Data.List.Sort
import SchemaStore.Database.Reading
import SchemaStore.Proofs.Clause.Evaluation
import SchemaStore.Proofs.Database.Order
import SchemaStore.Proofs.Outcome

/-!
# Rows of a reading

A reading of one table, ordered by one column whose cells differ, gives the rows that
fulfil its conditions in the order of the column, up to its limit.  Which way the
rows were visited does not matter.
-/

namespace SchemaStore

section Sorting

variable {α : Type} (key : α → Cell)

/-- Items in the order of their cells. -/
def sortedBy (items : List α) : List α :=
  items.mergeSort fun first second => ((key first).compare (key second)).isLE

theorem sortedBy_perm (items : List α) : (sortedBy key items).Perm items :=
  List.mergeSort_perm _ _

theorem compare_ne_symm {first second : α} (differ : (key first).compare (key second) ≠ .eq) :
    (key second).compare (key first) ≠ .eq := by
  rw [Cell.compare_swap]
  simpa using differ

/-- Items whose cells differ stand in strict order. -/
theorem sortedBy_pairwise {items : List α}
    (distinct : items.Pairwise fun first second => (key first).compare (key second) ≠ .eq) :
    (sortedBy key items).Pairwise fun first second =>
      (key first).compare (key second) = .lt := by
  have ordered : (sortedBy key items).Pairwise fun first second =>
      ((key first).compare (key second)).isLE = true := by
    apply List.pairwise_mergeSort
    · exact fun first second third => Std.TransCmp.isLE_trans
    · intro first second
      rw [Cell.compare_swap (key second)]
      cases (key first).compare (key second) <;> rfl
  have differ := (sortedBy_perm key items).symm.pairwise distinct (compare_ne_symm key)
  refine (ordered.and differ).imp fun {first second} both => ?_
  cases order : (key first).compare (key second) with
  | lt => rfl
  | eq => exact absurd order both.2
  | gt => rw [order] at both; cases both.1

/-- The items in strict order are the sorted ones. -/
theorem sortedBy_eq {items ordered : List α} (perm : ordered.Perm items)
    (strict : ordered.Pairwise fun first second => (key first).compare (key second) = .lt) :
    sortedBy key items = ordered := by
  have distinct : items.Pairwise fun first second => (key first).compare (key second) ≠ .eq := by
    refine perm.pairwise (strict.imp fun before same => ?_) (compare_ne_symm key)
    rw [before] at same
    cases same
  refine ((sortedBy_perm key items).trans perm.symm).eq_of_pairwise ?_
    (sortedBy_pairwise key distinct) strict
  intro first second _ _ before after
  rw [Cell.compare_swap, before] at after
  cases after

/-- Some of the items, in any order, are sorted like all of them. -/
theorem sortedBy_filter {items others : List α} (same : others.Perm items)
    (distinct : items.Pairwise fun first second => (key first).compare (key second) ≠ .eq)
    (keep : α → Bool) :
    sortedBy key (others.filter keep) = (sortedBy key items).filter keep :=
  sortedBy_eq key (((sortedBy_perm key items).trans same.symm).filter keep)
    ((sortedBy_pairwise key distinct).filter keep)

/-- Of items in strict order, those from an item on have no lesser cells. -/
theorem filter_from {before after : List α} {item : α}
    (ordered : (before ++ item :: after).Pairwise fun first second =>
      (key first).compare (key second) = .lt) :
    ((before ++ item :: after).filter fun other => (key other).compare (key item) != .lt) =
      item :: after := by
  obtain ⟨-, rest, apart⟩ := List.pairwise_append.mp ordered
  obtain ⟨later, -⟩ := List.pairwise_cons.mp rest
  have noneBefore : before.filter (fun other => (key other).compare (key item) != .lt) = [] := by
    rw [List.filter_eq_nil_iff]
    intro other member
    simp [apart other member item List.mem_cons_self]
  have allAfter : (item :: after).filter (fun other => (key other).compare (key item) != .lt) =
      item :: after := by
    rw [List.filter_eq_self]
    intro other member
    rcases List.mem_cons.mp member with rfl | member
    · simp [Cell.compare_self]
    · rw [Cell.compare_swap, later other member]
      rfl
  rw [List.filter_append, noneBefore, allAfter, List.nil_append]

end Sorting

/-- The conditions of a statement hold when each of them does. -/
theorem Clause.holdAll_eq_all (cellOf : ColumnRef → Cell) (conditions : List Clause) :
    holdAll cellOf conditions = conditions.all fun clause => (clause.eval cellOf).holds := by
  have asOne (clauses : List Clause) : ((allOf clauses).eval cellOf).holds =
      clauses.all fun clause => (clause.eval cellOf).holds := by
    rw [eval_allOf, Truth.holds_all, List.all_map]
    rfl
  unfold holdAll criteria
  split
  · next none =>
    split at none
    · rfl
    all_goals cases none
  · next clause some =>
    split at some
    · cases some
    · cases some
      simp [eval]
    · cases some
      exact asOne _

namespace Parameter

theorem checkConversions_of_cells {parameters : List Parameter}
    (bound : ∀ parameter ∈ parameters, Except.Succeeds parameter.cell) :
    checkConversions parameters = .ok () := by
  induction parameters with
  | nil => rfl
  | cons parameter rest induction =>
      obtain ⟨⟨cell, first⟩, others⟩ := List.forall_mem_cons.mp bound
      obtain ⟨value, converted, -⟩ := Except.bind_eq_ok.mp first
      exact Except.bind_eq_ok.mpr ⟨value, converted, induction others⟩

theorem checkBindings_eq_ok {parameters : List Parameter} :
    checkBindings parameters = .ok () ↔
      ∀ parameter ∈ parameters, Except.Succeeds parameter.cell := by
  induction parameters with
  | nil => simp [checkBindings]
  | cons parameter rest induction =>
      rw [checkBindings, Except.bind_eq_ok, List.forall_mem_cons, ← induction]
      constructor
      · rintro ⟨cell, first, others⟩
        exact ⟨⟨cell, first⟩, others⟩
      · rintro ⟨⟨cell, first⟩, others⟩
        exact ⟨cell, first, others⟩

end Parameter

theorem Database.require_eq_ok {tables : List StoredTable} {name : String} {stored : StoredTable} :
    require tables name = .ok stored ↔ find? tables name = some stored := by
  unfold require
  cases find? tables name <;> simp

namespace Select

variable {query other : Select} {tables : List StoredTable}

/-- A statement can be carried out if its names are known and its parameters can be bound. -/
theorem check_eq_ok : query.check tables = .ok () ↔
    query.checkNames tables = .ok () ∧
      ∀ parameter ∈ query.parameters, Except.Succeeds parameter.cell := by
  rw [check, Except.bind_eq_ok]
  constructor
  · rintro ⟨⟨⟩, -, rest⟩
    obtain ⟨⟨⟩, names, bindings⟩ := Except.bind_eq_ok.mp rest
    exact ⟨names, Parameter.checkBindings_eq_ok.mp bindings⟩
  · rintro ⟨names, bound⟩
    exact ⟨(), Parameter.checkConversions_of_cells bound,
      Except.bind_eq_ok.mpr ⟨(), names, Parameter.checkBindings_eq_ok.mpr bound⟩⟩

/-- Whether a column of a statement is one of its sources'. -/
def Knows (query : Select) (tables : List StoredTable) (column : ColumnRef) : Prop :=
  ∃ source ∈ query.sources, source.1 = column.source ∧
    ∃ stored, Database.find? tables source.2.name = some stored ∧
      (stored.table.column? column.name).isSome = true

/-- The names of a statement are known if its tables are there, its sources have different names
and its columns are columns of these. -/
theorem checkNames_eq_ok : query.checkNames tables = .ok () ↔
    (∀ source ∈ query.sources, ∃ stored, Database.find? tables source.2.name = some stored) ∧
      (query.sources.map (·.1)).Pairwise (Database.sameName · · = false) ∧
      ∀ column ∈ query.columns, query.Knows tables column := by
  let step (source : String × Table) : Except Failure (String × StoredTable) := do
    return (source.1, ← Database.require tables source.2.name)
  have step_eq_ok {source : String × Table} {entry : String × StoredTable} :
      step source = .ok entry ↔
        ∃ stored, Database.find? tables source.2.name = some stored ∧ (source.1, stored) = entry :=
    Except.map_eq_ok.trans (by simp only [Database.require_eq_ok])
  have known {stored : List (String × StoredTable)} (found : query.sources.mapM step = .ok stored)
      (column : ColumnRef) :
      (stored.any fun entry =>
        entry.1 == column.source && (entry.2.table.column? column.name).isSome) = true ↔
          query.Knows tables column := by
    rw [List.any_eq_true]
    constructor
    · rintro ⟨entry, member, both⟩
      obtain ⟨source, sourceMember, stepped⟩ := Except.exists_of_mem_mapM found member
      obtain ⟨own, there, rfl⟩ := step_eq_ok.mp stepped
      obtain ⟨same, declared⟩ := Bool.and_eq_true_iff.mp both
      exact ⟨source, sourceMember, beq_iff_eq.mp same, own, there, declared⟩
    · rintro ⟨source, sourceMember, same, own, there, declared⟩
      refine ⟨(source.1, own), ?_, Bool.and_eq_true_iff.mpr ⟨beq_iff_eq.mpr same, declared⟩⟩
      exact Except.mem_of_mapM found sourceMember (step_eq_ok.mpr ⟨own, there, rfl⟩)
  have tablesKnown : Except.Succeeds (query.sources.mapM step) ↔
      ∀ source ∈ query.sources, ∃ stored,
        Database.find? tables source.2.name = some stored := by
    rw [Except.succeeds_mapM]
    refine forall₂_congr fun source _ => ⟨?_, ?_⟩
    · rintro ⟨entry, stepped⟩
      obtain ⟨stored, there, -⟩ := step_eq_ok.mp stepped
      exact ⟨stored, there⟩
    · rintro ⟨stored, there⟩
      exact ⟨(source.1, stored), step_eq_ok.mpr ⟨stored, there, rfl⟩⟩
  rw [← tablesKnown, checkNames]
  constructor
  · intro checked
    obtain ⟨stored, found, rest⟩ := Except.bind_eq_ok.mp checked
    dsimp only at rest
    split at rest
    · cases rest
    · next apart =>
      split at rest
      · cases rest
      · next declared =>
        refine ⟨⟨stored, found⟩, by simpa using apart, fun column member => ?_⟩
        have there := List.find?_eq_none.mp declared column member
        rw [Bool.not_eq_true, Bool.not_eq_false'] at there
        exact (known found column).mp there
  · rintro ⟨⟨stored, found⟩, apart, declared⟩
    refine Except.bind_eq_ok.mpr ⟨stored, found, ?_⟩
    have none : query.columns.find? (fun column => !stored.any fun entry =>
        entry.1 == column.source && (entry.2.table.column? column.name).isSome) = none :=
      List.find?_eq_none.mpr fun column member => by
        simp [(known found column).mpr (declared column member)]
    dsimp only
    rw [if_neg (by simpa using apart), none]

/-- A statement that names no more than another one finds its names, too. -/
theorem checkNames_of_subset (query : Select) (sources : other.sources = query.sources)
    (columns : other.columns ⊆ query.columns) (checked : query.checkNames tables = .ok ()) :
    other.checkNames tables = .ok () := by
  obtain ⟨there, apart, known⟩ := checkNames_eq_ok.mp checked
  refine checkNames_eq_ok.mpr ⟨sources ▸ there, sources ▸ apart, fun column member => ?_⟩
  unfold Knows
  rw [sources]
  exact known column (columns member)

end Select

/-- What was put last under a name is found there; with distinct names that is every value. -/
theorem Record.get?_putAll {α : Type} {entries : Record α} (distinct : entries.keys.Nodup)
    {name : String} {value : α} (member : (name, value) ∈ entries) (record : Record α) :
    (record.putAll entries).get? name = some value := by
  have absent {others : Record α} (missing : name ∉ others.keys) (known : Record α) :
      (known.putAll others).get? name = known.get? name := by
    induction others generalizing known with
    | nil => rfl
    | cons entry rest induction =>
        obtain ⟨differs, later⟩ := not_or.mp (mt List.mem_cons.mpr missing)
        rw [putAll, List.foldl_cons]
        refine (induction later _).trans ?_
        rw [get?_put, if_neg differs]
  induction entries generalizing record with
  | nil => cases member
  | cons entry rest induction =>
      obtain ⟨fresh, restDistinct⟩ := List.nodup_cons.mp distinct
      rw [putAll, List.foldl_cons]
      rcases List.mem_cons.mp member with rfl | later
      · refine (absent fresh _).trans ?_
        rw [get?_put, if_pos rfl]
      · exact induction restDistinct later _

namespace Select

/-- Columns with different names are labelled by their names. -/
theorem labels_all (table : Table) (distinct : (table.columns.map Column.name).Nodup) :
    (Select.all table).labels = table.columns.map Column.name := by
  have after (columns : List Column) (seen : List String)
      (distinct : (columns.map Column.name).Nodup)
      (fresh : ∀ name ∈ columns.map Column.name, name ∉ seen) :
      labelsAfter seen (columns.map fun column => ⟨column.ref table.name, none⟩) =
        columns.map Column.name := by
    induction columns generalizing seen with
    | nil => rfl
    | cons column rest induction =>
        obtain ⟨first, restDistinct⟩ := List.nodup_cons.mp distinct
        obtain ⟨new, others⟩ := List.forall_mem_cons.mp fresh
        have unseen : seen.count column.name = 0 := List.count_eq_zero.mpr new
        simp only [List.map_cons, labelsAfter, Column.ref, unseen, if_true]
        congr 1
        apply induction _ restDistinct
        intro name member
        rw [List.mem_cons, not_or]
        refine ⟨?_, others name member⟩
        rintro rfl
        exact first member
  exact after table.columns [] distinct (by simp)

/-- A row that was read has the value of every column under the column's name. -/
theorem get?_of_rowOf {table : Table} (distinct : (table.columns.map Column.name).Nodup)
    {scope : Scope} {item : Row} (read : (Select.all table).rowOf scope = .ok item)
    {column : Column} (member : column ∈ table.columns) :
    ∃ value, column.type.read (scope.cell (column.ref table.name)) = .ok value ∧
      item.get? column.name = some value := by
  obtain ⟨values, valuesRead, made⟩ := Except.bind_eq_ok.mp read
  rw [labels_all table distinct] at made
  cases made
  have same : table.columns.map (fun column =>
      column.type.read (scope.cell (column.ref table.name))) = values.map .ok := by
    have each := Except.mapM_eq_ok.mp valuesRead
    rwa [all, List.map_map] at each
  have size : table.columns.length = values.length := by
    simpa using congrArg List.length same
  obtain ⟨place, inside, here⟩ := List.getElem_of_mem member
  have filled : place < values.length := size ▸ inside
  have found : column.type.read (scope.cell (column.ref table.name)) = .ok values[place] := by
    have atPlace := List.getElem_of_eq same (by simpa using inside)
    simpa [here] using atPlace
  refine ⟨values[place], found, Record.get?_putAll ?_ ?_ []⟩
  · rw [Record.keys, List.map_fst_zip (by simp [size])]
    exact distinct
  · exact List.mem_iff_getElem.mpr ⟨place, by simp [inside, filled], by simp [here]⟩

end Select

/-- The scope of a statement on one table that stands at a row. -/
def rowScope (table : Table) (row : CellRow) : Scope :=
  [(table.name, row)]

theorem rowScope_cell (table : Table) (row : CellRow) {column : ColumnRef}
    (own : column.source = table.name) :
    (rowScope table row).cell column = CellRow.cell row column.name := by
  simp [rowScope, Scope.cell, Record.get?, own]

/-- The rows of one table that fulfil the conditions of a statement. -/
theorem Select.filter_joined_of_single {query : Select} (tables : List StoredTable)
    (single : query.joins = []) :
    ((query.joined tables).filter fun scope => Clause.holdAll scope.cell query.criteria) =
      ((query.visited tables).filter fun row =>
        Clause.holdAll (rowScope query.table row).cell query.criteria).map
          (rowScope query.table) := by
  have joined : query.joined tables = (query.visited tables).map (rowScope query.table) := by
    rw [Select.joined, single]
    rfl
  rw [joined, List.filter_map]
  rfl

theorem Select.slice_map {α β : Type} (f : α → β) (limit offset : Option Nat) (items : List α) :
    slice limit offset (items.map f) = (slice limit offset items).map f := by
  cases limit <;> simp [slice, List.map_drop, List.map_take]

/-- The rows of one table that a statement gives, in the order of a column. -/
theorem Select.scopes_of_ordered {query : Select} (tables : List StoredTable) (column : ColumnRef)
    (single : query.joins = []) (plain : query.distinct = false)
    (ordered : query.orderings = [⟨column, true⟩]) (own : column.source = query.table.name) :
    query.scopes tables =
      (slice query.limit query.offset (sortedBy (fun row => CellRow.cell row column.name)
        ((query.visited tables).filter fun row =>
          Clause.holdAll (rowScope query.table row).cell query.criteria))).map
        (rowScope query.table) := by
  have sorted (rows : List CellRow) :
      (rows.map (rowScope query.table)).mergeSort (precedes query.orderings) =
        (sortedBy (fun row => CellRow.cell row column.name) rows).map (rowScope query.table) := by
    rw [sortedBy, List.map_mergeSort]
    intro first _ second _
    rw [ordered, precedes, rowScope_cell _ first own, rowScope_cell _ second own]
    dsimp only
    cases (CellRow.cell first column.name).compare (CellRow.cell second column.name) <;> rfl
  simp only [scopes, filter_joined_of_single tables single, plain, Bool.false_eq_true, if_false]
  rw [sorted, slice_map]

/-- The rows of one table that a statement without an order gives, as they are visited. -/
theorem Select.scopes_of_visited {query : Select} (tables : List StoredTable)
    (single : query.joins = []) (plain : query.distinct = false)
    (unordered : query.orderings = []) :
    query.scopes tables =
      (slice query.limit query.offset ((query.visited tables).filter fun row =>
        Clause.holdAll (rowScope query.table row).cell query.criteria)).map
          (rowScope query.table) := by
  have kept (scopes : List Scope) : scopes.mergeSort (precedes query.orderings) = scopes := by
    apply List.mergeSort_of_pairwise
    rw [unordered]
    exact List.pairwise_of_forall fun _ _ => rfl
  simp only [scopes, filter_joined_of_single tables single, plain, Bool.false_eq_true, if_false,
    kept, slice_map]

/-- The first rows of one table that a statement gives, in order. -/
theorem Select.scopes_of_single {query : Select} {tables : List StoredTable} (column : ColumnRef)
    {limit : Nat} (single : query.joins = []) (plain : query.distinct = false)
    (ordered : query.orderings = [⟨column, true⟩]) (limited : query.limit = some limit)
    (start : query.offset = none) (own : column.source = query.table.name) :
    query.scopes tables =
      ((sortedBy (fun row => CellRow.cell row column.name)
        ((query.visited tables).filter fun row =>
          Clause.holdAll (rowScope query.table row).cell query.criteria)).take limit).map
        (rowScope query.table) := by
  rw [scopes_of_ordered tables column single plain ordered own, limited, start]
  rfl

/-- All rows of one table that a statement without an order gives, as they are visited. -/
theorem Select.scopes_of_unordered {query : Select} (tables : List StoredTable)
    (single : query.joins = []) (plain : query.distinct = false)
    (unordered : query.orderings = []) (unlimited : query.limit = none)
    (start : query.offset = none) :
    query.scopes tables =
      ((query.visited tables).filter fun row =>
        Clause.holdAll (rowScope query.table row).cell query.criteria).map
          (rowScope query.table) := by
  rw [scopes_of_visited tables single plain unordered, unlimited, start]
  rfl

end SchemaStore
