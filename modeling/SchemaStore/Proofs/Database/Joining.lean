import SchemaStore.Proofs.Database.Direction
import SchemaStore.Proofs.Database.Writing

/-!
# Joined rows

If of every joined table at most one row fits a row of the main table, a statement with joins
visits the rows of its main table once, and each of them with the rows that fit it.  The
conditions and the order are about the main table, so they keep and order the same rows with and
without joins.
-/

namespace SchemaStore

/-- The value of a clause depends on the cells of its columns. -/
theorem Clause.eval_congr {cellOf other : ColumnRef → Cell} {clause : Clause}
    (same : ∀ column ∈ clause.columns, cellOf column = other column) :
    clause.eval cellOf = clause.eval other := by
  induction clause with
  | constant b => rfl
  | settled b => rfl
  | compare comparison column operand =>
      rw [eval, eval, same column (List.mem_singleton_self column)]
  | member negated column values =>
      rw [eval, eval, same column (List.mem_singleton_self column)]
  | both left right leftInduction rightInduction =>
      obtain ⟨leftSame, rightSame⟩ := List.forall_mem_append.mp same
      rw [eval, eval, leftInduction leftSame, rightInduction rightSame]
  | either left right leftInduction rightInduction =>
      obtain ⟨leftSame, rightSame⟩ := List.forall_mem_append.mp same
      rw [eval, eval, leftInduction leftSame, rightInduction rightSame]
  | group inner induction => exact induction same
  | negation restores inner induction => rw [eval, eval, induction same]

theorem Clause.holdAll_congr {cellOf other : ColumnRef → Cell} {conditions : List Clause}
    (same : ∀ column ∈ conditions.flatMap columns, cellOf column = other column) :
    holdAll cellOf conditions = holdAll other conditions := by
  rw [holdAll_eq_all, holdAll_eq_all, Bool.eq_iff_iff, List.all_eq_true, List.all_eq_true]
  refine forall₂_congr fun clause member => ?_
  rw [eval_congr fun column known => same column (List.mem_flatMap.mpr ⟨clause, member, known⟩)]

theorem Select.precedes_congr {orderings : List OrderTerm} {first second third fourth : Scope}
    (same : ∀ column ∈ orderings.map OrderTerm.column,
      first.cell column = third.cell column ∧ second.cell column = fourth.cell column) :
    precedes orderings first second = precedes orderings third fourth := by
  induction orderings with
  | nil => rfl
  | cons term rest induction =>
      obtain ⟨⟨left, right⟩, later⟩ := List.forall_mem_cons.mp same
      rw [precedes, precedes, left, right, induction later]

section Scopes

variable {table : Table} {row found : CellRow} {joined : Scope}

/-- The columns of the main table have the cells of its row, whatever was joined. -/
theorem Scope.cell_own {column : ColumnRef} (own : column.source = table.name) :
    (rowScope table row ++ joined).cell column = CellRow.cell row column.name := by
  simp [rowScope, Scope.cell, Record.get?, own]

theorem Scope.cell_joined {source name : String} {type : ColumnType}
    (distinct : (rowScope table row ++ joined).keys.Nodup) (member : (source, found) ∈ joined) :
    (rowScope table row ++ joined).cell ⟨source, name, type⟩ = CellRow.cell found name := by
  have there := Record.get?_of_mem distinct (List.mem_append_right (rowScope table row) member)
  rw [Scope.cell, there]
  rfl

end Scopes

/-- If at most one item is kept, it is the first one. -/
theorem filter_eq_toList_find? {α : Type} {keep : α → Bool} {items : List α}
    (single : items.Pairwise fun first second => ¬(keep first = true ∧ keep second = true)) :
    items.filter keep = (items.find? keep).toList := by
  induction items with
  | nil => rfl
  | cons item rest induction =>
      obtain ⟨first, others⟩ := List.pairwise_cons.mp single
      by_cases kept : keep item = true
      · have none : rest.filter keep = [] :=
          List.filter_eq_nil_iff.mpr fun other member otherKept =>
            first other member ⟨kept, otherKept⟩
        rw [List.filter_cons_of_pos kept, List.find?_cons_of_pos kept, none]
        rfl
      · rw [List.filter_cons_of_neg kept, List.find?_cons_of_neg kept, induction others]

namespace Select

variable {query : Select} {tables : List StoredTable}

/-- Where at most one row fits, a scope goes on to that row or to a missing one. -/
theorem joinScope_eq {join : Join} {scope : Scope}
    (single : (rowsOf tables join.table.name).Pairwise fun first second =>
      ¬(join.fits scope first = true ∧ join.fits scope second = true)) :
    joinScope tables scope join =
      [scope ++ [(join.source,
        ((rowsOf tables join.table.name).find? (join.fits scope)).getD [])]] := by
  rw [joinScope, filter_eq_toList_find? single]
  cases (rowsOf tables join.table.name).find? (join.fits scope) <;> rfl

/-- Joins that each lead from a row of the main table to one scope lead to one scope together. -/
theorem joined_eq {α : Type} (joinOf : α → Join) (entryFor : α → CellRow → String × CellRow)
    {parts : List α} (joins : query.joins = parts.map joinOf)
    (goes : ∀ part ∈ parts, ∀ row joined,
      joinScope tables (rowScope query.table row ++ joined) (joinOf part) =
        [rowScope query.table row ++ joined ++ [entryFor part row]]) :
    query.joined tables = (query.visited tables).map fun row =>
      rowScope query.table row ++ parts.map (entryFor · row) := by
  have onwards (parts : List α) (done : CellRow → Scope)
      (goes : ∀ part ∈ parts, ∀ row joined,
        joinScope tables (rowScope query.table row ++ joined) (joinOf part) =
          [rowScope query.table row ++ joined ++ [entryFor part row]]) :
      (parts.map joinOf).foldl
          (fun scopes join => scopes.flatMap fun scope => joinScope tables scope join)
          ((query.visited tables).map fun row => rowScope query.table row ++ done row) =
        (query.visited tables).map fun row => rowScope query.table row ++
          (done row ++ parts.map (entryFor · row)) := by
    induction parts generalizing done with
    | nil => simp
    | cons part rest induction =>
        obtain ⟨here, later⟩ := List.forall_mem_cons.mp goes
        rw [List.map_cons, List.foldl_cons, List.flatMap_map]
        simp only [here, List.append_assoc, ← List.map_eq_flatMap]
        refine (induction (fun row => done row ++ [entryFor part row]) later).trans ?_
        simp
  rw [joined, joins]
  exact onwards parts (fun _ => []) goes

/-- Outputs of the main table are read from its row, whatever was joined. -/
theorem rowOf_own (own : ∀ output ∈ query.outputs, output.column.source = query.table.name)
    (row : CellRow) (joined : Scope) :
    query.rowOf (rowScope query.table row ++ joined) = query.rowOf (rowScope query.table row) := by
  have same : query.outputs.mapM (fun output => output.column.type.read
      ((rowScope query.table row ++ joined).cell output.column)) =
        query.outputs.mapM fun output => output.column.type.read
          ((rowScope query.table row).cell output.column) := by
    refine Except.mapM_congr fun output member => ?_
    rw [Scope.cell_own (own output member), rowScope_cell _ _ (own output member)]
  rw [rowOf, same]
  rfl

/-- The rows of the main table that a statement gives rows for, in order. -/
def mainRows (query : Select) (tables : List StoredTable) : List CellRow :=
  slice query.limit query.offset
    (((query.visited tables).filter fun row =>
      Clause.holdAll (rowScope query.table row).cell query.criteria).mergeSort
        fun first second => precedes query.orderings (rowScope query.table first)
          (rowScope query.table second))

/-- Whether the conditions and the order of a statement are about its main table. -/
def AboutMain (query : Select) : Prop :=
  ∀ column ∈ query.criteria.flatMap Clause.columns ++ query.orderings.map OrderTerm.column,
    column.source = query.table.name

/-- A statement that joins rows to those of its main table keeps and orders them by these. -/
theorem scopes_of_joined (joinedTo : CellRow → Scope) (about : query.AboutMain)
    (repeats : query.distinct = false)
    (joined : query.joined tables = (query.visited tables).map fun row =>
      rowScope query.table row ++ joinedTo row) :
    query.scopes tables =
      (query.mainRows tables).map fun row => rowScope query.table row ++ joinedTo row := by
  have same (row : CellRow) {column : ColumnRef} (known : column ∈
      query.criteria.flatMap Clause.columns ++ query.orderings.map OrderTerm.column) :
      (rowScope query.table row ++ joinedTo row).cell column =
        (rowScope query.table row).cell column := by
    rw [Scope.cell_own (about column known), rowScope_cell _ _ (about column known)]
  have kept (row : CellRow) : Clause.holdAll (rowScope query.table row ++ joinedTo row).cell
      query.criteria = Clause.holdAll (rowScope query.table row).cell query.criteria :=
    Clause.holdAll_congr fun column known => same row (List.mem_append_left _ known)
  have sorted (rows : List CellRow) :
      (rows.map fun row => rowScope query.table row ++ joinedTo row).mergeSort
          (precedes query.orderings) =
        (rows.mergeSort fun first second => precedes query.orderings
          (rowScope query.table first) (rowScope query.table second)).map fun row =>
            rowScope query.table row ++ joinedTo row := by
    rw [List.map_mergeSort]
    intro first _ second _
    exact (precedes_congr fun column known => ⟨same first (List.mem_append_right _ known),
      same second (List.mem_append_right _ known)⟩).symm
  simp only [scopes, joined, repeats, Bool.false_eq_true, if_false]
  rw [List.filter_map, sorted, slice_map]
  simp only [Function.comp_def, kept]
  rfl

theorem scopes_eq_mainRows (single : query.joins = []) (about : query.AboutMain)
    (repeats : query.distinct = false) :
    query.scopes tables = (query.mainRows tables).map (rowScope query.table) := by
  refine scopes_of_joined (fun _ => []) about repeats ?_
  rw [joined, single]
  rfl

section SameOrder

variable {other : Select} {stored : StoredTable} {term : OrderTerm}
  (found : Database.find? tables query.table.name = some stored) (table : other.table = query.table)
  (ordered : query.orderings = [term]) (otherOrdered : other.orderings = [term])
include found table ordered otherOrdered

/-- Statements that are ordered by an indexed column visit the rows along its index. -/
theorem visited_eq_of_index (indexed : stored.hasIndex term.column.name = true) :
    other.visited tables = query.visited tables := by
  have path (statement : Select) (orders : statement.orderings = [term]) :
      statement.path stored = (term.column.name, term.ascending) := by
    unfold Select.path
    rw [orders]
    exact if_pos indexed
  simp only [visited, table, found, path other otherOrdered, path query ordered]

/-- Rows that differ in the column of the order have one order, however they are visited. -/
theorem mainRows_eq_of_distinct (own : term.column.source = query.table.name)
    (criteria : other.criteria = query.criteria) (limit : other.limit = query.limit)
    (offset : other.offset = query.offset)
    (distinct : stored.rows.Pairwise fun first second =>
      (CellRow.cell first term.column.name).compare (CellRow.cell second term.column.name) ≠ .eq) :
    other.mainRows tables = query.mainRows tables := by
  let key (row : CellRow) : Cell := CellRow.cell row term.column.name
  have before (first second : CellRow) :
      precedes [term] (rowScope query.table first) (rowScope query.table second) =
        if term.ascending then ((key first).compare (key second)).isLE
        else ((key second).compare (key first)).isLE := by
    rw [precedes, rowScope_cell _ first own, rowScope_cell _ second own,
      Cell.compare_swap (CellRow.cell second _)]
    dsimp only [key]
    cases term.ascending <;>
      cases (CellRow.cell first term.column.name).compare (CellRow.cell second term.column.name) <;>
        rfl
  let keep (row : CellRow) : Bool :=
    Clause.holdAll (rowScope query.table row).cell query.criteria
  have visits : (query.visited tables).Perm stored.rows := visited_perm found
  have otherVisits : (other.visited tables).Perm stored.rows := visited_perm (table ▸ found)
  have same := (otherVisits.trans visits.symm).filter keep
  have differ (rows : List CellRow) (perm : rows.Perm stored.rows) :
      (rows.filter keep).Pairwise fun first second => (key first).compare (key second) ≠ .eq :=
    (perm.symm.pairwise distinct (compare_ne_symm key)).filter keep
  have sorted : sortedBy key ((other.visited tables).filter keep) =
      sortedBy key ((query.visited tables).filter keep) :=
    sortedBy_eq key ((sortedBy_perm key _).trans same.symm)
      (sortedBy_pairwise key (differ _ visits))
  unfold mainRows
  rw [table, ordered, otherOrdered, criteria, limit, offset]
  congr 1
  simp only [before]
  cases term.ascending with
  | true => exact sorted
  | false =>
      simp only [Bool.false_eq_true, if_false]
      rw [mergeSort_descending key (differ _ otherVisits), mergeSort_descending key (differ _ visits),
        sorted]

end SameOrder

end Select
end SchemaStore
