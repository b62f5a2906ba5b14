import SchemaStore.Proofs.Database.Reading
import SchemaStore.Query.Page

/-!
# Readings in a direction

A reading of one table in either direction of a column whose cells differ gives its rows
in the one order that they can stand in.  The rows beyond one of them are those after it.
-/

namespace SchemaStore

open SchemaStore.Except (Succeeds)

namespace Direction

/-- How a row compares with the rows after it. -/
def order : Direction → Ordering
  | .ascending => .lt
  | .descending => .gt

/-- How the rows after a row compare with it. -/
def comparison : Direction → Comparison
  | .ascending => .greater
  | .descending => .less

/-- Items that stand in ascending order, turned into a direction. -/
def turn {α : Type} : Direction → List α → List α
  | .ascending, items => items
  | .descending, items => items.reverse

theorem turn_perm {α : Type} (direction : Direction) (items : List α) :
    (direction.turn items).Perm items := by
  cases direction with
  | ascending => exact .refl items
  | descending => exact items.reverse_perm

end Direction

theorem Cell.isStorable_of_le {m n : Nat} (le : m ≤ n) (storable : isStorable n = true) :
    isStorable m = true := by
  simp only [isStorable, Bool.and_eq_true, decide_eq_true_eq] at storable ⊢
  omega

section Sorting

variable {α : Type} (key : α → Cell) (direction : Direction)

/-- Sorted items whose cells differ stand in strict order, in either direction. -/
theorem turn_sortedBy_pairwise {items : List α}
    (distinct : items.Pairwise fun first second => (key first).compare (key second) ≠ .eq) :
    (direction.turn (sortedBy key items)).Pairwise fun first second =>
      (key first).compare (key second) = direction.order := by
  have ascending := sortedBy_pairwise key distinct
  cases direction with
  | ascending => exact ascending
  | descending =>
      refine List.pairwise_reverse.mpr (ascending.imp fun {first second} before => ?_)
      rw [Cell.compare_swap, before]
      rfl

/-- Items in strict order are the sorted ones, in either direction. -/
theorem eq_turn_sortedBy {items ordered : List α} (perm : ordered.Perm items)
    (strict : ordered.Pairwise fun first second =>
      (key first).compare (key second) = direction.order) :
    ordered = direction.turn (sortedBy key items) := by
  cases direction with
  | ascending => exact (sortedBy_eq key perm strict).symm
  | descending =>
      rw [Direction.turn, sortedBy_eq key (ordered.reverse_perm.trans perm), List.reverse_reverse]
      refine List.pairwise_reverse.mpr (strict.imp fun {first second} after => ?_)
      rw [Cell.compare_swap, after]
      rfl

/-- Of items in strict order, the ones beyond an item are those after it. -/
theorem filter_beyond {before after : List α} {item : α}
    (strict : (before ++ item :: after).Pairwise fun first second =>
      (key first).compare (key second) = direction.order) :
    ((before ++ item :: after).filter fun other =>
      direction.comparison.holds ((key other).compare (key item))) = after := by
  obtain ⟨-, rest, apart⟩ := List.pairwise_append.mp strict
  obtain ⟨later, -⟩ := List.pairwise_cons.mp rest
  have noneBefore : before.filter (fun other =>
      direction.comparison.holds ((key other).compare (key item))) = [] := by
    refine List.filter_eq_nil_iff.mpr fun other member => ?_
    rw [apart other member item List.mem_cons_self]
    cases direction <;> decide
  have notItself : ¬direction.comparison.holds ((key item).compare (key item)) = true := by
    rw [Cell.compare_self]
    cases direction <;> decide
  have allAfter : after.filter (fun other =>
      direction.comparison.holds ((key other).compare (key item))) = after := by
    refine List.filter_eq_self.mpr fun other member => ?_
    rw [Cell.compare_swap, later other member]
    cases direction <;> decide
  rw [List.filter_append, noneBefore, List.nil_append, List.filter_cons, if_neg notItself, allAfter]

/-- Items whose cells differ, sorted from the greatest on, are the sorted ones in reverse. -/
theorem mergeSort_descending {items : List α}
    (distinct : items.Pairwise fun first second => (key first).compare (key second) ≠ .eq) :
    items.mergeSort (fun first second => ((key second).compare (key first)).isLE) =
      (sortedBy key items).reverse := by
  let descends (first second : α) : Bool := ((key second).compare (key first)).isLE
  have perm : (items.mergeSort descends).Perm items := List.mergeSort_perm _ _
  refine eq_turn_sortedBy key .descending perm ?_
  have ordered : (items.mergeSort descends).Pairwise fun first second =>
      ((key second).compare (key first)).isLE = true := by
    apply List.pairwise_mergeSort
    · exact fun first second third before after => Std.TransCmp.isLE_trans after before
    · intro first second
      rw [Cell.compare_swap (key second)]
      cases (key first).compare (key second) <;> rfl
  have differ := perm.symm.pairwise distinct (compare_ne_symm key)
  refine (ordered.and differ).imp fun {first second} ⟨notBefore, apart⟩ => ?_
  rw [Cell.compare_swap] at notBefore
  cases order : (key first).compare (key second) with
  | gt => rfl
  | eq => exact absurd order apart
  | lt => rw [order] at notBefore; cases notBefore

end Sorting

namespace Parameter

variable {before after : List Parameter}

theorem cell_int (n : Int) : (⟨.plain, .int n⟩ : Parameter).cell =
    if Cell.isStorable n then .ok (.int n) else .error .oversizedNumber :=
  rfl

theorem checkConversions_append (bound : ∀ parameter ∈ before, Succeeds parameter.cell)
    (converted : checkConversions after = .ok ()) : checkConversions (before ++ after) = .ok () := by
  induction before with
  | nil => exact converted
  | cons parameter rest induction =>
      obtain ⟨⟨cell, first⟩, others⟩ := List.forall_mem_cons.mp bound
      obtain ⟨value, converts, -⟩ := Except.bind_eq_ok.mp first
      exact Except.bind_eq_ok.mpr ⟨value, converts, induction others⟩

/-- Parameters that can be bound leave it to the next one to fail. -/
theorem checkBindings_append {parameter : Parameter} {failure : Failure}
    (bound : ∀ parameter ∈ before, Succeeds parameter.cell)
    (refused : parameter.cell = .error failure) :
    checkBindings (before ++ parameter :: after) = .error failure := by
  induction before with
  | nil => exact Except.bind_eq_error.mpr (.inl refused)
  | cons first rest induction =>
      obtain ⟨⟨cell, here⟩, others⟩ := List.forall_mem_cons.mp bound
      exact Except.bind_eq_error.mpr (.inr ⟨cell, here, induction others⟩)

end Parameter

theorem Select.amountParameter_bound {amount : Option Nat}
    (storable : ∀ n, amount = some n → Cell.isStorable n = true) :
    ∀ parameter ∈ amountParameter amount, Succeeds parameter.cell := by
  cases amount with
  | none => exact nofun
  | some n =>
      refine List.forall_mem_singleton.mpr ⟨.int n, ?_⟩
      rw [Parameter.cell_int, storable n rfl]
      rfl

/-- The rows of one table that a statement gives in a direction of a column whose cells differ. -/
theorem Select.scopes_of_directed {query : Select} {tables : List StoredTable}
    {column : ColumnRef} (direction : Direction) (single : query.joins = [])
    (plain : query.distinct = false)
    (ordered : query.orderings = [⟨column, direction == .ascending⟩])
    (own : column.source = query.table.name)
    (distinct : ((query.visited tables).filter fun row =>
      Clause.holdAll (rowScope query.table row).cell query.criteria).Pairwise fun first second =>
        (CellRow.cell first column.name).compare (CellRow.cell second column.name) ≠ .eq) :
    query.scopes tables =
      (slice query.limit query.offset (direction.turn (sortedBy (CellRow.cell · column.name)
        ((query.visited tables).filter fun row =>
          Clause.holdAll (rowScope query.table row).cell query.criteria)))).map
        (rowScope query.table) := by
  cases direction with
  | ascending => exact scopes_of_ordered tables column single plain ordered own
  | descending =>
      have sorted (rows : List CellRow) :
          (rows.map (rowScope query.table)).mergeSort (precedes query.orderings) =
            (rows.mergeSort fun first second => ((CellRow.cell second column.name).compare
              (CellRow.cell first column.name)).isLE).map (rowScope query.table) := by
        rw [List.map_mergeSort]
        intro first _ second _
        rw [ordered, precedes, rowScope_cell _ first own, rowScope_cell _ second own,
          Cell.compare_swap (CellRow.cell second column.name)]
        dsimp only
        cases (CellRow.cell first column.name).compare (CellRow.cell second column.name) <;> rfl
      simp only [scopes, filter_joined_of_single tables single, plain, Bool.false_eq_true, if_false]
      rw [sorted, mergeSort_descending (CellRow.cell · column.name) distinct, slice_map]
      rfl

end SchemaStore
