import SchemaStore.Proofs.Filter.Meaning

/-!
# Groups of built clauses

In a `Placed` clause no conjunction has a bare disjunction beside its AND, and no
constant stands where a comparison is expected.  A `Closed` clause can be put
beside any other: it is a constant, or placed and no bare disjunction.  Whatever
builds clauses from closed ones gives a closed one, so that the clause of every
filter is closed.
-/

namespace SchemaStore

/-- A column of a table, as statements on the table name it. -/
def Table.Has (table : Table) (column : ColumnRef) : Prop :=
  ∃ declared ∈ table.columns, declared.ref table.name = column

theorem Table.has_of_ref? {table : Table} {name : String} {column : ColumnRef}
    (found : table.ref? name = some column) : table.Has column := by
  obtain ⟨declared, known, same⟩ := Option.map_eq_some_iff.mp found
  exact ⟨declared, List.mem_of_find?_eq_some known, same⟩

namespace Clause

variable {table : Table}

def isEither : Clause → Bool
  | .either _ _ => true
  | _ => false

/-- A clause on the columns of a table in which every disjunction beside an AND, and every
clause under a NOT, stands in a group. -/
def Placed (table : Table) : Clause → Prop
  | .constant _ => False
  | .settled _ => True
  | .compare _ column _ | .member _ column _ => table.Has column
  | .both left right =>
      (left.Placed table ∧ left.isEither = false) ∧ right.Placed table ∧ right.isEither = false
  | .either left right => left.Placed table ∧ right.Placed table
  | .group inner | .negation _ inner => inner.Placed table

/-- A placed clause that can stand beside an AND. -/
def Joinable (table : Table) (clause : Clause) : Prop :=
  clause.Placed table ∧ clause.isEither = false

/-- A clause that can be put beside any other, where a constant counts as none. -/
def Closed (table : Table) (clause : Clause) : Prop :=
  (∃ b, clause = .constant b) ∨ clause.Joinable table

theorem Joinable.closed {clause : Clause} (joinable : clause.Joinable table) :
    clause.Closed table :=
  .inr joinable

theorem Closed.joinable {clause : Clause} {value other : Bool} (closed : clause.Closed table)
    (differ : other ≠ value) (first : clause.isConstant value = false)
    (second : clause.isConstant other = false) : clause.Joinable table := by
  rcases closed with ⟨b, rfl⟩ | joinable
  · cases b <;> cases value <;> cases other <;> simp [isConstant] at differ first second
  · exact joinable

theorem Joinable.openConjunction {clause : Clause} (joinable : clause.Joinable table) :
    clause.openConjunction.Joinable table := by
  obtain ⟨placed, bare⟩ := joinable
  unfold Clause.openConjunction
  split
  · exact ⟨placed, rfl⟩
  · exact ⟨placed, bare⟩

theorem Joinable.openDisjunction {clause : Clause} (joinable : clause.Joinable table) :
    clause.openDisjunction.Placed table := by
  obtain ⟨placed, -⟩ := joinable
  unfold Clause.openDisjunction
  split
  · exact placed
  · exact placed

theorem joinable_joinBoth {first : Clause} {rest : List Clause} (joinable : first.Joinable table)
    (others : ∀ clause ∈ rest, clause.Joinable table) : (joinBoth first rest).Joinable table := by
  induction rest generalizing first with
  | nil => exact joinable
  | cons second rest induction =>
      have joined : (Clause.both first second).Joinable table :=
        ⟨⟨joinable, others second (by simp)⟩, rfl⟩
      exact induction joined fun clause member => others clause (by simp [member])

theorem placed_joinEither {first : Clause} {rest : List Clause} (placed : first.Placed table)
    (others : ∀ clause ∈ rest, clause.Placed table) : (joinEither first rest).Placed table := by
  induction rest generalizing first with
  | nil => exact placed
  | cons second rest induction =>
      have joined : (Clause.either first second).Placed table := ⟨placed, others second (by simp)⟩
      exact induction joined fun clause member => others clause (by simp [member])

/-- The clauses that are left without the constants can be joined. -/
theorem joinable_of_kept {clauses : List Clause} {value other : Bool}
    (closed : ∀ clause ∈ clauses, clause.Closed table) (differ : other ≠ value)
    (undecided : ¬clauses.any (isConstant other) = true) {clause : Clause}
    (member : clause ∈ clauses.filter (!isConstant value ·)) : clause.Joinable table := by
  obtain ⟨listed, kept⟩ := List.mem_filter.mp member
  apply (closed clause listed).joinable differ (by simpa using kept)
  apply Bool.eq_false_iff.mpr
  intro decides
  exact undecided (List.any_eq_true.mpr ⟨clause, listed, decides⟩)

theorem joinable_allOf {clauses : List Clause} (closed : ∀ clause ∈ clauses, clause.Closed table) :
    (allOf clauses).Joinable table := by
  unfold allOf
  split
  · exact ⟨trivial, rfl⟩
  · next undecided =>
      have joinable : ∀ clause ∈ clauses.filter (!isConstant true ·), clause.Joinable table :=
        fun _ member => joinable_of_kept closed (by decide) undecided member
      split
      · exact ⟨trivial, rfl⟩
      · next single kept => exact joinable single (by simp [kept])
      · next first rest _ kept =>
          apply joinable_joinBoth (joinable first (by simp [kept])).openConjunction
          intro opened member
          obtain ⟨clause, listed, rfl⟩ := List.mem_map.mp member
          exact (joinable clause (by simp [kept, listed])).openConjunction

theorem placed_anyOf {clauses : List Clause} (closed : ∀ clause ∈ clauses, clause.Closed table) :
    (anyOf clauses).Placed table := by
  unfold anyOf
  split
  · trivial
  · next undecided =>
      have joinable : ∀ clause ∈ clauses.filter (!isConstant false ·), clause.Joinable table :=
        fun _ member => joinable_of_kept closed (by decide) undecided member
      split
      · trivial
      · next single kept => exact (joinable single (by simp [kept])).1
      · next first rest _ kept =>
          apply placed_joinEither (joinable first (by simp [kept])).openDisjunction
          intro opened member
          obtain ⟨clause, listed, rfl⟩ := List.mem_map.mp member
          exact (joinable clause (by simp [kept, listed])).openDisjunction

/-- A group around a disjunction keeps it together. -/
theorem Placed.grouped {clause : Clause} (placed : clause.Placed table) :
    clause.grouped.Joinable table := by
  cases clause <;> exact ⟨placed, rfl⟩

theorem closed_conjoin {clauses : List Clause} (closed : ∀ clause ∈ clauses, clause.Closed table) :
    (conjoin clauses).Closed table := by
  unfold conjoin
  split
  · exact .inl ⟨true, rfl⟩
  · exact closed _ (by simp)
  · exact (joinable_allOf closed).closed

theorem closed_disjoin {clauses : List Clause} (closed : ∀ clause ∈ clauses, clause.Closed table) :
    (disjoin clauses).Closed table := by
  unfold disjoin
  split
  · exact .inl ⟨false, rfl⟩
  · exact closed _ (by simp)
  · exact (placed_anyOf closed).grouped.closed

/-- The negation of a clause takes in all of it, as a group. -/
theorem Closed.negate {clause : Clause} (closed : clause.Closed table) :
    clause.negate.Closed table := by
  rcases closed with ⟨b, rfl⟩ | ⟨placed, bare⟩
  · exact .inl ⟨!b, rfl⟩
  · cases clause with
    | constant b => exact .inl ⟨!b, rfl⟩
    | settled b => exact .inl ⟨!b, rfl⟩
    | compare comparison column operand => exact .inr ⟨placed, rfl⟩
    | member negated column values => exact .inr ⟨placed, rfl⟩
    | both left right => exact .inr ⟨placed, rfl⟩
    | either left right => cases bare
    | group inner => exact .inr ⟨placed, rfl⟩
    | negation restores inner => cases restores <;> exact .inr ⟨placed, rfl⟩

/-- The conditions of a statement make up a placed clause. -/
theorem placed_criteria {clauses : List Clause} (closed : ∀ clause ∈ clauses, clause.Closed table)
    {clause : Clause} (made : criteria clauses = some clause) : clause.Placed table := by
  unfold criteria at made
  split at made
  · cases made
  · cases made
    trivial
  · cases made
    exact (joinable_allOf closed).1

end Clause

namespace Filter

variable {table : Table}

open Clause

theorem has_of_readColumn {key : String} {column : ColumnRef}
    (accepted : readColumn table key = .ok column) : table.Has column := by
  unfold readColumn at accepted
  split at accepted
  · next found =>
      cases accepted
      exact Table.has_of_ref? found
  · cases accepted

theorem closed_test {column : ColumnRef} (known : table.Has column) (test : ColumnTest)
    {clause : Clause} (member : clause ∈ test.clauses column) : clause.Closed table := by
  cases test with
  | equals operand =>
      rw [List.mem_singleton.mp member]
      exact .inr ⟨known, rfl⟩
  | among values =>
      rw [List.mem_singleton.mp member]
      exact .inr ⟨known, rfl⟩
  | comparisons tests =>
      obtain ⟨⟨comparison, operand⟩, -, rfl⟩ := List.mem_map.mp member
      exact .inr ⟨known, rfl⟩

/-- The clause of an entry, and those that negate it, are closed. -/
structure EntryCloses (table : Table) (entry : FilterEntry) : Prop where
  clause : entry.clause.Closed table
  negated : ∀ clause ∈ FilterEntry.negatedList [entry], clause.Closed table

theorem entryCloses_test {key : String} {value : Value} {entry : FilterEntry}
    (accepted : (do
      let column ← readColumn table key
      return FilterEntry.test column (← readTest value)) = .ok entry) :
    EntryCloses table entry := by
  obtain ⟨column, columnFound, testRead⟩ := Except.bind_eq_ok.mp accepted
  obtain ⟨test, -, rfl⟩ := Except.map_eq_ok.mp testRead
  have known := has_of_readColumn columnFound
  refine ⟨closed_conjoin fun clause member => closed_test known test member, ?_⟩
  intro clause member
  simp only [FilterEntry.negatedList, List.append_nil] at member
  obtain ⟨positive, listed, rfl⟩ := List.mem_map.mp member
  exact (closed_test known test listed).negate

theorem entryCloses_combinator {entry : FilterEntry}
    (whole : FilterEntry.negatedList [entry] = [entry.clause.negate])
    (closed : entry.clause.Closed table) : EntryCloses table entry := by
  refine ⟨closed, ?_⟩
  rw [whole]
  exact List.forall_mem_singleton.mpr closed.negate

mutual

/-- The clause of a filter that was read is closed, and so is the one that none of its entries
holds. -/
theorem closed_of_read {value : Value} {filter : Filter}
    (accepted : read table value = .ok filter) :
    filter.clause.Closed table ∧ ∀ clause ∈ negatedList [filter], clause.Closed table := by
  cases value with
  | object entries =>
      rw [read] at accepted
      obtain ⟨entriesRead, entriesAccepted, rfl⟩ := Except.map_eq_ok.mp accepted
      obtain ⟨positive, negative⟩ := closed_of_readEntries entriesAccepted
      refine ⟨closed_conjoin positive, ?_⟩
      rw [negatedList, negatedList]
      exact List.forall_mem_singleton.mpr (closed_conjoin negative)
  | scalar s => rw [read] at accepted; cases accepted
  | sequence kind items => rw [read] at accepted; cases accepted

theorem closed_of_readEntries {entries : List (String × Value)} {entriesRead : List FilterEntry}
    (accepted : readEntries table entries = .ok entriesRead) :
    (∀ clause ∈ FilterEntry.clauses entriesRead, clause.Closed table) ∧
      ∀ clause ∈ FilterEntry.negatedList entriesRead, clause.Closed table := by
  cases entries with
  | nil =>
      rw [readEntries] at accepted
      cases accepted
      exact ⟨by simp [FilterEntry.clauses], by simp [FilterEntry.negatedList]⟩
  | cons head rest =>
      obtain ⟨key, value⟩ := head
      rw [readEntries] at accepted
      obtain ⟨entry, entryAccepted, restRead⟩ := Except.bind_eq_ok.mp accepted
      obtain ⟨others, othersAccepted, rfl⟩ := Except.map_eq_ok.mp restRead
      have closes := entryCloses_of_readEntry entryAccepted
      obtain ⟨positive, negative⟩ := closed_of_readEntries othersAccepted
      refine ⟨List.forall_mem_cons.mpr ⟨closes.clause, positive⟩, ?_⟩
      rw [negatedList_cons]
      exact List.forall_mem_append.mpr ⟨closes.negated, negative⟩

theorem entryCloses_of_readEntry {key : String} {value : Value} {entry : FilterEntry}
    (accepted : readEntry table key value = .ok entry) : EntryCloses table entry := by
  cases value with
  | object entries =>
      unfold readEntry at accepted
      split at accepted
      · obtain ⟨read, readAccepted, rfl⟩ := Except.map_eq_ok.mp accepted
        exact entryCloses_combinator rfl (closed_conjoin (closed_of_readEntries readAccepted).1)
      · obtain ⟨read, readAccepted, rfl⟩ := Except.map_eq_ok.mp accepted
        apply entryCloses_combinator rfl
        rw [FilterEntry.clause, clauseList_singletons]
        exact closed_disjoin (closed_of_readEntries readAccepted).1
      · obtain ⟨read, readAccepted, rfl⟩ := Except.map_eq_ok.mp accepted
        exact entryCloses_combinator rfl (closed_conjoin (closed_of_readEntries readAccepted).2)
      · exact entryCloses_test accepted
  | sequence kind items =>
      unfold readEntry at accepted
      split at accepted
      · obtain ⟨branches, branchesAccepted, rfl⟩ := Except.map_eq_ok.mp accepted
        apply entryCloses_combinator rfl
        exact closed_conjoin (closed_of_readAll (readAll_of_readBranches branchesAccepted)).1
      · obtain ⟨branches, branchesAccepted, rfl⟩ := Except.map_eq_ok.mp accepted
        apply entryCloses_combinator rfl
        exact closed_disjoin (closed_of_readAll (readAll_of_readBranches branchesAccepted)).1
      · obtain ⟨branches, branchesAccepted, rfl⟩ := Except.map_eq_ok.mp accepted
        apply entryCloses_combinator rfl
        exact closed_conjoin (closed_of_readAll (readAll_of_readBranches branchesAccepted)).2
      · exact entryCloses_test accepted
  | scalar s =>
      rw [readEntry] at accepted
      split at accepted
      · cases accepted
      · exact entryCloses_test accepted

theorem closed_of_readAll {items : List Value} {filters : List Filter}
    (accepted : readAll table items = .ok filters) :
    (∀ clause ∈ clauseList filters, clause.Closed table) ∧
      ∀ clause ∈ negatedList filters, clause.Closed table := by
  cases items with
  | nil =>
      rw [readAll] at accepted
      cases accepted
      exact ⟨by simp [clauseList], by simp [negatedList]⟩
  | cons item rest =>
      rw [readAll] at accepted
      obtain ⟨filter, filterAccepted, restRead⟩ := Except.bind_eq_ok.mp accepted
      obtain ⟨others, othersAccepted, rfl⟩ := Except.map_eq_ok.mp restRead
      obtain ⟨filterPositive, filterNegative⟩ := closed_of_read filterAccepted
      obtain ⟨positive, negative⟩ := closed_of_readAll othersAccepted
      refine ⟨List.forall_mem_cons.mpr ⟨filterPositive, positive⟩, ?_⟩
      cases filter with
      | ofEntries entries =>
          have first := filterNegative _ (by rw [negatedList, negatedList, List.mem_singleton])
          exact List.forall_mem_cons.mpr ⟨first, negative⟩

end

theorem closed_compile {value : Value} {compiled : Clause}
    (accepted : compile table value = .ok compiled) : compiled.Closed table := by
  obtain ⟨filter, filterAccepted, rfl⟩ := Except.map_eq_ok.mp accepted
  exact (closed_of_read filterAccepted).1

end Filter
end SchemaStore
