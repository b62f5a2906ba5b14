import SchemaStore.Database.Writing
import SchemaStore.Proofs.Database.Reading
import SchemaStore.Proofs.Schema.Valid

/-!
# Executed writes

A write that is executed has found its table, and all of its parameters could be bound.
What it leads to is the table that `StoredTable.add` or `StoredTable.change` gives.
-/

namespace SchemaStore

namespace Record

variable {β γ : Type}

theorem get?_append (first second : Record β) (key : String) :
    (first ++ second).get? key = (first.get? key).or (second.get? key) := by
  simp [get?, List.find?_append, Option.map_or]

theorem get?_of_mem {record : Record β} (distinct : record.keys.Nodup) {key : String} {value : β}
    (member : (key, value) ∈ record) : record.get? key = some value := by
  rw [get?, find?_eq_some_of_nodup Prod.fst distinct member]
  rfl

theorem get?_eq_none {record : Record β} {key : String} (absent : key ∉ record.keys) :
    record.get? key = none := by
  have missing := mt has_eq_true_iff.mp absent
  rwa [has_eq_isSome_get?, Bool.not_eq_true, Option.isSome_eq_false_iff,
    Option.isNone_iff_eq_none] at missing

/-- Values that are changed under their names are found under the same names. -/
theorem get?_map (f : String → β → γ) (record : Record β) (key : String) :
    get? (record.map fun entry => (entry.1, f entry.1 entry.2)) key =
      (record.get? key).map (f key) := by
  induction record with
  | nil => rfl
  | cons entry rest induction =>
      by_cases here : entry.1 = key
      · subst here
        simp [get?]
      · simpa [get?, here] using induction

end Record

namespace Write

variable {tables after : List StoredTable} {clock : Cell} {result : Result} {table : Table}
  {values : Record Value} {condition : Clause}

/-- The cells that an update sets. -/
def assigned (table : Table) (values : Record Value) (clock : Cell) : Record Cell :=
  givenCells table values ++ (refreshedColumns table values).map fun name => (name, clock)

/-- What an executed update did. -/
theorem perform_update
    (done : (Write.update table values condition).perform tables clock = .ok (after, result)) :
    ∃ stored changed, Database.find? tables table.name = some stored ∧
      (∀ parameter ∈ valueParameters table values ++ condition.parameters,
        Except.Succeeds parameter.cell) ∧
      stored.change (assigned table values clock) (stored.matching condition) = .ok changed ∧
      after = Database.replace tables changed ∧
      result = { rowCount := (stored.matching condition).length } := by
  obtain ⟨⟨⟩, -, rest⟩ := Except.bind_eq_ok.mp done
  obtain ⟨stored, required, rest⟩ := Except.bind_eq_ok.mp rest
  obtain ⟨⟨⟩, -, rest⟩ := Except.bind_eq_ok.mp rest
  obtain ⟨⟨⟩, bound, rest⟩ := Except.bind_eq_ok.mp rest
  obtain ⟨changed, changing, made⟩ := Except.bind_eq_ok.mp rest
  cases made
  refine ⟨stored, changed, Database.require_eq_ok.mp required, ?_, changing, rfl, rfl⟩
  have all := Parameter.checkBindings_eq_ok.mp bound
  simpa [parameters, conditions] using all

/-- What an executed insertion did. -/
theorem perform_insert
    (done : (Write.insert table values).perform tables clock = .ok (after, result)) :
    ∃ stored next key, Database.find? tables table.name = some stored ∧
      (∀ parameter ∈ valueParameters table values, Except.Succeeds parameter.cell) ∧
      stored.add clock (givenCells table values) = .ok (next, key) ∧
      after = Database.replace tables next ∧ result = { rowCount := 1, key := .int key } := by
  obtain ⟨⟨⟩, -, rest⟩ := Except.bind_eq_ok.mp done
  obtain ⟨stored, required, rest⟩ := Except.bind_eq_ok.mp rest
  obtain ⟨⟨⟩, -, rest⟩ := Except.bind_eq_ok.mp rest
  obtain ⟨⟨⟩, bound, rest⟩ := Except.bind_eq_ok.mp rest
  obtain ⟨⟨next, key⟩, adding, made⟩ := Except.bind_eq_ok.mp rest
  cases made
  refine ⟨stored, next, key, Database.require_eq_ok.mp required, ?_, adding, rfl, rfl⟩
  have all := Parameter.checkBindings_eq_ok.mp bound
  simpa [parameters, conditions] using all

/-- What an executed deletion did. -/
theorem perform_delete
    (done : (Write.delete table condition).perform tables clock = .ok (after, result)) :
    ∃ stored, Database.find? tables table.name = some stored ∧
      (∀ parameter ∈ condition.parameters, Except.Succeeds parameter.cell) ∧
      after = Database.replace tables (stored.remove condition) ∧
      result = { rowCount := (stored.matching condition).length } := by
  obtain ⟨⟨⟩, -, rest⟩ := Except.bind_eq_ok.mp done
  obtain ⟨stored, required, rest⟩ := Except.bind_eq_ok.mp rest
  obtain ⟨⟨⟩, -, rest⟩ := Except.bind_eq_ok.mp rest
  obtain ⟨⟨⟩, bound, made⟩ := Except.bind_eq_ok.mp rest
  cases made
  refine ⟨stored, Database.require_eq_ok.mp required, ?_, rfl, rfl⟩
  have all := Parameter.checkBindings_eq_ok.mp bound
  simpa [parameters, conditions] using all

theorem mem_valueParameters {name : String} {column : Column}
    (known : table.column? name = some column) {value : Value}
    (given : values.get? name = some value) :
    (⟨.ofColumn column.type, value⟩ : Parameter) ∈ valueParameters table values := by
  have named : column.name = name := by simpa using List.find?_some known
  refine List.mem_map.mpr ⟨(column, value), List.mem_filterMap.mpr ⟨column, ?_, ?_⟩, rfl⟩
  · exact List.mem_of_find?_eq_some known
  · rw [named, given]
    rfl

theorem mem_given {column : Column} {value : Value} :
    (column, value) ∈ given table values ↔
      column ∈ table.columns ∧ values.get? column.name = some value := by
  unfold given
  rw [List.mem_filterMap]
  constructor
  · rintro ⟨own, member, made⟩
    obtain ⟨found, there, same⟩ := Option.map_eq_some_iff.mp made
    cases same
    exact ⟨member, there⟩
  · rintro ⟨member, there⟩
    exact ⟨column, member, by rw [there]; rfl⟩

theorem keys_givenCells_nodup (distinct : (table.columns.map Column.name).Nodup) :
    (givenCells table values).keys.Nodup := by
  have keys : (givenCells table values).keys =
      (table.columns.filter fun column => (values.get? column.name).isSome).map Column.name := by
    rw [← List.filterMap_eq_filter, List.map_filterMap]
    simp only [givenCells, given, Record.keys, List.map_filterMap]
    refine List.filterMap_congr fun column _ => ?_
    cases there : values.get? column.name <;> simp [Option.guard, there]
  rw [keys]
  exact (List.filter_sublist.map Column.name).nodup distinct

theorem get?_givenCells (distinct : (table.columns.map Column.name).Nodup) (name : String) :
    (givenCells table values).get? name = (table.column? name).bind fun column =>
      (values.get? name).map fun value =>
        (⟨.ofColumn column.type, value⟩ : Parameter).boundCell := by
  have listed : name ∈ (givenCells table values).keys →
      ∃ column ∈ table.columns, column.name = name ∧ (values.get? name).isSome = true := by
    intro member
    simp only [givenCells, Record.keys, List.map_map] at member
    obtain ⟨⟨column, value⟩, given, rfl⟩ := List.mem_map.mp member
    obtain ⟨known, there⟩ := mem_given.mp given
    exact ⟨column, known, rfl, by simp [there]⟩
  cases found : table.column? name with
  | none =>
      refine Record.get?_eq_none fun member => ?_
      obtain ⟨column, known, rfl, -⟩ := listed member
      exact absurd (List.find?_eq_none.mp found column known) (by simp)
  | some column =>
      have named : column.name = name := by simpa using List.find?_some found
      cases there : values.get? name with
      | none =>
          refine Record.get?_eq_none fun member => ?_
          obtain ⟨_, -, -, set⟩ := listed member
          rw [there] at set
          cases set
      | some value =>
          refine Record.get?_of_mem (keys_givenCells_nodup distinct) ?_
          refine List.mem_map.mpr ⟨(column, value), mem_given.mpr ⟨?_, named ▸ there⟩, ?_⟩
          · exact List.mem_of_find?_eq_some found
          · exact Prod.ext named rfl

theorem get?_refreshed (names : List String) (name : String) :
    Record.get? (names.map fun name => (name, clock)) name =
      if name ∈ names then some clock else none := by
  induction names with
  | nil => rfl
  | cons first rest induction =>
      by_cases here : first = name
      · simp [Record.get?, here]
      · simpa [Record.get?, here, Ne.symm here] using induction

theorem mem_refreshedColumns (distinct : (table.columns.map Column.name).Nodup) {name : String}
    {column : Column} (known : table.column? name = some column) :
    name ∈ refreshedColumns table values ↔ column.refreshed = true ∧ values.has name = false := by
  have named : column.name = name := by simpa using List.find?_some known
  unfold refreshedColumns
  simp only [List.mem_map, List.mem_filter, Bool.and_eq_true, Bool.not_eq_true']
  constructor
  · rintro ⟨other, ⟨member, refreshed, absent⟩, rfl⟩
    have found := find?_eq_some_of_nodup Column.name distinct member
    cases known.symm.trans found
    exact ⟨refreshed, absent⟩
  · rintro ⟨refreshed, absent⟩
    exact ⟨column, ⟨List.mem_of_find?_eq_some known, refreshed, named ▸ absent⟩, named⟩

/-- The cell that an update sets in a column: what is given, or the time if the column is
refreshed. -/
theorem get?_assigned (distinct : (table.columns.map Column.name).Nodup) (name : String) :
    (assigned table values clock).get? name = (table.column? name).bind fun column =>
      match values.get? name with
      | some value => some (⟨.ofColumn column.type, value⟩ : Parameter).boundCell
      | none => if column.refreshed then some clock else none := by
  rw [assigned, Record.get?_append, get?_givenCells distinct, get?_refreshed]
  cases known : table.column? name with
  | none =>
      have absent : name ∉ refreshedColumns table values := by
        intro member
        obtain ⟨column, kept, rfl⟩ := List.mem_map.mp member
        exact absurd (List.find?_eq_none.mp known column (List.mem_of_mem_filter kept)) (by simp)
      simp [absent]
  | some column =>
      have refreshes : name ∈ refreshedColumns table values ↔ _ :=
        mem_refreshedColumns distinct known
      cases given : values.get? name with
      | some value => simp
      | none =>
          have absent : values.has name = false := by rw [Record.has_eq_isSome_get?, given]; rfl
          rw [absent] at refreshes
          simp [refreshes]

end Write

theorem Value.scalar_of_bind {value : Value} {cell : Cell} (bound : value.bind = .ok cell) :
    ∃ s, value = .scalar s := by
  cases value with
  | scalar s => exact ⟨s, rfl⟩
  | sequence kind items => cases bound
  | object entries => cases bound

/-- What is stored in an integer column is a single value. -/
theorem Parameter.scalar_of_cell {value : Value}
    (bound : Except.Succeeds (⟨.ofColumn .integer, value⟩ : Parameter).cell) :
    ∃ s, value = .scalar s := by
  obtain ⟨cell, same⟩ := bound
  exact Value.scalar_of_bind same

end SchemaStore
