import SchemaStore.Proofs.Filter.Parts
import SchemaStore.Proofs.Query.Pages
import SchemaStore.Proofs.Schema.Valid
import SchemaStore.Query.Change

/-!
# Looking up rows by their ids

The id of an entity is an integer column that its table has once.  Rows are looked up by
a filter with the name of the id field, so the lookup asks for the rows with an id
unless that name is one under which filters are combined: then the filter is refused.
-/

namespace SchemaStore

/-- The id field is declared, and no other field is marked as the id. -/
theorem Entity.Valid.id_declared {entity : Entity} (valid : entity.Valid) :
    ∃ field, (entity.idField, field) ∈ entity.fields ∧ field.isId = true ∧
      ∀ name other, (name, other) ∈ entity.fields → other.isId = true → name = entity.idField := by
  have one := valid.oneId
  obtain ⟨only, single⟩ := List.length_eq_one_iff.mp one
  have named : entity.idField = only := by rw [Entity.idField, single, List.headD_cons]
  have marked (name : String) : name ∈ entity.idFields ↔ name = only := by
    rw [single, List.mem_singleton]
  simp only [Entity.idFields, List.mem_map, List.mem_filter] at marked
  obtain ⟨⟨name, field⟩, ⟨declared, isId⟩, same⟩ := (marked only).mpr rfl
  refine ⟨field, ?_, isId, fun name other declared isId => ?_⟩
  · rw [named]
    exact same ▸ declared
  · exact ((marked name).mp ⟨(name, other), ⟨declared, isId⟩, rfl⟩).trans named.symm

namespace Model

/-- The column of the id. -/
def key (model : Model) : ColumnRef :=
  ⟨model.table.name, model.idField, .integer⟩

/-- The query for the rows that fulfil conditions, perhaps in the order of their ids. -/
def lookup (model : Model) (conditions : List Clause) (ordered : Bool) (limit : Option Nat) :
    Select :=
  { Select.all model.table with
    criteria := conditions
    orderings := if ordered then [⟨model.key, true⟩] else []
    limit }

/-- The query for the ids of rows that fulfil conditions. -/
def idQuery (model : Model) (conditions : List Clause) : Select :=
  { table := model.table, outputs := [⟨model.key, none⟩], criteria := conditions }

variable {model : Model} {filter : Value} {conditions : List Clause}

theorem columns_nodup (valid : model.entity.Valid) :
    (model.table.columns.map Column.name).Nodup := by
  rw [table, Entity.columns_table]
  exact valid.distinct

theorem column?_idField (valid : model.entity.Valid) :
    model.table.column? model.idField =
      some { name := model.idField, type := .integer, isKey := true } := by
  obtain ⟨field, declared, isId, -⟩ := valid.id_declared
  have made : field.column model.idField model.dialect.traits =
      { name := model.idField, type := .integer, isKey := true } := by
    rw [Field.column, if_pos isId, Field.columnType, if_pos isId]
  have member : field.column model.idField model.dialect.traits ∈ model.table.columns :=
    List.mem_map.mpr ⟨(model.idField, field), declared, rfl⟩
  rw [made] at member
  exact find?_eq_some_of_nodup Column.name (columns_nodup valid) member

theorem name_of_isKey (valid : model.entity.Valid) {column : Column}
    (known : column ∈ model.table.columns) (isKey : column.isKey = true) :
    column.name = model.idField := by
  obtain ⟨-, -, -, only⟩ := valid.id_declared
  obtain ⟨⟨name, field⟩, declared, rfl⟩ := List.mem_map.mp known
  dsimp only [Field.column] at isKey ⊢
  split at isKey
  · next isId =>
    rw [if_pos isId]
    exact only name field declared isId
  · cases isKey

theorem idColumn_eq (valid : model.entity.Valid) : model.idColumn = .ok model.key := by
  rw [idColumn, column, Table.ref?, column?_idField valid]
  rfl

section Search

theorem statementOf_search (valid : model.entity.Valid)
    (accepted : model.condition filter = .ok conditions) (ordered : Bool) (take : Option Nat) :
    model.statementOf { model.search filter .null .null with
        page := { orderBy := model.idField, take }, ordered } =
      .ok (model.lookup conditions ordered take, []) := by
  have known : model.column model.idField = .ok model.key := idColumn_eq valid
  -- No cursor adds a condition.
  suffices model.statementOf { model.search filter .null .null with
      page := { orderBy := model.idField, take }, ordered } =
        .ok (model.lookup (conditions ++ []) ordered take, []) by rwa [List.append_nil] at this
  unfold statementOf
  simp only [search, accepted, known]
  cases ordered <;> rfl

theorem statementOf_refused {failure : Failure} (refused : model.condition filter = .error failure)
    (ordered : Bool) (take : Option Nat) :
    model.statementOf { model.search filter .null .null with
        page := { orderBy := model.idField, take }, ordered } = .error failure := by
  unfold statementOf
  simp only [search, refused]
  rfl

/-- One row that fulfils a condition is asked for. -/
theorem findOne_eq (valid : model.entity.Valid) (given : filter.truthy = true)
    (accepted : model.condition filter = .ok conditions) :
    model.findOne filter = do
      let rows ← model.fetch (model.lookup conditions false (some 1)) []
      return rows.head? := by
  unfold findOne requireFilter findFirst findMany
  rw [if_pos given]
  have stated := statementOf_search valid accepted false (some 1)
  dsimp only [search] at stated ⊢
  rw [stated]
  rfl

theorem findOne_refused {failure : Failure} (given : filter.truthy = true)
    (refused : model.condition filter = .error failure) :
    model.findOne filter = Program.fail failure := by
  unfold findOne requireFilter findFirst findMany
  rw [if_pos given]
  have stated := statementOf_refused refused false (some 1)
  dsimp only [search] at stated ⊢
  rw [stated]
  rfl

theorem findAllById_eq (valid : model.entity.Valid)
    (accepted : model.condition filter = .ok conditions) :
    model.findAllById filter = model.fetch (model.lookup conditions true none) [] := by
  have stated := statementOf_search valid accepted true none
  unfold findAllById findMany
  dsimp only [search] at stated ⊢
  rw [stated]
  rfl

theorem findAllById_refused {failure : Failure}
    (refused : model.condition filter = .error failure) :
    model.findAllById filter = Program.fail failure := by
  have stated := statementOf_refused refused true none
  unfold findAllById findMany
  dsimp only [search] at stated ⊢
  rw [stated]
  rfl

end Search

section Fields

/-- A field with another name than a combinator is tested. -/
theorem read_field {field : String} {column : ColumnRef} {value : Value} {test : ColumnTest}
    (known : model.table.ref? field = some column) (plain : Filter.isCombinator field = false)
    (read : Filter.readTest value = .ok test) :
    Filter.read model.table (.object [(field, value)]) = .ok (.ofEntries [.test column test]) := by
  apply Filter.read_single
  rw [Filter.readEntry_field plain, Filter.readColumn_eq_ok.mpr known, read]
  rfl

theorem condition_field {field : String} {column : ColumnRef}
    (known : model.table.ref? field = some column) (plain : Filter.isCombinator field = false)
    (s : Scalar) :
    model.condition (.object [(field, .scalar s)]) = .ok [.compare .equal column (.scalar s)] := by
  have read : Filter.readTest (.scalar s) = .ok (.equals (.scalar s)) := rfl
  exact condition_of_read (read_field known plain read)

theorem ref?_idField (valid : model.entity.Valid) :
    model.table.ref? model.idField = some model.key := by
  rw [Table.ref?, column?_idField valid]
  rfl

/-- A filter on the id field asks for the row with the id. -/
theorem condition_id (valid : model.entity.Valid)
    (field : Filter.isCombinator model.idField = false) (id : Scalar) :
    model.condition (.object [(model.idField, .scalar id)]) =
      .ok [.compare .equal model.key (.scalar id)] :=
  condition_field (ref?_idField valid) field id

theorem condition_ids (valid : model.entity.Valid)
    (field : Filter.isCombinator model.idField = false) (kind : SequenceKind) (ids : List Value) :
    model.condition (.object [(model.idField, .sequence kind ids)]) =
      .ok [.member false model.key ids] := by
  have read : Filter.readTest (.sequence kind ids) = .ok (.among ids) := rfl
  exact condition_of_read (read_field (ref?_idField valid) field read)

/-- Under the name of a combinator, ids are no filters. -/
theorem condition_combined {id : Value} (combined : Filter.isCombinator model.idField = true)
    (single : (∃ s, id = .scalar s) ∨ ∃ kind s rest, id = .sequence kind (.scalar s :: rest)) :
    model.condition (.object [(model.idField, id)]) =
      .error (FilterDefect.badBranches model.idField).failure := by
  have refused : Filter.readEntry model.table model.idField id =
      .error (.badBranches model.idField) := by
    rcases single with ⟨s, rfl⟩ | ⟨kind, s, rest, rfl⟩
    · rw [Filter.readEntry]
      exact if_pos combined
    · have unread : Filter.readBranches model.table model.idField (.scalar s :: rest) =
          .error (.badBranches model.idField) := by
        rw [Filter.readBranches]
        exact if_neg (by simp [Value.isMapping])
      simp only [Filter.isCombinator, Bool.or_eq_true, beq_iff_eq] at combined
      rcases combined with (named | named) | named <;>
        · rw [named] at unread ⊢
          rw [Filter.readEntry, unread]
          rfl
  have read : Filter.read model.table (.object [(model.idField, id)]) =
      .error (.badBranches model.idField) := by
    rw [Filter.read, Filter.readEntries, refused]
    rfl
  unfold condition Filter.compile? Filter.compile
  rw [read]
  rfl

end Fields

end Model
end SchemaStore
