import SchemaStore.Proofs.Query.Criteria
import SchemaStore.Proofs.Query.Fetching
import SchemaStore.Proofs.Query.Lookup
import SchemaStore.Proofs.Query.Nesting

/-!
# Searches with included rows

A search with included rows asks for what it asks for without them, and for the columns of the
joined rows under their labels.  A row of its result has the own columns and what is included
under keys of their own if the keys and labels are kept apart.  Nothing keeps them apart: a key is
made from the name of a field or of an entity, and any of these may be followed by two
underscores in the name of a column.
-/

namespace SchemaStore

/-- A column that refers to the rows of a model, which are included under a key. -/
structure Inclusion where
  column : ColumnRef
  key : String
  target : Model

namespace Inclusion

def included (inclusion : Inclusion) : Include :=
  ⟨inclusion.key, inclusion.target.idField⟩

/-- The name under which the rows are joined. -/
def source (inclusion : Inclusion) : String :=
  inclusion.key ++ "_include"

def join (inclusion : Inclusion) : Join where
  table := inclusion.target.table
  source := inclusion.source
  column := inclusion.column
  key := ⟨inclusion.source, inclusion.target.idField, .integer⟩

def outputs (inclusion : Inclusion) : List Output :=
  inclusion.target.table.columns.map fun column =>
    ⟨column.ref inclusion.source, some (inclusion.included.label column.name)⟩

/-- The names of the included columns. -/
def names (inclusion : Inclusion) : List String :=
  inclusion.target.table.columns.map Column.name

/-- The included row at a scope, column by column. -/
def rowAt (inclusion : Inclusion) (scope : Scope) : Except Failure Row :=
  inclusion.target.table.columns.mapM fun column =>
    return (column.name, ← column.type.read (scope.cell (column.ref inclusion.source)))

def readAt (inclusion : Inclusion) (scope : Scope) : Except Failure (Include × Row) := do
  return (inclusion.included, ← inclusion.rowAt scope)

variable {inclusion : Inclusion} {inclusions : List Inclusion} {scope : Scope}

theorem of_readAt {part : Include × Row} (read : inclusion.readAt scope = .ok part) :
    part.1 = inclusion.included ∧ part.2.keys = inclusion.names := by
  obtain ⟨row, rowRead, rfl⟩ := Except.map_eq_ok.mp read
  refine ⟨rfl, Except.map_eq_of_mapM rowRead fun column _ entry entryRead => ?_⟩
  obtain ⟨value, -, rfl⟩ := Except.map_eq_ok.mp entryRead
  rfl

theorem parts_of_readAt {parts : List (Include × Row)}
    (read : inclusions.mapM (·.readAt scope) = .ok parts) :
    (parts.map fun part => (part.1, part.2.keys)) =
      inclusions.map fun inclusion => (inclusion.included, inclusion.names) := by
  refine Except.map_eq_of_mapM read fun inclusion _ part partRead => ?_
  obtain ⟨same, keys⟩ := of_readAt partRead
  rw [same, keys]

theorem included_of_readAt {parts : List (Include × Row)}
    (read : inclusions.mapM (·.readAt scope) = .ok parts) :
    inclusions.map Inclusion.included = parts.map (·.1) := by
  have same := congrArg (List.map Prod.fst) (parts_of_readAt read)
  simpa [Function.comp_def] using same.symm

theorem keys_nodup_of_readAt {parts : List (Include × Row)}
    (read : inclusions.mapM (·.readAt scope) = .ok parts)
    (names : ∀ inclusion ∈ inclusions, inclusion.names.Nodup) :
    ∀ part ∈ parts, part.2.keys.Nodup := by
  intro part partMember
  obtain ⟨inclusion, member, partRead⟩ := Except.exists_of_mem_mapM read partMember
  rw [(of_readAt partRead).2]
  exact names inclusion member

end Inclusion

namespace Select

/-- A statement that asks for included rows, too. -/
def including (query : Select) (inclusions : List Inclusion) : Select :=
  { query with
    joins := query.joins ++ inclusions.map Inclusion.join
    outputs := query.outputs ++ inclusions.flatMap Inclusion.outputs }

def readOutputs (query : Select) (scope : Scope) : Except Failure (List Value) :=
  query.outputs.mapM fun output => output.column.type.read (scope.cell output.column)

/-- The columns that are read at a scope, under their labels. -/
def entriesAt (query : Select) (scope : Scope) : Except Failure Row :=
  query.labels.zip <$> query.readOutputs scope

theorem rowOf_eq (query : Select) (scope : Scope) :
    query.rowOf scope = Record.putAll [] <$> query.entriesAt scope := by
  unfold rowOf entriesAt readOutputs
  cases query.outputs.mapM fun output => output.column.type.read (scope.cell output.column) <;> rfl

theorem length_labelsAfter (outputs : List Output) (seen : List String) :
    (labelsAfter seen outputs).length = outputs.length := by
  induction outputs generalizing seen with
  | nil => rfl
  | cons output rest induction =>
      rw [labelsAfter]
      split <;> simp [induction]

theorem labelsAfter_labelled {labelled : List Output} {labels : List String}
    (given : labelled.map Output.label = labels.map some) (seen : List String) :
    labelsAfter seen labelled = labels := by
  induction labelled generalizing labels with
  | nil => exact (List.map_eq_nil_iff.mp given.symm).symm
  | cons output rest induction =>
      obtain ⟨label, others, rfl, here, later⟩ := List.map_eq_cons_iff.mp given.symm
      rw [labelsAfter, ← here, induction later.symm]

/-- Labels of their own stand after the others. -/
theorem labelsAfter_append {labelled : List Output} {labels : List String}
    (given : labelled.map Output.label = labels.map some) (outputs : List Output)
    (seen : List String) :
    labelsAfter seen (outputs ++ labelled) = labelsAfter seen outputs ++ labels := by
  induction outputs generalizing seen with
  | nil => exact labelsAfter_labelled given seen
  | cons output rest induction =>
      rw [List.cons_append, labelsAfter, labelsAfter]
      split <;> simp [induction]

end Select

/-- The statement of a search without included rows. -/
def Search.statement (search : Search) (table : Table) (outputs : List Output)
    (conditions : List Clause) (column : ColumnRef) : Select where
  table
  outputs
  criteria := conditions ++
    if search.page.cursor.isNull then []
    else
      [.compare (if search.page.direction == .ascending then .greater else .less) column
        search.page.cursor]
  orderings :=
    if search.ordered || !search.page.cursor.isNull then
      [⟨column, search.page.direction == .ascending⟩]
    else []
  distinct := search.distinct
  limit := search.page.take
  offset := match search.page.skip with
    | some 0 | none => none
    | some n => some n

namespace Model

/-- The inclusion that a field and the name of an entity stand for. -/
def inclusion (model : Model) (field : String) (targetName : Value) :
    Except Failure Inclusion := do
  let column ← model.column field
  match model.schema.entity? targetName.display with
  | none => .error (.validation ("Cannot include unknown model '" ++ targetName.display ++ "'"))
  | some entity => return ⟨column, includeKey field entity, { model with entity }⟩

/-- The inclusions of a search. -/
def inclusions (model : Model) (search : Search) : Except Failure (List Inclusion) :=
  search.includes.mapM fun entry => model.inclusion entry.1 entry.2

variable {model : Model} {search : Search} {query plain : Select} {includes : List Include}
  {inclusions : List Inclusion}

theorem addInclude_eq (field : String) (targetName : Value) :
    model.addInclude (query, includes) field targetName =
      model.inclusion field targetName >>= fun inclusion =>
        .ok (query.including [inclusion], includes ++ [inclusion.included]) := by
  unfold addInclude inclusion
  cases model.column field with
  | error failure => rfl
  | ok column =>
      dsimp only [Except.ok_bind]
      cases model.schema.entity? targetName.display with
      | none => rfl
      | some entity =>
          simp only [Select.including, List.flatMap_singleton]
          rfl

theorem addIncludes_eq (entries : Record Value) (query : Select) (includes : List Include) :
    model.addIncludes (query, includes) entries =
      (entries.mapM fun entry => model.inclusion entry.1 entry.2) >>= fun inclusions =>
        .ok (query.including inclusions, includes ++ inclusions.map Inclusion.included) := by
  induction entries generalizing query includes with
  | nil => simp [addIncludes, Select.including]
  | cons entry rest induction =>
      rw [addIncludes, addInclude_eq, List.mapM_cons]
      cases model.inclusion entry.1 entry.2 with
      | error failure => rfl
      | ok inclusion =>
          refine (induction _ _).trans ?_
          rw [Except.ok_bind]
          cases rest.mapM fun entry => model.inclusion entry.1 entry.2 with
          | error failure => rfl
          | ok others =>
              simp [Select.including, Except.ok_bind]

theorem statementOf_eq_ok :
    model.statementOf search = .ok (query, includes) ↔
      ∃ outputs inclusions conditions column, model.outputs search.fields = .ok outputs ∧
        model.inclusions search = .ok inclusions ∧ model.condition search.filter = .ok conditions ∧
        model.column search.page.orderBy = .ok column ∧
        ¬(search.page.cursor.isUnordered && !search.page.cursor.isNull) = true ∧
        query = (search.statement model.table outputs conditions column).including inclusions ∧
        includes = inclusions.map Inclusion.included := by
  unfold statementOf
  constructor
  · intro stated
    obtain ⟨outputs, given, stated⟩ := Except.bind_eq_ok.mp stated
    obtain ⟨⟨joined, all⟩, joins, stated⟩ := Except.bind_eq_ok.mp stated
    obtain ⟨conditions, accepted, stated⟩ := Except.bind_eq_ok.mp stated
    obtain ⟨column, known, stated⟩ := Except.bind_eq_ok.mp stated
    rw [addIncludes_eq] at joins
    obtain ⟨inclusions, included, made⟩ := Except.bind_eq_ok.mp joins
    cases made
    dsimp only at stated
    split at stated
    · cases stated
    · next ordered =>
      cases stated
      exact ⟨outputs, inclusions, conditions, column, given, included, accepted, known, ordered,
        rfl, rfl⟩
  · rintro ⟨outputs, inclusions, conditions, column, given, included, accepted, known, ordered,
      rfl, rfl⟩
    unfold Model.inclusions at included
    rw [given, Except.ok_bind, addIncludes_eq, included, accepted, known]
    exact if_neg ordered

end Model

namespace Select

variable {query : Select} {scope : Scope}

theorem labels_including (query : Select) (inclusions : List Inclusion) :
    (query.including inclusions).labels =
      query.labels ++ inclusions.flatMap fun inclusion =>
        inclusion.names.map inclusion.included.label := by
  refine labelsAfter_append ?_ query.outputs []
  simp [Inclusion.outputs, Inclusion.names, List.map_flatMap, Function.comp_def]

/-- Values that are read one after the other are labelled part by part. -/
theorem zip_mapM_append {α : Type} {read : α → Except Failure Value} {first : List α}
    {labels : List String} (long : labels.length = first.length) (second : List α)
    (others : List String) :
    (labels ++ others).zip <$> (first ++ second).mapM read = do
      let row ← labels.zip <$> first.mapM read
      let rest ← others.zip <$> second.mapM read
      return row ++ rest := by
  rw [List.mapM_append]
  cases ran : first.mapM read with
  | error failure => rfl
  | ok values =>
      have same : labels.length = values.length := by
        rw [Except.length_of_mapM ran, long]
      cases second.mapM read with
      | error failure => rfl
      | ok more => exact congrArg Except.ok (List.zip_append same)

/-- The columns of a table are read one after the other. -/
theorem zip_mapM_names (read : Column → Except Failure Value) (columns : List Column) :
    (columns.map Column.name).zip <$> columns.mapM read =
      columns.mapM fun column => return (column.name, ← read column) := by
  induction columns with
  | nil => rfl
  | cons column rest induction =>
      rw [List.mapM_cons, List.mapM_cons, ← induction]
      cases read column with
      | error failure => rfl
      | ok value => cases rest.mapM read <;> rfl

theorem zip_mapM_outputs (inclusion : Inclusion) (scope : Scope) :
    (inclusion.names.map inclusion.included.label).zip <$>
        (inclusion.outputs.mapM fun output => output.column.type.read (scope.cell output.column)) =
      (fun part => part.1.labelled part.2) <$> inclusion.readAt scope := by
  let read (column : Column) : Except Failure Value :=
    column.type.read (scope.cell (column.ref inclusion.source))
  have values : (inclusion.outputs.mapM fun output =>
      output.column.type.read (scope.cell output.column)) =
        inclusion.target.table.columns.mapM read := List.mapM_map
  have row : inclusion.rowAt scope =
      inclusion.names.zip <$> inclusion.target.table.columns.mapM read :=
    (zip_mapM_names read _).symm
  rw [values, Inclusion.readAt, row]
  cases inclusion.target.table.columns.mapM read with
  | error failure => rfl
  | ok values => exact congrArg Except.ok List.zip_map_left

/-- A statement with included rows reads its own columns, and then the included rows. -/
theorem entriesAt_including (query : Select) (inclusions : List Inclusion) (scope : Scope) :
    (query.including inclusions).entriesAt scope = do
      let own ← query.entriesAt scope
      let parts ← inclusions.mapM (·.readAt scope)
      return own ++ parts.flatMap fun part => part.1.labelled part.2 := by
  have included : (inclusions.flatMap fun inclusion =>
        inclusion.names.map inclusion.included.label).zip <$>
      ((inclusions.flatMap Inclusion.outputs).mapM fun output =>
        output.column.type.read (scope.cell output.column)) =
      (fun parts => parts.flatMap fun part => part.1.labelled part.2) <$>
        inclusions.mapM (·.readAt scope) := by
    induction inclusions with
    | nil => rfl
    | cons inclusion rest induction =>
        have long : (inclusion.names.map inclusion.included.label).length =
            inclusion.outputs.length := by
          simp [Inclusion.names, Inclusion.outputs]
        rw [List.flatMap_cons, List.flatMap_cons, zip_mapM_append long, zip_mapM_outputs, induction,
          List.mapM_cons]
        cases inclusion.readAt scope with
        | error failure => rfl
        | ok part =>
            cases rest.mapM (·.readAt scope) with
            | error failure => rfl
            | ok parts => rfl
  have long : query.labels.length = query.outputs.length := length_labelsAfter query.outputs []
  rw [entriesAt, labels_including, readOutputs]
  refine (zip_mapM_append long _ _).trans ?_
  rw [included, entriesAt, readOutputs]
  cases inclusions.mapM (·.readAt scope) <;> rfl

theorem keys_of_entriesAt {own : Row} (read : query.entriesAt scope = .ok own) :
    own.keys = query.labels := by
  obtain ⟨values, valuesRead, rfl⟩ := Except.map_eq_ok.mp read
  have long := Except.length_of_mapM valuesRead
  rw [Record.keys, List.map_fst_zip]
  rw [labels, length_labelsAfter]
  exact long.ge

/-- The first output of a name has it as its label. -/
theorem exists_entry_of_output {read : Output → Except Failure Value} {outputs : List Output}
    {values : List Value} {seen : List String}
    (unlabelled : ∀ output ∈ outputs, output.label = none)
    (valuesRead : outputs.mapM read = .ok values) {output : Output} (member : output ∈ outputs)
    (fresh : output.column.name ∉ seen) :
    ∃ first ∈ outputs, ∃ value, first.column.name = output.column.name ∧
      read first = .ok value ∧
      (output.column.name, value) ∈ (labelsAfter seen outputs).zip values := by
  induction outputs generalizing seen values with
  | nil => cases member
  | cons head rest induction =>
      obtain ⟨here, later⟩ := List.forall_mem_cons.mp unlabelled
      rw [List.mapM_cons] at valuesRead
      obtain ⟨value, headRead, ran⟩ := Except.bind_eq_ok.mp valuesRead
      obtain ⟨others, restRead, made⟩ := Except.bind_eq_ok.mp ran
      cases made
      rw [labelsAfter, here]
      dsimp only
      by_cases same : head.column.name = output.column.name
      · have first : seen.count head.column.name = 0 :=
          List.count_eq_zero.mpr (same ▸ fresh)
        refine ⟨head, List.mem_cons_self, value, same, headRead, ?_⟩
        rw [if_pos first, same]
        exact List.mem_cons_self
      · have known := (List.mem_cons.mp member).resolve_left fun itself => same (itself ▸ rfl)
        obtain ⟨first, firstMember, found, named, firstRead, entry⟩ :=
          @induction _ (head.column.name :: seen) later restRead known
            (by simpa [Ne.symm same] using fresh)
        exact ⟨first, List.mem_cons_of_mem head firstMember, found, named, firstRead,
          List.mem_cons_of_mem _ entry⟩

end Select

namespace Model

variable {model : Model} {search : Search} {plain : Select} {inclusions : List Inclusion}

theorem plain_eq_ok :
    model.statementOf { search with includes := [] } = .ok (plain, []) ↔
      ∃ outputs conditions column, model.outputs search.fields = .ok outputs ∧
        model.condition search.filter = .ok conditions ∧
        model.column search.page.orderBy = .ok column ∧
        ¬(search.page.cursor.isUnordered && !search.page.cursor.isNull) = true ∧
        plain = search.statement model.table outputs conditions column := by
  rw [statementOf_eq_ok]
  constructor
  · rintro ⟨outputs, inclusions, conditions, column, given, included, accepted, known, ordered,
      rfl, -⟩
    cases included
    refine ⟨outputs, conditions, column, given, accepted, known, ordered, ?_⟩
    exact congrArg (fun outputs => search.statement model.table outputs conditions column)
      (List.append_nil outputs)
  · rintro ⟨outputs, conditions, column, given, accepted, known, ordered, rfl⟩
    refine ⟨outputs, [], conditions, column, given, rfl, accepted, known, ordered, ?_, rfl⟩
    exact congrArg (fun outputs => search.statement model.table outputs conditions column)
      (List.append_nil outputs).symm

/-- A search with included rows is stated like the one without them. -/
theorem statementOf_including {query : Select} {includes : List Include} :
    model.statementOf search = .ok (query, includes) ↔
      ∃ plain inclusions, model.statementOf { search with includes := [] } = .ok (plain, []) ∧
        model.inclusions search = .ok inclusions ∧ query = plain.including inclusions ∧
        includes = inclusions.map Inclusion.included := by
  rw [statementOf_eq_ok]
  constructor
  · rintro ⟨outputs, inclusions, conditions, column, given, included, accepted, known, ordered,
      rfl, rfl⟩
    exact ⟨_, inclusions, plain_eq_ok.mpr ⟨outputs, conditions, column, given, accepted, known,
      ordered, rfl⟩, included, rfl, rfl⟩
  · rintro ⟨plain, inclusions, stated, included, rfl, rfl⟩
    obtain ⟨outputs, conditions, column, given, accepted, known, ordered, rfl⟩ :=
      plain_eq_ok.mp stated
    exact ⟨outputs, inclusions, conditions, column, given, included, accepted, known, ordered,
      rfl, rfl⟩

theorem of_outputs {fields : List Value} {outputs : List Output}
    (given : model.outputs fields = .ok outputs) :
    ∀ output ∈ outputs, output.label = none ∧ model.table.Has output.column := by
  intro output member
  unfold Model.outputs at given
  split at given
  · cases given
    obtain ⟨column, known, rfl⟩ := List.mem_map.mp member
    exact ⟨rfl, column, known, rfl⟩
  · obtain ⟨field, -, read⟩ := Except.exists_of_mem_mapM given member
    obtain ⟨column, known, rfl⟩ := Except.map_eq_ok.mp read
    exact ⟨rfl, has_of_columnOf known⟩

theorem of_inclusions (included : model.inclusions search = .ok inclusions) :
    ∀ inclusion ∈ inclusions, model.table.Has inclusion.column ∧
      inclusion.target.entity ∈ model.schema.entities ∧
      inclusion.target = { model with entity := inclusion.target.entity } := by
  intro inclusion member
  obtain ⟨entry, -, given⟩ := Except.exists_of_mem_mapM included member
  obtain ⟨column, known, rest⟩ := Except.bind_eq_ok.mp given
  split at rest
  · cases rest
  · next entity found =>
    cases rest
    exact ⟨has_of_column known, List.mem_of_find?_eq_some found, rfl⟩

theorem names_nodup (included : model.inclusions search = .ok inclusions)
    (valid : ∀ entity ∈ model.schema.entities, entity.Valid) :
    ∀ inclusion ∈ inclusions, inclusion.names.Nodup :=
  fun inclusion member =>
    columns_nodup (valid _ (of_inclusions included inclusion member).2.1)

/-- A table has one column of a name. -/
theorem eq_of_has {first second : ColumnRef} (own : model.entity.Valid)
    (firstKnown : model.table.Has first) (secondKnown : model.table.Has second)
    (same : first.name = second.name) : first = second := by
  obtain ⟨column, member, rfl⟩ := firstKnown
  obtain ⟨other, otherMember, rfl⟩ := secondKnown
  rw [List.inj_on_of_nodup_map (columns_nodup own) member otherMember same]

end Model

namespace Select

theorem sources_including (query : Select) (inclusions : List Inclusion) :
    (query.including inclusions).sources =
      query.sources ++ inclusions.map fun inclusion => (inclusion.source, inclusion.target.table) := by
  simp [sources, including, Inclusion.join, Function.comp_def]

/-- The rows that a statement includes are joined under names that the database tells apart. -/
theorem inclusions_differ {query : Select} {inclusions : List Inclusion}
    {tables : List StoredTable} (checked : (query.including inclusions).checkNames tables = .ok ()) :
    inclusions.Pairwise fun first second =>
      Database.sameName first.source second.source = false := by
  have differ := (checkNames_eq_ok.mp checked).2.1
  rw [sources_including, List.map_append, List.map_map] at differ
  exact List.pairwise_map.mp (List.pairwise_append.mp differ).2.1

theorem inclusions_apart {query : Select} {inclusions : List Inclusion}
    {tables : List StoredTable} (checked : (query.including inclusions).checkNames tables = .ok ()) :
    inclusions.Pairwise fun first second => first.key ≠ second.key ∧
      first.source ≠ second.source := by
  refine (inclusions_differ checked).imp fun {first second} differ => ?_
  have apart : first.source ≠ second.source := by
    intro same
    simp [Database.sameName, same] at differ
  exact ⟨fun same => apart (congrArg (· ++ "_include") same), apart⟩

end Select

namespace Model

variable {State : Type} {backend : Backend State} {state : State} {model : Model}
  {tables : List StoredTable} {search : Search} {items : List Row}

/-- Every own column has its value under its own name. -/
theorem get?_of_entriesAt {plain : Select} {scope : Scope} {row : Row}
    (own : model.entity.Valid)
    (stated : model.statementOf { search with includes := [] } = .ok (plain, []))
    (rowRead : plain.entriesAt scope = .ok row) (distinct : row.keys.Nodup) {output : Output}
    (member : output ∈ plain.outputs) :
    ∃ value, output.column.type.read (scope.cell output.column) = .ok value ∧
      row.get? output.column.name = some value := by
  obtain ⟨outputs, _, _, given, -, -, -, rfl⟩ := plain_eq_ok.mp stated
  have known := of_outputs given
  obtain ⟨values, valuesRead, rfl⟩ := Except.map_eq_ok.mp rowRead
  obtain ⟨first, firstMember, value, named, firstRead, entry⟩ :=
    Select.exists_entry_of_output (fun output member => (known output member).1) valuesRead member
      List.not_mem_nil
  have same := eq_of_has own (known first firstMember).2 (known output member).2 named
  rw [same] at firstRead
  exact ⟨value, firstRead, Record.get?_of_mem distinct entry⟩

/-- The rows of a search with included rows are those that its statement reads, with the included
rows nested.  They have every own column under its own name and every included row under its
own key if labels and keys are kept apart; and if all included rows are there, only then. -/
theorem findMany_nests_iff (own : model.entity.Valid)
    (valid : ∀ entity ∈ model.schema.entities, entity.Valid)
    (reads : model.Reads backend state tables)
    (given : (model.findMany search).Gives backend state items) :
    ∃ plain inclusions,
      model.statementOf { search with includes := [] } = .ok (plain, []) ∧
      model.inclusions search = .ok inclusions ∧
      (inclusions.Pairwise fun first second => first.key ≠ second.key ∧
        first.source ≠ second.source) ∧
      ∀ item ∈ items, ∃ scope row parts,
        scope ∈ (plain.including inclusions).scopes tables ∧
        plain.entriesAt scope = .ok row ∧ inclusions.mapM (·.readAt scope) = .ok parts ∧
        (Include.Separate plain.labels
            (inclusions.map fun inclusion => (inclusion.included, inclusion.names)) →
          item = row ++ parts.map (fun part => part.1.entry part.2) ∧
          ∀ output ∈ plain.outputs, ∃ value,
            output.column.type.read (scope.cell output.column) = .ok value ∧
            item.get? output.column.name = some value) ∧
        ((∀ part ∈ parts, part.1.isFound part.2 = true) →
          item = row ++ parts.map (fun part => part.1.entry part.2) →
          Include.Separate plain.labels
            (inclusions.map fun inclusion => (inclusion.included, inclusion.names))) := by
  obtain ⟨events, ends⟩ := given
  rcases Program.Ends.ofResult_bind_cases ends with
    ⟨_, -, ⟨⟩, -⟩ | ⟨⟨query, includes⟩, stated, fetching⟩
  obtain ⟨plain, inclusions, plainStated, included, rfl, rfl⟩ := statementOf_including.mp stated
  obtain ⟨-, rows, read, rfl⟩ := exists_rows_of_fetch reads fetching
  obtain ⟨checked, rowsRead⟩ := Select.rows_eq_ok.mp read
  refine ⟨plain, inclusions, plainStated, included,
    Select.inclusions_apart (Select.check_eq_ok.mp checked).1, fun item member => ?_⟩
  obtain ⟨raw, rawMember, rfl⟩ := List.mem_map.mp member
  obtain ⟨scope, scopeMember, rawRead⟩ := Except.exists_of_mem_mapM rowsRead rawMember
  rw [Select.rowOf_eq, Select.entriesAt_including] at rawRead
  obtain ⟨entries, entriesRead, rfl⟩ := Except.map_eq_ok.mp rawRead
  obtain ⟨row, rowRead, rest⟩ := Except.bind_eq_ok.mp entriesRead
  obtain ⟨parts, partsRead, made⟩ := Except.bind_eq_ok.mp rest
  cases made
  refine ⟨scope, row, parts, scopeMember, rowRead, partsRead, ?_⟩
  have described := Inclusion.parts_of_readAt partsRead
  have distinct := Inclusion.keys_nodup_of_readAt partsRead (names_nodup included valid)
  rw [← described, ← Select.keys_of_entriesAt rowRead, Inclusion.included_of_readAt partsRead]
  constructor
  · intro separate
    have unchanged : Record.putAll [] row = row := Record.putAll_eq_append separate.distinct
    rw [Record.putAll_append, unchanged, separate.nestAll_eq distinct]
    refine ⟨rfl, fun output outputMember => ?_⟩
    obtain ⟨value, valueRead, there⟩ :=
      get?_of_entriesAt own plainStated rowRead separate.distinct outputMember
    exact ⟨value, valueRead, by rw [Record.get?_append, there, Option.some_or]⟩
  · exact fun found nested =>
      Include.separate_of_nestAll (Record.keys_putAll_nil_nodup _) found nested

/-- The note of a post is lost among the columns of its author. -/
theorem findMany_nests_iff_note :
    let user : Entity :=
      ⟨"User", [("id", { type := .int, isId := true }), ("name", { type := .string })]⟩
    let post : Entity :=
      ⟨"Post", [("id", { type := .int, isId := true }),
        ("author__note", { type := .string, isOptional := true }),
        ("authorId", { type := .int, isOptional := true })]⟩
    let schema : Schema := ⟨⟨.sqlite, "file:./dev.db", none⟩, [user, post]⟩
    let model : Model := { schema, entity := post, dialect := .sqlite, settings := {}, pool := 0 }
    let users : StoredTable := {
      table := { model with entity := user }.table
      rows := [[("id", .int 1), ("name", .text "Ann")]] }
    let posts : StoredTable := {
      table := model.table
      rows := [[("id", .int 1), ("author__note", .text "x"), ("authorId", .int 1)]] }
    let clock : Moment := ⟨2020, 1, 1, 0, 0, 0, 0, none⟩
    let host : Host := { pools := [.memory { tables := [users, posts], clock }], clock }
    let search : Search := { includes := [("authorId", .text "User")] }
    (model.findMany search).Gives Host.backend host
        [[("id", .int 1), ("authorId", .int 1),
          ("author", .object [("note", .text "x"), ("id", .int 1), ("name", .text "Ann")])]] ∧
      ¬Include.Separate ["id", "author__note", "authorId"] [(⟨"author", "id"⟩, ["id", "name"])] := by
  intro user post schema model users posts clock host search
  let author : Inclusion := ⟨⟨"posts", "authorId", .integer⟩, "author", { model with entity := user }⟩
  have postTable : model.table = {
      name := "posts"
      columns := [{ name := "id", type := .integer, isKey := true },
        { name := "author__note", type := .varchar, nullable := true },
        { name := "authorId", type := .integer, nullable := true }] } := by
    decide +kernel
  have userTable : author.target.table = {
      name := "users"
      columns := [{ name := "id", type := .integer, isKey := true },
        { name := "name", type := .varchar }] } := by
    decide +kernel
  have reads : model.Reads Host.backend host [users, posts] := fun _ => rfl
  have plainStated : model.statementOf { search with includes := [] } =
      .ok (Select.all model.table, []) := by
    refine plain_eq_ok.mpr ⟨_, [], ⟨"posts", "id", .integer⟩, rfl, rfl, ?_, by decide, rfl⟩
    unfold Model.column
    rw [postTable]
    rfl
  have included : model.inclusions search = .ok [author] := by
    have known : model.column "authorId" = .ok author.column := by
      unfold Model.column
      rw [postTable]
      rfl
    have found : schema.entity? (Value.text "User").display = some user := by decide +kernel
    have key : includeKey "authorId" user = "author" := by decide +kernel
    simp only [Model.inclusions, search, List.mapM_cons, List.mapM_nil, inclusion, known, found, key,
      model]
    rfl
  have stated := statementOf_including.mpr ⟨_, _, plainStated, included, rfl, rfl⟩
  let query := (Select.all model.table).including [author]
  have checked : query.check [users, posts] = .ok () := by
    have succeeds : Except.Succeeds (query.check [users, posts]) := by decide +kernel
    exact succeeds.elim fun _ given => given
  let scope : Scope := [("posts", posts.rows.head!), ("author_include", users.rows.head!)]
  have scopes : query.scopes [users, posts] = [scope] := by
    have found : Database.find? [users, posts] query.table.name = some posts := by
      decide +kernel
    have visited : query.visited [users, posts] = posts.rows :=
      List.perm_singleton.mp (Select.visited_perm found)
    have joined : query.joined [users, posts] = [scope] := by
      unfold Select.joined
      rw [visited]
      decide +kernel
    simp only [Select.scopes, joined]
    exact List.mergeSort_singleton _
  have rows : query.rows [users, posts] = .ok [[("id", .int 1), ("author__note", .text "x"),
      ("authorId", .int 1), ("author__id", .int 1), ("author__name", .text "Ann")]] := by
    rw [Select.rows_eq_ok, scopes]
    refine ⟨checked, ?_⟩
    have outputs : query.outputs = [⟨⟨"posts", "id", .integer⟩, none⟩,
        ⟨⟨"posts", "author__note", .varchar⟩, none⟩, ⟨⟨"posts", "authorId", .integer⟩, none⟩,
        ⟨⟨"author_include", "id", .integer⟩, some "author__id"⟩,
        ⟨⟨"author_include", "name", .varchar⟩, some "author__name"⟩] := by
      decide +kernel
    simp only [List.mapM_cons, List.mapM_nil, Select.rowOf, Select.labels, outputs]
    rfl
  have given : (model.findMany search).Gives Host.backend host
      [[("id", .int 1), ("authorId", .int 1),
        ("author", .object [("note", .text "x"), ("id", .int 1), ("name", .text "Ann")])]] := by
    have columns : ["id", "author__note", "authorId", "author__id", "author__name"].map
        author.included.columnOf? = [none, some "note", none, some "id", some "name"] := by
      decide +kernel
    simp only [List.map_cons, List.map_nil, List.cons.injEq, and_true] at columns
    obtain ⟨id, note, reference, userId, name⟩ := columns
    unfold findMany
    rw [stated]
    refine (fetch_nested_gives_iff reads).mpr ⟨_, rows, ?_⟩
    simp only [List.map_cons, List.map_nil, nestAll, List.foldl_cons, List.foldl_nil, Include.nest,
      Include.rowOf, Include.restOf, List.filterMap_cons, List.filterMap_nil, List.filter_cons,
      List.filter_nil, id, note, reference, userId, name]
    rfl
  have valid : ∀ entity ∈ schema.entities, entity.Valid := by
    simp only [schema, List.forall_mem_cons, List.not_mem_nil, false_implies, implies_true, and_true,
      Entity.valid_iff]
    decide
  refine ⟨given, fun separate => ?_⟩
  obtain ⟨plain, inclusions, plainGiven, includedGiven, -, each⟩ :=
    findMany_nests_iff (valid post (by simp [schema])) valid reads given
  cases plainStated.symm.trans plainGiven
  cases included.symm.trans includedGiven
  obtain ⟨_, _, _, -, -, -, kept, -⟩ := each _ (List.mem_singleton_self _)
  have labels : (Select.all model.table).labels = ["id", "author__note", "authorId"] := by
    decide +kernel
  have names : author.names = ["id", "name"] := by decide +kernel
  rw [List.map_singleton, labels, names] at kept
  obtain ⟨value, -, there⟩ := (kept separate).2 ⟨⟨"posts", "author__note", .varchar⟩, none⟩ (by
    rw [postTable]
    decide)
  cases there

end Model
end SchemaStore
