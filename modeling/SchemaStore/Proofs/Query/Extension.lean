import SchemaStore.Proofs.Query.Reference

/-!
# Rows extended by included ones

If the ids of the joined tables are different and the result is ordered by a unique column, a
search with included rows gives the rows of the search without them in the same order, each of them
with the rows that it refers to.  Keys and labels have to be kept apart, and keys have to differ in
more than the case of ASCII letters: otherwise the database does not tell the joined tables apart,
and nothing is given.
-/

namespace SchemaStore

namespace Inclusion

variable {inclusions : List Inclusion} {labels : List String}

/-- The rows that a row is joined with, each of them under the name of its source. -/
def joinedRows (inclusions : List Inclusion) (tables : List StoredTable) (row : CellRow) : Scope :=
  inclusions.map fun inclusion => (inclusion.source, (inclusion.referred? tables row).getD [])

/-- A row of a search, extended by the rows that it refers to. -/
def extended (inclusions : List Inclusion) (tables : List StoredTable) (row : CellRow)
    (item : Row) : Except Failure Row := do
  return item ++ (← inclusions.mapM (·.extension tables row))

/-- Keys that are different from each other and from all labels, and that begin no label and no
label of another included row, if two underscores are put after them. -/
@[mk_iff]
structure Apart (labels : List String) (inclusions : List Inclusion) : Prop where
  keys : inclusions.Pairwise fun first second => first.key ≠ second.key
  fresh : ∀ inclusion ∈ inclusions, inclusion.key ∉ labels
  own : ∀ inclusion ∈ inclusions, ∀ label ∈ labels,
    ¬inclusion.included.labelStart.toList <+: label.toList
  others : inclusions.Pairwise fun first second =>
    (∀ name ∈ second.names,
      ¬first.included.labelStart.toList <+: (second.included.label name).toList) ∧
    ∀ name ∈ first.names, ¬second.included.labelStart.toList <+: (first.included.label name).toList

instance (labels : List String) (inclusions : List Inclusion) :
    Decidable (Apart labels inclusions) :=
  decidable_of_iff' _ (apart_iff labels inclusions)

/-- Keys and labels that are kept apart give everything a place of its own. -/
theorem Apart.separate {names : List String} (apart : Apart labels inclusions)
    (valid : ∀ inclusion ∈ inclusions, inclusion.target.entity.Valid) (known : names ⊆ labels)
    (distinct : names.Nodup) :
    Include.Separate names
      (inclusions.map fun inclusion => (inclusion.included, inclusion.names)) where
  distinct := distinct
  own := by
    refine List.forall_mem_map.mpr fun inclusion member label labelMember => ⟨?_, ?_⟩
    · rintro rfl
      exact apart.fresh inclusion member (known labelMember)
    · exact Include.columnOf?_eq_none_iff.mpr (apart.own inclusion member label (known labelMember))
  apart := by
    refine List.pairwise_map.mpr ((apart.keys.and apart.others).imp_of_mem ?_)
    rintro first second firstMember - ⟨keys, labels, back⟩
    refine ⟨keys, Include.columnOf?_eq_none_iff.mpr fun begins => ?_, fun name nameMember =>
      Include.columnOf?_eq_none_iff.mpr (labels name nameMember)⟩
    -- A key that begins like the labels of another one would begin its own labels like them.
    have id := List.mem_of_find?_eq_some (Model.column?_idField (valid first firstMember))
    refine back first.target.idField (List.mem_map_of_mem id) (begins.trans ?_)
    rw [Include.label, Include.labelStart, String.toList_append, String.toList_append,
      List.append_assoc]
    exact List.prefix_append _ _

end Inclusion

namespace Database

/-- The database tells names with the same end apart by their beginnings. -/
theorem sameName_append (first second ending : String) :
    sameName (first ++ ending) (second ++ ending) = sameName first second := by
  rw [Bool.eq_iff_iff, sameName, sameName, beq_iff_eq, beq_iff_eq, ← String.toList_inj,
    ← String.toList_inj]
  simp only [String.toList_map, String.toList_append, List.map_append, List.append_cancel_right_eq]

/-- A table does not have the name of a joined one. -/
theorem sameName_source (model : Model) (inclusion : Inclusion) :
    sameName model.table.name inclusion.source = false := by
  refine beq_eq_false_iff_ne.mpr fun same => ?_
  have last := congrArg (fun name => name.toList.getLast?) same
  simp [Model.table, Entity.table, Entity.tableName, Inclusion.source, String.toList_map,
    String.toList_append] at last

end Database

namespace Select

variable {plain : Select} {model : Model} {inclusions : List Inclusion} {tables : List StoredTable}
  {row : CellRow} {stored : StoredTable}

/-- The included rows are nested into a row of its own columns. -/
theorem nestAll_rowOf {scope : Scope} (apart : Inclusion.Apart plain.labels inclusions)
    (valid : ∀ inclusion ∈ inclusions, inclusion.target.entity.Valid) :
    nestAll (inclusions.map Inclusion.included) <$> (plain.including inclusions).rowOf scope = do
      let item ← plain.rowOf scope
      let entries ← inclusions.mapM fun inclusion =>
        (fun part => part.1.entry part.2) <$> inclusion.readAt scope
      return item ++ entries := by
  rw [← Except.map_mapM, rowOf_eq, rowOf_eq, entriesAt_including]
  cases ownRead : plain.entriesAt scope with
  | error failure => rfl
  | ok own =>
      cases partsRead : inclusions.mapM (·.readAt scope) with
      | error failure => rfl
      | ok parts =>
          have names := Inclusion.keys_nodup_of_readAt partsRead fun inclusion member =>
            Model.columns_nodup (valid inclusion member)
          have known : (Record.putAll [] own).keys ⊆ plain.labels := fun name member =>
            keys_of_entriesAt ownRead ▸ (Record.mem_keys_putAll member).resolve_left List.not_mem_nil
          have separate := apart.separate valid known
            (Record.keys_putAll_nil_nodup own)
          rw [← Inclusion.parts_of_readAt partsRead] at separate
          have nested := separate.nestAll_eq names
          rw [← Record.putAll_append, ← Inclusion.included_of_readAt partsRead] at nested
          exact congrArg Except.ok nested

section Names

variable (valid : ∀ inclusion ∈ inclusions, inclusion.target.entity.Valid)
include valid

/-- A statement with included rows names those that it joins and those that refer to them, too. -/
theorem mem_columns_including {column : ColumnRef}
    (member : column ∈ (plain.including inclusions).columns) :
    column ∈ plain.columns ∨ ∃ inclusion ∈ inclusions, column = inclusion.column ∨
      ∃ declared ∈ inclusion.target.table.columns, column = declared.ref inclusion.source := by
  have key {inclusion : Inclusion} (known : inclusion ∈ inclusions) :
      ∃ declared ∈ inclusion.target.table.columns,
        inclusion.join.key = declared.ref inclusion.source :=
    ⟨_, List.mem_of_find?_eq_some (Model.column?_idField (valid inclusion known)), rfl⟩
  simp only [columns, including, List.map_append, List.flatMap_append, List.mem_append] at member ⊢
  rcases member with (((own | included) | (joined | joined)) | condition) | ordering
  · exact .inl (.inl (.inl (.inl own)))
  · obtain ⟨output, outputMember, rfl⟩ := List.mem_map.mp included
    obtain ⟨inclusion, known, made⟩ := List.mem_flatMap.mp outputMember
    obtain ⟨declared, declaredMember, rfl⟩ := List.mem_map.mp made
    exact .inr ⟨inclusion, known, .inr ⟨declared, declaredMember, rfl⟩⟩
  · exact .inl (.inl (.inl (.inr joined)))
  · obtain ⟨join, joinMember, made⟩ := List.mem_flatMap.mp joined
    obtain ⟨inclusion, known, rfl⟩ := List.mem_map.mp joinMember
    rcases List.mem_pair.mp made with rfl | rfl
    · exact .inr ⟨inclusion, known, .inl rfl⟩
    · exact .inr ⟨inclusion, known, .inr (key known)⟩
  · exact .inl (.inl (.inr condition))
  · exact .inl (.inr ordering)

/-- The database finds the names of a statement with included rows if it tells the keys apart. -/
theorem checkNames_including (table : plain.table = model.table) (single : plain.joins = [])
    (checked : plain.checkNames tables = .ok ()) (holds : model.Holds tables stored)
    (own : ∀ inclusion ∈ inclusions, model.table.Has inclusion.column)
    (targets : ∀ inclusion ∈ inclusions, ∃ kept, inclusion.target.Holds tables kept) :
    (plain.including inclusions).checkNames tables = .ok () ↔
      inclusions.Pairwise fun first second =>
        Database.sameName first.key second.key = false := by
  constructor
  · intro allChecked
    refine (inclusions_differ allChecked).imp fun differ => ?_
    rwa [Inclusion.source, Inclusion.source, Database.sameName_append] at differ
  · intro differ
    obtain ⟨there, -, known⟩ := checkNames_eq_ok.mp checked
    have sources : plain.sources = [(model.table.name, model.table)] := by
      rw [Select.sources, single, table]
      rfl
    refine checkNames_eq_ok.mpr ⟨?_, ?_, fun column member => ?_⟩
    · rw [sources_including]
      refine List.forall_mem_append.mpr ⟨there, List.forall_mem_map.mpr fun inclusion member => ?_⟩
      obtain ⟨kept, keeps⟩ := targets inclusion member
      exact ⟨kept, keeps.found⟩
    · rw [sources_including, sources, List.map_append, List.map_map]
      refine List.pairwise_cons.mpr ⟨List.forall_mem_map.mpr fun inclusion _ =>
        Database.sameName_source model inclusion, List.pairwise_map.mpr (differ.imp fun apart => ?_)⟩
      exact (Database.sameName_append _ _ _).trans apart
    · unfold Knows
      simp only [sources_including, List.mem_append]
      rcases mem_columns_including valid member with named | ⟨inclusion, included, same⟩
      · obtain ⟨source, sourceMember, rest⟩ := known column named
        exact ⟨source, .inl sourceMember, rest⟩
      · rcases same with rfl | ⟨declared, declaredMember, rfl⟩
        · obtain ⟨declared, declaredMember, refers⟩ := own inclusion included
          obtain ⟨column, found, -⟩ := holds.fits.columns declared declaredMember
          rw [← refers, sources]
          exact ⟨_, .inl (List.mem_singleton_self _), rfl, stored, holds.found,
            Option.isSome_of_eq_some found⟩
        · obtain ⟨kept, keeps⟩ := targets inclusion included
          obtain ⟨column, found, -⟩ := keeps.fits.columns declared declaredMember
          exact ⟨_, .inr (List.mem_map_of_mem included), rfl, kept, keeps.found,
            Option.isSome_of_eq_some found⟩

/-- A statement with included rows can be carried out like the one without them if the database
tells the keys apart. -/
theorem check_including (table : plain.table = model.table) (single : plain.joins = [])
    (checked : plain.check tables = .ok ()) (holds : model.Holds tables stored)
    (own : ∀ inclusion ∈ inclusions, model.table.Has inclusion.column)
    (targets : ∀ inclusion ∈ inclusions, ∃ kept, inclusion.target.Holds tables kept) :
    (plain.including inclusions).check tables = .ok () ↔
      inclusions.Pairwise fun first second =>
        Database.sameName first.key second.key = false := by
  obtain ⟨names, bound⟩ := check_eq_ok.mp checked
  rw [check_eq_ok, checkNames_including valid table single names holds own targets]
  exact and_iff_left bound

end Names

section Scopes

variable (valid : ∀ inclusion ∈ inclusions, inclusion.target.entity.Valid)
  (targets : ∀ inclusion ∈ inclusions, ∃ kept, inclusion.target.Holds tables kept)
include valid targets

/-- Every row of the main table is given once, with the rows that it refers to. -/
theorem scopes_including (single : plain.joins = []) (about : plain.AboutMain)
    (repeats : plain.distinct = false)
    (own : ∀ inclusion ∈ inclusions, inclusion.column.source = plain.table.name) :
    (plain.including inclusions).scopes tables =
      ((plain.including inclusions).mainRows tables).map fun row =>
        rowScope plain.table row ++ Inclusion.joinedRows inclusions tables row := by
  refine scopes_of_joined _ about repeats (joined_eq Inclusion.join (fun inclusion row =>
    (inclusion.source, (inclusion.referred? tables row).getD [])) ?_ ?_)
  · rw [including, single, List.nil_append]
  · intro inclusion member row joined
    obtain ⟨kept, holds⟩ := targets inclusion member
    exact Inclusion.joinScope_join (valid inclusion member) holds (own inclusion member) row joined

/-- A row is given with what it is extended by. -/
theorem nestAll_extended (table : plain.table = model.table)
    (outputs : ∀ output ∈ plain.outputs, output.column.source = plain.table.name)
    (apart : Inclusion.Apart plain.labels inclusions) (row : CellRow) :
    nestAll (inclusions.map Inclusion.included) <$>
        (plain.including inclusions).rowOf
          (rowScope plain.table row ++ Inclusion.joinedRows inclusions tables row) =
      plain.rowOf (rowScope plain.table row) >>= Inclusion.extended inclusions tables row := by
  have keys : (rowScope plain.table row ++ Inclusion.joinedRows inclusions tables row).keys =
      plain.table.name :: inclusions.map Inclusion.source := by
    simp [Record.keys, rowScope, Inclusion.joinedRows, Function.comp_def]
  have distinct :
      (rowScope plain.table row ++ Inclusion.joinedRows inclusions tables row).keys.Nodup := by
    rw [keys]
    refine List.nodup_cons.mpr ⟨fun taken => ?_, List.pairwise_map.mpr (apart.keys.imp ?_)⟩
    · obtain ⟨inclusion, -, same⟩ := List.mem_map.mp taken
      have differ := Database.sameName_source model inclusion
      rw [← table, same, Database.sameName, beq_self_eq_true] at differ
      cases differ
    · intro first second differ same
      exact differ (String.append_left_inj _ |>.mp same)
  have entries : (inclusions.mapM fun inclusion =>
      (fun part => part.1.entry part.2) <$> inclusion.readAt
        (rowScope plain.table row ++ Inclusion.joinedRows inclusions tables row)) =
        inclusions.mapM (·.extension tables row) := by
    refine Except.mapM_congr fun inclusion member => ?_
    obtain ⟨kept, holds⟩ := targets inclusion member
    refine Inclusion.entry_readAt (valid inclusion member) holds fun column _ => ?_
    exact Scope.cell_joined distinct (List.mem_map_of_mem member)
  rw [nestAll_rowOf apart valid, rowOf_own outputs row, entries]
  rfl

end Scopes

end Select

/-- Whether rows have one order by a column: it is a unique one of the table, or no two rows have
the same cell in it. -/
def StoredTable.IsUnique (stored : StoredTable) (column : String) : Prop :=
  stored.hasIndex column = true ∨ stored.rows.Pairwise fun first second =>
    (CellRow.cell first column).compare (CellRow.cell second column) ≠ .eq

namespace Model

variable {State : Type} {backend : Backend State} {state : State} {model : Model}
  {tables : List StoredTable} {stored : StoredTable} {search : Search} {plain : Select}
  {inclusions : List Inclusion} {items : List Row}

section Plain

variable (stated : model.statementOf { search with includes := [] } = .ok (plain, []))
include stated

/-- A search without included rows is about the table of the model. -/
theorem of_plain : plain.table = model.table ∧ plain.joins = [] ∧
    plain.distinct = search.distinct ∧ plain.AboutMain ∧
    ∀ output ∈ plain.outputs, output.column.source = model.table.name := by
  have named {column : ColumnRef} (known : model.table.Has column) :
      column.source = model.table.name := by
    obtain ⟨declared, -, rfl⟩ := known
    rfl
  obtain ⟨outputs, conditions, column, given, accepted, known, -, rfl⟩ := plain_eq_ok.mp stated
  refine ⟨rfl, rfl, rfl, fun term member => named ?_, fun output member =>
    named (of_outputs given output member).2⟩
  rcases List.mem_append.mp member with condition | ordering
  · obtain ⟨clause, clauseMember, inside⟩ := List.mem_flatMap.mp condition
    exact Clause.has_of_closed (closed_of_statementOf stated clause clauseMember) term inside
  · obtain ⟨term, termMember, rfl⟩ := List.mem_map.mp ordering
    unfold Search.statement at termMember
    dsimp only at termMember
    split at termMember
    · cases List.mem_singleton.mp termMember
      exact has_of_column known
    · cases termMember

/-- Rows that are ordered by a unique column are the same with and without included ones. -/
theorem mainRows_including (found : Database.find? tables model.table.name = some stored)
    (ordered : (search.ordered || !search.page.cursor.isNull) = true)
    (unique : stored.IsUnique search.page.orderBy) :
    (plain.including inclusions).mainRows tables = plain.mainRows tables := by
  obtain ⟨outputs, conditions, column, -, -, known, -, rfl⟩ := plain_eq_ok.mp stated
  obtain ⟨source, own, -, rfl, named⟩ := column_eq_ref known
  rw [← named] at unique
  have orderings : (search.statement model.table outputs conditions
      (own.ref model.table.name)).orderings =
        [⟨own.ref model.table.name, search.page.direction == .ascending⟩] :=
    if_pos ordered
  rcases unique with indexed | distinct
  · let query := search.statement model.table outputs conditions (own.ref model.table.name)
    have visited : (query.including inclusions).visited tables = query.visited tables :=
      Select.visited_eq_of_index found rfl orderings orderings indexed
    unfold Select.mainRows
    rw [visited]
    rfl
  · exact Select.mainRows_eq_of_distinct found rfl orderings orderings rfl rfl rfl rfl distinct

end Plain

/-- A search that is ordered by a unique column gives the same rows in the same order with and
without included ones if keys and labels are kept apart, each of them extended by the rows that it
refers to.  Nothing is given only if the database does not tell the joined tables apart, or if one
of the included rows cannot be read. -/
theorem findMany_extends_iff (valid : ∀ entity ∈ model.schema.entities, entity.Valid)
    (reads : model.Reads backend state tables) (holds : model.Holds tables stored)
    (stated : model.statementOf { search with includes := [] } = .ok (plain, []))
    (included : model.inclusions search = .ok inclusions)
    (targets : ∀ inclusion ∈ inclusions, ∃ kept, inclusion.target.Holds tables kept)
    (apart : Inclusion.Apart plain.labels inclusions)
    (ordered : (search.ordered || !search.page.cursor.isNull) = true)
    (unique : stored.IsUnique search.page.orderBy) (repeats : search.distinct = false)
    (given : (model.findMany { search with includes := [] }).Gives backend state items) :
    ∃ rows : List CellRow, plain.scopes tables = rows.map (rowScope model.table) ∧
      rows.mapM (fun row => plain.rowOf (rowScope model.table row)) = .ok items ∧
      ∀ others, (model.findMany search).Gives backend state others ↔
        (inclusions.Pairwise fun first second =>
            Database.sameName first.key second.key = false) ∧
          (rows.zip items).mapM (fun (row, item) =>
            Inclusion.extended inclusions tables row item) = .ok others := by
  obtain ⟨table, single, distinct, about, outputs⟩ := of_plain stated
  rw [repeats] at distinct
  have known (inclusion : Inclusion) (member : inclusion ∈ inclusions) :
      inclusion.target.entity.Valid :=
    valid _ (of_inclusions included inclusion member).2.1
  have columns (inclusion : Inclusion) (member : inclusion ∈ inclusions) :
      model.table.Has inclusion.column :=
    (of_inclusions included inclusion member).1
  have plainScopes : plain.scopes tables = (plain.mainRows tables).map (rowScope plain.table) :=
    Select.scopes_eq_mainRows single about distinct
  have plainGiven : plain.rows tables = .ok items := by
    rw [findMany, stated] at given
    exact (fetch_gives_iff reads).mp given
  obtain ⟨checked, read⟩ := Select.rows_eq_ok.mp plainGiven
  rw [plainScopes, List.mapM_map] at read
  let query := plain.including inclusions
  have checks : query.check tables = .ok () ↔ inclusions.Pairwise fun first second =>
      Database.sameName first.key second.key = false :=
    Select.check_including known table single checked holds columns targets
  have scopes : query.scopes tables = (plain.mainRows tables).map fun row =>
      rowScope plain.table row ++ Inclusion.joinedRows inclusions tables row := by
    rw [Select.scopes_including known targets single about distinct,
      mainRows_including stated holds.found ordered unique]
    intro inclusion member
    obtain ⟨declared, -, refers⟩ := columns inclusion member
    rw [← refers, table]
    rfl
  have nested : (query.scopes tables).mapM (fun scope =>
      nestAll (inclusions.map Inclusion.included) <$> query.rowOf scope) =
        ((plain.mainRows tables).zip items).mapM fun (row, item) =>
          Inclusion.extended inclusions tables row item := by
    rw [scopes, List.mapM_map, ← Except.mapM_bind read]
    exact Except.mapM_congr fun row _ =>
      Select.nestAll_extended known targets table (table ▸ outputs) apart row
  have queryStated : model.statementOf search =
      .ok (query, inclusions.map Inclusion.included) :=
    statementOf_including.mpr ⟨plain, inclusions, stated, included, rfl, rfl⟩
  refine ⟨plain.mainRows tables, table ▸ plainScopes, table ▸ read, fun others => ?_⟩
  rw [findMany_gives_iff reads queryStated, checks, nested]

/-- A post has one author under `Author`, but the database does not tell the tables of `Author` and
`author` apart. -/
theorem findMany_extends_iff_authors :
    let user : Entity :=
      ⟨"User", [("id", { type := .int, isId := true }), ("name", { type := .string })]⟩
    let reference : Field := { type := .int, isOptional := true }
    let post : Entity :=
      ⟨"Post", [("id", { type := .int, isId := true }), ("AuthorId", reference),
        ("author_id", reference)]⟩
    let schema : Schema := ⟨⟨.sqlite, "file:./dev.db", none⟩, [user, post]⟩
    let model : Model := { schema, entity := post, dialect := .sqlite, settings := {}, pool := 0 }
    let users : StoredTable := {
      table := { model with entity := user }.table
      rows := [[("id", .int 1), ("name", .text "Ann")], [("id", .int 2), ("name", .text "Bob")]] }
    let posts : StoredTable := {
      table := model.table
      rows := [[("id", .int 1), ("AuthorId", .int 1), ("author_id", .int 2)]] }
    let clock : Moment := ⟨2020, 1, 1, 0, 0, 0, 0, none⟩
    let host : Host := { pools := [.memory { tables := [users, posts], clock }], clock }
    (model.findMany { includes := [("AuthorId", .text "User")], ordered := true }).Gives
        Host.backend host
        [[("id", .int 1), ("AuthorId", .int 1), ("author_id", .int 2),
          ("Author", .object [("id", .int 1), ("name", .text "Ann")])]] ∧
      ∀ others, ¬(model.findMany {
        includes := [("AuthorId", .text "User"), ("author_id", .text "User")]
        ordered := true }).Gives Host.backend host others := by
  intro user reference post schema model users posts clock host
  let target : Model := { model with entity := user }
  let first : Inclusion := ⟨⟨"posts", "AuthorId", .integer⟩, "Author", target⟩
  let second : Inclusion := ⟨⟨"posts", "author_id", .integer⟩, "author", target⟩
  have postTable : model.table = {
      name := "posts"
      columns := [{ name := "id", type := .integer, isKey := true },
        { name := "AuthorId", type := .integer, nullable := true },
        { name := "author_id", type := .integer, nullable := true }] } := by
    decide +kernel
  have userTable : target.table = {
      name := "users"
      columns := [{ name := "id", type := .integer, isKey := true },
        { name := "name", type := .varchar }] } := by
    decide +kernel
  have valid : ∀ entity ∈ schema.entities, entity.Valid := by
    simp only [schema, List.forall_mem_cons, List.not_mem_nil, false_implies, implies_true, and_true,
      Entity.valid_iff]
    decide
  have reads : model.Reads Host.backend host [users, posts] := fun _ => rfl
  have postsHeld : model.Holds [users, posts] posts := by
    refine ⟨by decide +kernel, fits_table (valid post (by simp [schema])), ?_,
      List.pairwise_singleton _ _⟩
    refine List.forall_mem_singleton.mpr ⟨?_, 1, rfl⟩
    rw [show posts.table = model.table from rfl, postTable]
    rfl
  have usersHeld : target.Holds [users, posts] users := by
    refine ⟨by decide +kernel, fits_table (valid user (by simp [schema])), ?_, by decide +kernel⟩
    have sound (id : Int) (name : String) :
        target.FitsRow target.table [("id", .int id), ("name", .text name)] :=
      ⟨by rw [userTable]; rfl, id, rfl⟩
    simp [users, sound, target]
  let plain : Select :=
    { Select.all model.table with orderings := [⟨⟨"posts", "id", .integer⟩, true⟩] }
  have stated : model.statementOf { ordered := true } = .ok (plain, []) := by
    refine (@plain_eq_ok _ { ordered := true } _).mpr
      ⟨_, [], ⟨"posts", "id", .integer⟩, rfl, rfl, ?_, by decide, rfl⟩
    unfold Model.column
    rw [postTable]
    rfl
  have included : model.inclusion "AuthorId" (.text "User") = .ok first ∧
      model.inclusion "author_id" (.text "User") = .ok second := by
    have found : schema.entity? (Value.text "User").display = some user := by decide +kernel
    have keys : includeKey "AuthorId" user = "Author" ∧ includeKey "author_id" user = "author" := by
      decide +kernel
    have known : model.column "AuthorId" = .ok first.column ∧
        model.column "author_id" = .ok second.column := by
      unfold Model.column
      rw [postTable]
      exact ⟨rfl, rfl⟩
    unfold inclusion
    rw [known.1, known.2]
    simp only [Except.ok_bind, found, keys, model]
    exact ⟨rfl, rfl⟩
  have scopes : plain.scopes [users, posts] = [rowScope model.table posts.rows.head!] := by
    have found : Database.find? [users, posts] plain.table.name = some posts := by
      decide +kernel
    have visited : plain.visited [users, posts] = posts.rows :=
      List.perm_singleton.mp (Select.visited_perm found)
    have joined : plain.joined [users, posts] = [rowScope model.table posts.rows.head!] := by
      unfold Select.joined
      rw [visited]
      rfl
    simp only [Select.scopes, joined]
    exact List.mergeSort_singleton _
  have labels : plain.labels = ["id", "AuthorId", "author_id"] := by decide +kernel
  have read : plain.rowOf (rowScope model.table posts.rows.head!) =
      .ok [("id", .int 1), ("AuthorId", .int 1), ("author_id", .int 2)] := by
    refine (readRow_eq (valid post (by simp [schema])) _).trans ?_
    rw [postTable]
    rfl
  have given : (model.findMany { ordered := true }).Gives Host.backend host
      [[("id", .int 1), ("AuthorId", .int 1), ("author_id", .int 2)]] := by
    refine (findMany_gives_iff reads stated).mpr ⟨?_, ?_⟩
    · have succeeds : Except.Succeeds (plain.check [users, posts]) := by decide +kernel
      exact succeeds.elim fun _ checked => checked
    · rw [scopes, List.mapM_cons, read]
      rfl
  have unique : posts.IsUnique "id" := .inl (by decide +kernel)
  have extended {includes : Record Value} {inclusions : List Inclusion}
      (included : model.inclusions { includes, ordered := true } = .ok inclusions)
      (known : ∀ inclusion ∈ inclusions, inclusion.target = target)
      (apart : Inclusion.Apart plain.labels inclusions) :=
    findMany_extends_iff valid reads postsHeld stated included
      (fun inclusion member => ⟨users, known inclusion member ▸ usersHeld⟩) apart rfl
      unique rfl given
  constructor
  · have one : model.inclusions { includes := [("AuthorId", .text "User")], ordered := true } =
        .ok [first] := by
      rw [inclusions, List.mapM_cons, included.1]
      rfl
    obtain ⟨rows, same, -, iff⟩ := extended one (by simp [first]) (by rw [labels]; decide +kernel)
    rw [scopes] at same
    refine (iff _).mpr ⟨List.pairwise_singleton _ _, ?_⟩
    obtain ⟨row, rfl, here⟩ := List.map_eq_singleton_iff.mp same.symm
    cases here
    have found : first.referred? [users, posts] posts.rows.head! = some users.rows.head! := by
      decide +kernel
    have author : target.readRow users.rows.head! =
        .ok [("id", .int 1), ("name", .text "Ann")] := by
      rw [readRow_eq (valid user (by simp [schema])), userTable]
      rfl
    simp only [List.zip_cons_cons, List.zip_nil_right, List.mapM_cons, List.mapM_nil,
      Inclusion.extended, Inclusion.extension, found]
    rw [show first.target.readRow users.rows.head! = _ from author]
    rfl
  · intro others gives
    have two : model.inclusions {
        includes := [("AuthorId", .text "User"), ("author_id", .text "User")]
        ordered := true } = .ok [first, second] := by
      rw [inclusions, List.mapM_cons, List.mapM_cons, included.1, included.2]
      rfl
    obtain ⟨rows, -, -, iff⟩ :=
      extended two (by simp [first, second]) (by rw [labels]; decide +kernel)
    have differ := ((iff others).mp gives).1
    revert differ
    decide +kernel

end Model
end SchemaStore
