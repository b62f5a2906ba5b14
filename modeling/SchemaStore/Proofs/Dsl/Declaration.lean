import SchemaStore.Proofs.Dsl.Division
import SchemaStore.Proofs.Dsl.Step

/-!
# What a text declares

No declaration of a text that is read is dropped.  Its significant lines are whole blocks, one
of them the datasource and the others the entities in order; every line in the body of a model
is a field, and every line of the datasource gives a value or a key that a warning names.
-/

namespace SchemaStore.Dsl

theorem exists_of_mem_left {α β : Type} {related : α → β → Prop} {items : List α}
    {results : List β} (all : List.Forall₂ related items results) {item : α}
    (member : item ∈ items) : ∃ result ∈ results, related item result := by
  induction all with
  | nil => cases member
  | cons here later induction =>
      rcases List.mem_cons.mp member with rfl | inRest
      · exact ⟨_, List.mem_cons_self, here⟩
      · obtain ⟨result, found, same⟩ := induction inRest
        exact ⟨result, List.mem_cons_of_mem _ found, same⟩

theorem exists_of_mem_right {α β : Type} {related : α → β → Prop} {items : List α}
    {results : List β} (all : List.Forall₂ related items results) {result : β}
    (member : result ∈ results) : ∃ item ∈ items, related item result :=
  exists_of_mem_left all.flip member

section Datasource

theorem HasValues.congr {values others : Record String} {datasource : Datasource}
    (has : HasValues values datasource)
    (same : ∀ key ∈ datasourceKeys, values.get? key = others.get? key) :
    HasValues others datasource := by
  obtain ⟨provider, url, ssl⟩ := has
  rw [same _ (by decide)] at provider url ssl
  exact ⟨provider, url, ssl⟩

/-- A block declares a datasource: every line of its body gives an entry, and of the entries
under one known key the last one is used. -/
structure Block.DeclaresDatasource (env : Record String) (block : Block)
    (datasource : Datasource) (ignored : List String) : Prop where
  kind : block.header.kind = "datasource"
  entries : ∃ entries, GiveEntries env block.body entries ∧
    HasValues entries.reverse datasource ∧ ignored = unknownKeys entries

theorem declaresDatasource_of_read {env : Record String} {block : Block}
    {datasource : Datasource} {ignored : List String} (kind : block.header.kind = "datasource")
    (read : readDatasource env block = .ok (datasource, ignored)) :
    block.DeclaresDatasource env datasource ignored := by
  obtain ⟨values, valuesRead, has, -⟩ := readDatasource_eq_ok read
  obtain ⟨entries, given, rfl, last⟩ := readValues_eq_ok valuesRead
  refine ⟨kind, entries, given, has.congr fun key known => ?_, rfl⟩
  rw [last key known, show Record.get? ([] : Record String) key = none from rfl, Option.or_none]

end Datasource

section Model

/-- A block declares an entity: the name in its header, and every line of its body a field. -/
structure Block.DeclaresEntity (block : Block) (entity : Entity) : Prop where
  kind : block.header.kind = "model"
  named : block.header.name = some entity.name
  fields : DeclareFields block.body entity.fields

theorem declaresEntity_of_read {block : Block} {name : String} {entity : Entity}
    (kind : block.header.kind = "model") (named : block.header.name = some name)
    (read : readModel name block = .ok entity) : block.DeclaresEntity entity := by
  obtain ⟨rfl, fieldsRead, -⟩ := readModel_eq_ok read
  obtain ⟨declared, fields, forms, -⟩ := readFields_eq_ok fieldsRead
  exact ⟨kind, named, fields ▸ forms⟩

end Model

section Text

def Block.isDatasource (block : Block) : Bool :=
  block.header.kind == "datasource"

def Block.isModel (block : Block) : Bool :=
  block.header.kind == "model"

/-- What blocks have declared so far: entities in the order of the models, and a datasource once
there is a block of it. -/
structure Draft.DeclaredBy (env : Record String) (blocks : List Block) (draft : Draft) :
    Prop where
  kinds : ∀ block ∈ blocks, block.isDatasource = true ∨ block.isModel = true
  entities : List.Forall₂ Block.DeclaresEntity (blocks.filter Block.isModel) draft.entities
  datasource : match draft.datasource with
    | none => blocks.filter Block.isDatasource = [] ∧ draft.ignoredKeys = []
    | some datasource => ∃ source, blocks.filter Block.isDatasource = [source] ∧
        source.DeclaresDatasource env datasource draft.ignoredKeys

theorem Draft.DeclaredBy.step {env : Record String} {blocks : List Block} {draft next : Draft}
    {block : Block} (declared : draft.DeclaredBy env blocks)
    (read : readBlock env draft block = .ok next) : next.DeclaredBy env (blocks ++ [block]) := by
  obtain ⟨kinds, entities, datasource⟩ := declared
  rcases readBlock_cases read with ⟨kind, fresh, given, ignored, datasourceRead, rfl⟩ |
    ⟨kind, name, entity, named, entityRead, rfl⟩
  · have isDatasource : block.isDatasource = true := by simp [Block.isDatasource, kind]
    have notModel : block.isModel = false := by simp [Block.isModel, kind]
    rw [fresh] at datasource
    refine ⟨?_, ?_, block, ?_, declaresDatasource_of_read kind datasourceRead⟩
    · intro other member
      rcases List.mem_append.mp member with earlier | last
      · exact kinds other earlier
      · rw [List.mem_singleton.mp last]
        exact .inl isDatasource
    · simpa [notModel] using entities
    · simp [datasource.1, isDatasource]
  · have isModel : block.isModel = true := by simp [Block.isModel, kind]
    have notDatasource : block.isDatasource = false := by simp [Block.isDatasource, kind]
    have same : (blocks ++ [block]).filter Block.isDatasource =
        blocks.filter Block.isDatasource := by simp [notDatasource]
    refine ⟨?_, ?_, ?_⟩
    · intro other member
      rcases List.mem_append.mp member with earlier | last
      · exact kinds other earlier
      · rw [List.mem_singleton.mp last]
        exact .inr isModel
    · rw [List.filter_append, List.filter_cons_of_pos isModel]
      exact List.rel_append entities (.cons (declaresEntity_of_read kind named entityRead) .nil)
    · rw [same]
      exact datasource

theorem declaredBy_of_blocks {env : Record String} {blocks : List Block} {draft : Draft}
    (read : blocks.foldlM (readBlock env) {} = .ok draft) : draft.DeclaredBy env blocks :=
  Except.foldlM_induction (fun _ _ _ _ declared stepped => declared.step stepped)
    ⟨by simp, by simp, by simp⟩ read

/-- Lines declare what was read from them: they are whole blocks, one of which gives the
datasource and the others the entities in order. -/
structure Declares (env : Record String) (lines : List Line) (blocks : List Block)
    (source : Block) (parsed : Parsed) : Prop where
  whole : Consists lines blocks
  kinds : ∀ block ∈ blocks, block.isDatasource = true ∨ block.isModel = true
  single : blocks.filter Block.isDatasource = [source]
  datasource : source.DeclaresDatasource env parsed.schema.datasource parsed.ignoredKeys
  entities : List.Forall₂ Block.DeclaresEntity (blocks.filter Block.isModel)
    parsed.schema.entities

theorem Draft.DeclaredBy.declares {env : Record String} {lines : List Line} {blocks : List Block}
    {draft : Draft} {datasource : Datasource} (declared : draft.DeclaredBy env blocks)
    (whole : Consists lines blocks) (given : draft.datasource = some datasource) :
    ∃ source, Declares env lines blocks source
      ⟨{ datasource, entities := draft.entities }, draft.ignoredKeys⟩ := by
  have single := declared.datasource
  rw [given] at single
  obtain ⟨source, one, declares⟩ := single
  exact ⟨source, whole, declared.kinds, one, declares, declared.entities⟩

theorem declares_of_parse {env : Record String} {text : String} {parsed : Parsed}
    (accepted : parse env text = .ok parsed) :
    ∃ blocks source, Declares env (significantLines text) blocks source parsed := by
  obtain ⟨⟨datasource, entities⟩, ignored⟩ := parsed
  obtain ⟨unbroken, draft, blocksRead, given, rfl, rfl, -⟩ := parse_eq_ok accepted
  obtain ⟨front, rest, lines, whole, breaks⟩ := scan_divides (significantLines text)
  -- Nothing is left of lines that break off without a defect.
  rw [unbroken] at breaks
  cases breaks
  rw [List.append_nil] at lines
  rw [← lines] at whole
  exact ⟨_, (declaredBy_of_blocks blocksRead).declares whole given⟩

/-- The warnings about keys that a datasource does not have. -/
def ignoredWarnings (keys : List String) : List LogEntry :=
  keys.map fun key => ⟨.warning, "Ignoring unknown datasource key " ++ between key.toList⟩

theorem filter_warnings_log (name : String) (parsed : Parsed) :
    (parsed.log name).filter (·.level == .warning) = ignoredWarnings parsed.ignoredKeys := by
  simp [Parsed.log, ignoredWarnings]

/-- A text that is read declares its schema line by line, and its log warns of the keys that were
not used and of nothing else. -/
theorem parse_declares {env : Record String} {text : String} {parsed : Parsed}
    (accepted : parse env text = .ok parsed) :
    (∃ blocks source, Declares env (significantLines text) blocks source parsed) ∧
      ∀ name, (parsed.log name).filter (·.level == .warning) =
        ignoredWarnings parsed.ignoredKeys :=
  ⟨declares_of_parse accepted, fun name => filter_warnings_log name parsed⟩

/-- A comment, a repeated key, one from the environment, and one that is not known. -/
theorem parse_declares_users :
    let env : Record String := [("DB", "file:dev.db")]
    let text := "// users\ndatasource db \x7b\n  url = \x22file:old.db\x22 // not used\n" ++
      "  provider = \x22sqlite\x22\n\n  retries = 3\n  url = env(\x22DB\x22)\n\x7d\n" ++
      "model User \x7b\n  id Int @id\n  name String? @default(\x22a // b\x22) @unique\n\x7d\n"
    let user : Entity :=
      { name := "User"
        fields :=
          [("id", { type := .int, isId := true }),
            ("name", { type := .string, isOptional := true, isUnique := true,
                       defaultText := some "a // b" })] }
    let parsed : Parsed :=
      { schema :=
          { datasource := { provider := .sqlite, url := "file:dev.db" }, entities := [user] }
        ignoredKeys := ["retries"] }
    parse env text = .ok parsed ∧
      (∃ blocks source, Declares env (significantLines text) blocks source parsed) ∧
      (parsed.log "users.orm").filter (·.level == .warning) =
        [⟨.warning, "Ignoring unknown datasource key \x27retries\x27"⟩] := by
  intro env text user parsed
  have accepted : parse env text = .ok parsed := by decide +kernel
  obtain ⟨declares, warnings⟩ := parse_declares accepted
  exact ⟨accepted, declares, warnings "users.orm"⟩

end Text
end SchemaStore.Dsl
