import SchemaStore.Proofs.Dsl.Field
import SchemaStore.Proofs.Outcome

/-!
# Printed schemas are read as they are

Reading the text of a printable schema gives the schema back, in any
environment: the lines of each block are scanned as this block, and each block
is read as the datasource or the entity that it was printed for.
-/

namespace SchemaStore.Dsl

section Datasource

theorem readAssignment?_printAssignment {key : String} (named : isIdentifier key.toList = true)
    (value : String) :
    readAssignment? (printAssignment key value) = some (key, quotedText value) := by
  obtain ⟨c, rest, same, -, -⟩ := isIdentifier_cons named
  have nonempty : key.toList.isEmpty = false := by simp [same]
  have quoted : (quotedText value).isEmpty = false := by simp [quotedText]
  have line : printAssignment key value = key.toList ++ ' ' :: '=' :: ' ' :: quotedText value := by
    simp [printAssignment]
  have stops : ∀ c, (' ' :: '=' :: ' ' :: quotedText value).head? = some c →
      isIdentifierChar c = false := by
    intro c first
    cases first
    rfl
  have dropped : (' ' :: '=' :: ' ' :: quotedText value).dropWhile Text.isBlank =
      '=' :: ' ' :: quotedText value := rfl
  have trimmed : Text.trim (' ' :: quotedText value) = quotedText value :=
    trim_quotedText value
  rw [line, readAssignment?, takeIdentifier_append named stops]
  simp only [dropped, trimmed, nonempty, quoted, Bool.false_eq_true, or_self, if_false,
    String.ofList_toList]

theorem readValue_quotedText (env : Record String) (value : String) :
    readValue env (quotedText value) = .ok value := by
  have notVariable : readVariable? (quotedText value) = none := rfl
  rw [readValue, notVariable, unquote_quotedText, String.ofList_toList]

theorem bodyLine_printAssignment {key value : String} (named : isIdentifier key.toList = true)
    (quotable : isQuotable value = true) : BodyLine (printAssignment key value) := by
  have keyToken := lineToken_identifier named
  obtain ⟨c, rest, same, visible⟩ := keyToken.solid.starts
  have sign : Plain ['='] := .of_char rfl (by simp) rfl (by simp)
  have equals : Plain " = ".toList := (Plain.blank.append sign).append .blank
  apply bodyLine_of_plain
  · exact (keyToken.plain.append equals).append (.quotedText quotable)
  · exact ⟨c, rest ++ " = ".toList ++ quotedText value, by simp [printAssignment, same], visible⟩
  · exact ⟨key.toList ++ " = ".toList ++ doubleQuote :: value.toList, doubleQuote,
      by simp [printAssignment, quotedText], rfl, by decide⟩

/-- The lines of known keys are read as their values. -/
theorem readValues_printed (env values : Record String) (ignored : List String)
    {assignments : List (String × String)}
    (known : ∀ key value, (key, value) ∈ assignments →
      isIdentifier key.toList = true ∧ key ∈ datasourceKeys) (number : Nat) :
    readValues env values ignored
        (numbered number (assignmentLines assignments)) =
      .ok (values.putAll assignments, ignored) := by
  induction assignments generalizing values number with
  | nil => rfl
  | cons assignment rest induction =>
      obtain ⟨key, value⟩ := assignment
      obtain ⟨named, member⟩ := known key value List.mem_cons_self
      have contains : datasourceKeys.contains key = true := by simpa using member
      rw [assignmentLines, List.map_cons, numbered, readValues]
      simp only [readAssignment?_printAssignment named, contains, if_true, readValue_quotedText]
      exact induction _ (fun key value later => known key value (List.mem_cons_of_mem _ later)) _

theorem assignmentsOf_known (datasource : Datasource) (key value : String)
    (member : (key, value) ∈ assignmentsOf datasource) :
    isIdentifier key.toList = true ∧ key ∈ datasourceKeys := by
  simp only [assignmentsOf, List.mem_append, List.mem_cons, List.not_mem_nil, or_false,
    Option.mem_toList, Option.map_eq_some_iff, Prod.mk.injEq] at member
  rcases member with (⟨rfl, -⟩ | ⟨rfl, -⟩) | ⟨ssl, -, rfl, -⟩
  · decide
  · decide
  · decide

/-- The block of a datasource is read as this datasource. -/
theorem readDatasource_printed {datasource : Datasource}
    (address : ∃ url, datasource.connection = .ok url) (env : Record String) (header : Header)
    (start number : Nat) :
    readDatasource env
        ⟨header, start, numbered number (assignmentLines (assignmentsOf datasource))⟩ =
      .ok (datasource, []) := by
  obtain ⟨url, connected⟩ := address
  obtain ⟨provider, raw, ssl⟩ := datasource
  have values := readValues_printed env [] [] (assignmentsOf_known ⟨provider, raw, ssl⟩) number
  have labelled : Provider.ofLabel? provider.label = some provider := by
    cases provider <;> decide
  rw [readDatasource]
  simp only [values, bind, Except.bind]
  cases ssl <;>
    simp [Record.putAll, assignmentsOf, Record.put, Record.has, requireValue, Record.get?,
      labelled, connected]

end Datasource

section Model

/-- Lines of fields are read as these fields. -/
theorem readFields_printed (model : String) (known fields : Record Field)
    (distinct : (known ++ fields).keys.Nodup)
    (valid : ∀ name field, (name, field) ∈ fields → field.Valid)
    (printable : ∀ name field, (name, field) ∈ fields → PrintableField name field)
    (number : Nat) :
    readFields model known (numbered number (fieldLines fields)) = .ok (known ++ fields) := by
  induction fields generalizing known number with
  | nil => simp [fieldLines, numbered, readFields]
  | cons entry rest induction =>
      obtain ⟨name, field⟩ := entry
      have read := readField_printField (valid name field List.mem_cons_self)
        (printable name field List.mem_cons_self)
      have fresh : known.has name = false := by
        apply Bool.eq_false_iff.mpr
        intro taken
        have member : name ∈ known.keys := Record.has_eq_true_iff.mp taken
        have parts : (known.keys ++ name :: Record.keys rest).Nodup := by
          simpa [Record.keys] using distinct
        exact (List.nodup_append.mp parts).2.2 name member name List.mem_cons_self rfl
      have extended : ((known ++ [(name, field)]) ++ rest).keys.Nodup := by simpa using distinct
      have others := induction (known ++ [(name, field)]) extended
        (fun name field later => valid name field (List.mem_cons_of_mem _ later))
        (fun name field later => printable name field (List.mem_cons_of_mem _ later)) (number + 1)
      have placed : atLine number (readField (printField name field)) = .ok (name, field) :=
        Except.mapError_eq_ok.mpr read
      rw [fieldLines, List.map_cons, numbered, readFields]
      simp only [placed, Except.ok_bind, fresh]
      simpa [fieldLines] using others

theorem readModel_printed {entity : Entity} (valid : entity.Valid)
    (printable : PrintableEntity entity) (header : Header) (start number : Nat) :
    readModel entity.name ⟨header, start, numbered number (fieldLines entity.fields)⟩ =
      .ok entity := by
  have fieldsRead := readFields_printed entity.name [] entity.fields valid.distinct valid.fields
    printable.fields number
  have sound : entity.defect? = none := Entity.defect?_eq_none_iff.mpr valid.oneId
  rw [readModel]
  simp only [fieldsRead, bind, Except.bind, List.nil_append, sound]

end Model

section Header

variable {kind name : String}

theorem readHeader?_printHeader (kindNamed : isIdentifier kind.toList = true)
    (named : isIdentifier name.toList = true) :
    readHeader? (printHeader kind name) = some ⟨kind, some name⟩ := by
  obtain ⟨c, rest, same, visible⟩ := (lineToken_identifier named).solid.starts
  obtain ⟨d, others, kindSame, -⟩ := isIdentifier_cons kindNamed
  have kindTaken : takeIdentifier (printHeader kind name) =
      (kind.toList, ' ' :: (name.toList ++ " \x7b".toList)) := by
    apply takeIdentifier_append kindNamed
    intro other first
    cases first
    rfl
  have nameTaken : takeIdentifier (name.toList ++ " \x7b".toList) =
      (name.toList, " \x7b".toList) := by
    apply takeIdentifier_append named
    intro other first
    cases first
    rfl
  have dropped : (' ' :: (name.toList ++ " \x7b".toList)).dropWhile Text.isBlank =
      name.toList ++ " \x7b".toList := by
    have blank : Text.isBlank ' ' = true := rfl
    rw [List.dropWhile_cons, if_pos blank, same, List.cons_append, List.dropWhile_cons, visible]
    rfl
  have kindNonempty : kind.toList.isEmpty = false := by simp [kindSame]
  have nonempty : name.toList.isEmpty = false := by simp [same]
  rw [readHeader?, kindTaken]
  simp only [dropped, nameTaken, kindNonempty, nonempty, String.ofList_toList]
  rfl

theorem significant_printHeader (kindNamed : isIdentifier kind.toList = true)
    (named : isIdentifier name.toList = true) : Significant (printHeader kind name) := by
  have kindToken := lineToken_identifier kindNamed
  obtain ⟨c, rest, same, visible⟩ := kindToken.solid.starts
  have header : printHeader kind name =
      kind.toList ++ ([' '] ++ (name.toList ++ ([' '] ++ ['\x7b']))) := rfl
  have plain : Plain (printHeader kind name) := by
    have opening := Plain.blank.append .openingBrace
    have nameOpening := Plain.blank.append ((lineToken_identifier named).plain.append opening)
    rw [header]
    exact kindToken.plain.append nameOpening
  apply plain.significant
  · exact ⟨c, _, by rw [header, same, List.cons_append], visible⟩
  · intro other last
    have endsOpening : printHeader kind name =
        (kind.toList ++ ' ' :: (name.toList ++ [' '])) ++ ['\x7b'] := by
      simp [printHeader]
    rw [endsOpening, List.getLast?_concat] at last
    cases last
    rfl

theorem significant_closing : Significant ['\x7d'] := by
  refine ⟨?_, rfl, by simp⟩
  intro c member
  rw [List.mem_singleton.mp member]
  rfl

end Header

section Text

variable {schema : Schema}

theorem significant_printBlock {header : List Char} (headerSignificant : Significant header)
    {body : List (List Char)} (bodyLines : ∀ line ∈ body, BodyLine line) :
    ∀ line ∈ printBlock header body, Significant line := by
  intro line member
  rcases List.mem_append.mp member with inside | last
  · rcases List.mem_cons.mp inside with rfl | inBody
    · exact headerSignificant
    · exact (bodyLines line inBody).significant
  · rw [List.mem_singleton.mp last]
    exact significant_closing

theorem isQuotable_label (provider : Provider) : isQuotable provider.label = true := by
  cases provider <;> rfl

theorem bodyLine_assignmentsOf (printable : PrintableSchema schema) :
    ∀ line ∈ assignmentLines (assignmentsOf schema.datasource), BodyLine line := by
  intro line member
  obtain ⟨⟨key, value⟩, inDatasource, rfl⟩ := List.mem_map.mp member
  have known := assignmentsOf_known schema.datasource key value inDatasource
  apply bodyLine_printAssignment known.1
  simp only [assignmentsOf, List.mem_append, List.mem_cons, List.not_mem_nil, or_false,
    Option.mem_toList, Option.map_eq_some_iff, Prod.mk.injEq] at inDatasource
  rcases inDatasource with (⟨-, rfl⟩ | ⟨-, rfl⟩) | ⟨ssl, declared, -, rfl⟩
  · exact isQuotable_label schema.datasource.provider
  · exact printable.url
  · exact printable.ssl ssl declared

theorem bodyLine_fields {entity : Entity} (printable : PrintableEntity entity) :
    ∀ line ∈ fieldLines entity.fields, BodyLine line := by
  intro line inEntity
  obtain ⟨⟨name, field⟩, declared, rfl⟩ := List.mem_map.mp inEntity
  exact bodyLine_printField (printable.fields name field declared)

theorem significant_printLines (printable : PrintableSchema schema) :
    ∀ line ∈ printLines schema, Significant line := by
  intro line member
  rcases List.mem_append.mp member with inDatasource | inModels
  · exact significant_printBlock (significant_printHeader rfl rfl)
      (bodyLine_assignmentsOf printable) line inDatasource
  · obtain ⟨entity, inSchema, inModel⟩ := List.mem_flatMap.mp inModels
    have entityPrintable := printable.entities entity inSchema
    exact significant_printBlock (significant_printHeader rfl entityPrintable.name)
      (bodyLine_fields entityPrintable) line inModel

/-- The lines of entities are scanned as blocks that are read as these entities. -/
theorem readBlocks_printModels (env : Record String) {entities : List Entity}
    (valid : ∀ entity ∈ entities, entity.Valid)
    (printable : ∀ entity ∈ entities, PrintableEntity entity) (number : Nat) (draft : Draft) :
    ∃ blocks, scanFrom none (numbered number (entities.flatMap printModel)) = ⟨blocks, none⟩ ∧
      blocks.foldlM (readBlock env) draft =
        .ok { draft with entities := draft.entities ++ entities } := by
  induction entities generalizing number draft with
  | nil =>
      refine ⟨[], rfl, ?_⟩
      simp [Except.pure_eq_ok]
  | cons entity rest induction =>
      have entityPrintable := printable entity List.mem_cons_self
      have read := readModel_printed (valid entity List.mem_cons_self) entityPrintable
      obtain ⟨blocks, scanned, blocksRead⟩ := induction
        (fun other later => valid other (List.mem_cons_of_mem _ later))
        (fun other later => printable other (List.mem_cons_of_mem _ later))
        (number + (printModel entity).length)
        { draft with entities := draft.entities ++ [entity] }
      let block : Block := ⟨⟨"model", some entity.name⟩, number,
        numbered (number + 1) (fieldLines entity.fields)⟩
      have step : readBlock env draft block =
          .ok { draft with entities := draft.entities ++ [entity] } := by
        simp only [readBlock, block, read, bind, Except.bind]
      refine ⟨block :: blocks, ?_, ?_⟩
      · rw [List.flatMap_cons, numbered_append]
        refine (scanFrom_printBlock (readHeader?_printHeader rfl entityPrintable.name)
          (bodyLine_fields entityPrintable) number _).trans ?_
        rw [scanned]
      · rw [List.foldlM_cons]
        exact Except.bind_eq_ok.mpr ⟨_, step, by simpa using blocksRead⟩

/-- Reading the text of a printable schema gives the schema back, in any environment. -/
theorem parse_printSchema (valid : schema.Valid) (printable : PrintableSchema schema)
    (env : Record String) : parse env (printSchema schema) = .ok ⟨schema, []⟩ := by
  have lines : significantLines (printSchema schema) = numbered 1 (printLines schema) :=
    significantLines_ofLines (significant_printLines printable)
  obtain ⟨blocks, scanned, blocksRead⟩ := readBlocks_printModels env valid.entities
    printable.entities (1 + (printDatasource schema.datasource).length)
    { datasource := some schema.datasource }
  let block : Block := ⟨⟨"datasource", some "db"⟩, 1,
    numbered 2 (assignmentLines (assignmentsOf schema.datasource))⟩
  have header : readHeader? (printHeader "datasource" "db") = some ⟨"datasource", some "db"⟩ :=
    readHeader?_printHeader rfl rfl
  have allScanned : scan (significantLines (printSchema schema)) = ⟨block :: blocks, none⟩ := by
    rw [lines, scan, printLines, numbered_append]
    refine (scanFrom_printBlock header (bodyLine_assignmentsOf printable) 1 _).trans ?_
    rw [scanned]
  have step : readBlock env {} block = .ok { datasource := some schema.datasource } := by
    have read := readDatasource_printed valid.address env ⟨"datasource", some "db"⟩ 1 2
    simp [readBlock, block, read, bind, Except.bind]
  have allRead : (block :: blocks).foldlM (readBlock env) {} =
      .ok { datasource := some schema.datasource, entities := schema.entities } := by
    rw [List.foldlM_cons]
    exact Except.bind_eq_ok.mpr ⟨_, step, by simpa using blocksRead⟩
  rw [parse, allScanned]
  apply Except.bind_eq_ok.mpr
  refine ⟨_, allRead, ?_⟩
  simp only [valid.references]

/-- Blanks, slashes, parentheses and single quotation marks in a default are kept. -/
theorem parse_printSchema_posts :
    let title : Field :=
      { type := .string, isUnique := true, defaultText := some " a\x27b // (c) " }
    let author : Field :=
      { type := .int, isOptional := true, reference := some ⟨"User", "id"⟩,
        onDelete := some .setNull }
    let id : Field := { type := .int, isId := true }
    let schema : Schema :=
      { datasource := { provider := .sqlite, url := "file:a" }
        entities := [⟨"User", [("id", id)]⟩,
          ⟨"Post", [("id", id), ("author", author), ("title", title)]⟩] }
    schema.Valid ∧ PrintableSchema schema ∧
      parse [] (printSchema schema) = .ok ⟨schema, []⟩ := by
  intro title author id schema
  have path : Datasource.filePath "file:a" = .ok (some "a") := by
    have named : "file:".toList.isPrefixOf "file:a".toList = true := by decide
    rw [Datasource.filePath, if_pos named]
    rfl
  have valid : schema.Valid := by
    refine ⟨⟨{ driver := "sqlite+aiosqlite", database := some "a" }, ?_⟩, ?_, by decide⟩
    · simp only [schema, Datasource.connection, path]
      rfl
    simp only [Entity.valid_iff]
    decide
  have idPrintable : PrintableField "id" id := ⟨rfl, by simp [id], by simp [id]⟩
  have authorPrintable : PrintableField "author" author := by
    refine ⟨rfl, by simp [author], ?_⟩
    intro reference refers
    cases refers
    exact ⟨rfl, rfl⟩
  have titlePrintable : PrintableField "title" title := by
    refine ⟨rfl, ?_, by simp [title]⟩
    intro text declared
    cases declared
    exact ⟨rfl, rfl, by decide, by simp [title]⟩
  have printable : PrintableSchema schema := by
    have url : isQuotable "file:a" = true := rfl
    refine ⟨url, by simp [schema], ?_⟩
    intro entity member
    simp only [schema, List.mem_cons, List.not_mem_nil, or_false] at member
    rcases member with rfl | rfl
    · refine ⟨by decide, ?_⟩
      intro name field declared
      cases List.mem_singleton.mp declared
      exact idPrintable
    · refine ⟨by decide, ?_⟩
      intro name field declared
      simp only [List.mem_cons, List.not_mem_nil, or_false, Prod.mk.injEq] at declared
      rcases declared with ⟨rfl, rfl⟩ | ⟨rfl, rfl⟩ | ⟨rfl, rfl⟩
      · exact idPrintable
      · exact authorPrintable
      · exact titlePrintable
  exact ⟨valid, printable, parse_printSchema valid printable []⟩

end Text

end SchemaStore.Dsl
