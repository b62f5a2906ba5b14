import SchemaStore.Proofs.Dsl.Declaration

/-!
# Where errors point

An error of a text points at a line: at the line that is wrong by itself or after the lines
before it in its block, or at the header of a block that is wrong as a whole.  Only a missing
datasource, entities that do not fit together, and an address that cannot be built point at no
line; the last one does not name its source either.
-/

namespace SchemaStore.Dsl

/-- A line that gives a key some value. -/
def Line.Gives (line : Line) (key : String) : Prop :=
  ∃ written, AssignmentForm line.text key written

/-- What is wrong with a line in the body of a block, after the lines before it. -/
inductive Block.LineFault (env : Record String) (block : Block) (earlier : List Line)
    (line : Line) : Defect → Prop where
  | value {entries : Record String} {defect : Defect} (kind : block.header.kind = "datasource")
      (given : GiveEntries env earlier entries) (fault : ValueFault env line.text defect) :
      LineFault env block earlier line defect
  | field {fields : Record Field} {defect : Defect} (kind : block.header.kind = "model")
      (declared : DeclareFields earlier fields) (refused : readField line.text = .error defect) :
      LineFault env block earlier line defect
  | fieldTwice {fields : Record Field} {field : Field} {name model : String}
      (kind : block.header.kind = "model") (named : block.header.name = some model)
      (declared : DeclareFields earlier fields) (form : FieldForm line.text name field)
      (known : name ∈ fields.keys) : LineFault env block earlier line (.fieldTwice name model)

/-- What is wrong with a block as a whole, after the blocks before it. -/
inductive Block.Fault (env : Record String) (before : List Block) (block : Block) :
    Defect → Prop where
  | secondDatasource {other : Block} (kind : block.header.kind = "datasource")
      (member : other ∈ before) (otherKind : other.isDatasource = true) :
      Fault env before block .secondDatasource
  | unnamedModel (kind : block.header.kind = "model") (unnamed : block.header.name = none) :
      Fault env before block .unnamedModel
  | unknownBlock (notDatasource : block.header.kind ≠ "datasource")
      (notModel : block.header.kind ≠ "model") :
      Fault env before block (.unknownBlock block.header.kind)
  | missingKey {key : String} (kind : block.header.kind = "datasource")
      (required : key = "provider" ∨ key = "url") (missing : ∀ line ∈ block.body, ¬line.Gives key) :
      Fault env before block (.missingKey key)
  | unknownProvider {entries : Record String} {provider : String}
      (kind : block.header.kind = "datasource") (given : GiveEntries env block.body entries)
      (last : Record.get? entries.reverse "provider" = some provider)
      (unknown : Provider.ofLabel? provider = none) : Fault env before block .unknownProvider
  | badPort {entries : Record String} {datasource : Datasource} {text : String}
      {port : Text.NumeralDefect} (kind : block.header.kind = "datasource")
      (given : GiveEntries env block.body entries) (has : HasValues entries.reverse datasource)
      (refused : datasource.connection = .error (.badPort text port)) :
      Fault env before block (.badPort text port)
  | invalidEntity {name : String} {fields : Record Field} {defect : EntityDefect}
      (kind : block.header.kind = "model") (named : block.header.name = some name)
      (declared : DeclareFields block.body fields)
      (refused : Entity.defect? { name, fields } = some defect) :
      Fault env before block (.invalidEntity defect)

/-- How a block fails after the blocks before it: at a line of its body, at its header, or at no
line if the address that it gives cannot be built. -/
inductive Block.Fails (env : Record String) (before : List Block) (block : Block) :
    ParseError → Prop where
  | line {earlier later : List Line} {line : Line} {defect : Defect}
      (body : block.body = earlier ++ line :: later)
      (fault : block.LineFault env earlier line defect) :
      Fails env before block (.atLine line.number defect)
  | header {defect : Defect} (fault : block.Fault env before defect) :
      Fails env before block (.atLine block.start defect)
  | unusableUrl {entries : Record String} {datasource : Datasource} {defect : DatasourceDefect}
      (kind : block.header.kind = "datasource") (given : GiveEntries env block.body entries)
      (has : HasValues entries.reverse datasource)
      (refused : datasource.connection = .error defect)
      (notPort : ∀ text port, defect ≠ .badPort text port) :
      Fails env before block (.unusableUrl defect)

/-- How the lines of a text fail: in a block, where the blocks end before the lines do, or, with
all blocks read, because they give no schema. -/
inductive Fails (env : Record String) (lines : List Line) : ParseError → Prop where
  | block {front own rest : List Line} {before : List Block} {block : Block} {draft : Draft}
      {error : ParseError} (split : lines = front ++ own ++ rest) (whole : Consists front before)
      (declared : draft.DeclaredBy env before) (fills : block.Fills own)
      (fails : block.Fails env before error) : Fails env lines error
  | scan {front rest : List Line} {blocks : List Block} {draft : Draft} {number : Nat}
      {defect : ScanDefect} (split : lines = front ++ rest) (whole : Consists front blocks)
      (declared : draft.DeclaredBy env blocks) (breaks : BreaksOff rest (some (number, defect))) :
      Fails env lines (.atLine number (.scan defect))
  | missingDatasource {blocks : List Block} (whole : Consists lines blocks)
      (missing : ∀ block ∈ blocks, block.isDatasource = false) :
      Fails env lines .missingDatasource
  | invalidSchema {blocks : List Block} {source : Block} {parsed : Parsed} {defect : SchemaDefect}
      (declares : Declares env lines blocks source parsed)
      (refused : parsed.schema.defect? = some defect) : Fails env lines (.invalidSchema defect)

section Block

variable {env : Record String} {before : List Block} {block : Block} {draft : Draft}
  {error : ParseError}

theorem mem_keys_of_gives {lines : List Line} {entries : Record String} {line : Line}
    {key : String} (given : GiveEntries env lines entries) (member : line ∈ lines)
    (gives : line.Gives key) : key ∈ entries.keys := by
  induction given with
  | nil => cases member
  | @cons first entry rest others form later induction =>
      rw [Record.keys, List.map_cons, List.mem_cons]
      rcases List.mem_cons.mp member with rfl | inRest
      · left
        obtain ⟨written, assigns⟩ := gives
        have same {other : String} {value : List Char}
            (otherForm : AssignmentForm line.text other value) : key = other := by
          have read := readAssignment?_eq_some_iff.mpr assigns
          rw [readAssignment?_eq_some_iff.mpr otherForm] at read
          cases read
          rfl
        cases form with
        | known form => exact same form
        | unknown form => exact same form
      · exact .inr (induction inRest)

/-- What was read of a datasource is what its entries give. -/
theorem giveEntries_of_readValues {values : Record String} {ignored : List String}
    (read : readValues env [] [] block.body = .ok (values, ignored)) :
    ∃ entries, GiveEntries env block.body entries ∧
      ∀ key ∈ datasourceKeys, values.get? key = Record.get? entries.reverse key := by
  obtain ⟨entries, given, -, last⟩ := readValues_eq_ok read
  refine ⟨entries, given, fun key known => ?_⟩
  rw [last key known, show Record.get? ([] : Record String) key = none from rfl, Option.or_none]

theorem Block.fails_of_readDatasource (kind : block.header.kind = "datasource")
    (failed : readDatasource env block = .error error) : block.Fails env before error := by
  rcases readDatasource_eq_error failed with stopped | ⟨values, ignored, read, why⟩
  · obtain ⟨earlier, line, later, entries, defect, body, given, fault, rfl⟩ :=
      readValues_eq_error stopped
    exact .line body (.value kind given fault)
  · obtain ⟨entries, given, same⟩ := giveEntries_of_readValues read
    rcases why with ⟨key, required, missing, rfl⟩ | ⟨provider, last, unknown, rfl⟩ |
      ⟨datasource, has, defect, refused, located⟩
    · refine .header (.missingKey kind required fun line member gives => ?_)
      have known : key ∈ datasourceKeys := by
        rcases required with rfl | rfl <;> decide
      -- A line that gave the key would have made an entry of it.
      have present : Record.has entries.reverse key = true := by
        rw [Record.has_eq_true_iff, Record.keys, List.map_reverse, List.mem_reverse]
        exact mem_keys_of_gives given member gives
      rw [Record.has_eq_isSome_get?, ← same key known, missing] at present
      cases present
    · rw [same _ (by decide)] at last
      exact .header (.unknownProvider kind given last unknown)
    · have hasEntries := has.congr same
      rcases located with ⟨text, port, rfl, rfl⟩ | ⟨notPort, rfl⟩
      · exact .header (.badPort kind given hasEntries refused)
      · exact .unusableUrl kind given hasEntries refused notPort

theorem Block.fails_of_readModel {name : String} (kind : block.header.kind = "model")
    (named : block.header.name = some name) (failed : readModel name block = .error error) :
    block.Fails env before error := by
  rcases readModel_eq_error failed with stopped | ⟨fields, defect, read, refused, rfl⟩
  · obtain ⟨earlier, line, later, fields, body, declared, why⟩ := readFields_eq_error stopped
    rcases why with ⟨defect, refused, rfl⟩ | ⟨field, definition, form, twice, rfl⟩
    · exact .line body (.field kind declared refused)
    · exact .line body (.fieldTwice kind named declared form (Record.has_eq_true_iff.mp twice))
  · obtain ⟨declared, rfl, forms, -⟩ := readFields_eq_ok read
    exact .header (.invalidEntity kind named forms refused)

theorem Block.fails_of_readBlock (declared : draft.DeclaredBy env before)
    (failed : readBlock env draft block = .error error) : block.Fails env before error := by
  rcases readBlock_eq_error failed with ⟨kind, second | single⟩ | ⟨kind, unnamed | named⟩ |
    ⟨⟨notDatasource, notModel⟩, rfl⟩
  · obtain ⟨present, rfl⟩ := second
    obtain ⟨datasource, given⟩ := Option.isSome_iff_exists.mp present
    have only := declared.datasource
    rw [given] at only
    obtain ⟨other, one, -⟩ := only
    have member : other ∈ before.filter Block.isDatasource := by simp [one]
    obtain ⟨inBefore, otherKind⟩ := List.mem_filter.mp member
    exact .header (.secondDatasource kind inBefore otherKind)
  · exact fails_of_readDatasource kind single.2
  · obtain ⟨unnamed, rfl⟩ := unnamed
    exact .header (.unnamedModel kind unnamed)
  · obtain ⟨name, named, stopped⟩ := named
    exact fails_of_readModel kind named stopped
  · exact .header (.unknownBlock notDatasource notModel)

end Block

section Text

variable {env : Record String} {text : String} {error : ParseError}

/-- The lines of one block among several whole ones. -/
theorem Consists.split {lines : List Line} {before after : List Block} {block : Block}
    (whole : Consists lines (before ++ block :: after)) :
    ∃ front own rest, lines = front ++ own ++ rest ∧ Consists front before ∧ block.Fills own := by
  induction before generalizing lines with
  | nil =>
      cases whole with
      | @cons _ own rest _ fills later => exact ⟨[], own, rest, rfl, .nil, fills⟩
  | cons first before induction =>
      cases whole with
      | @cons _ lines _ _ fills later =>
          obtain ⟨front, own, rest, rfl, whole, ownFills⟩ := induction later
          exact ⟨lines ++ front, own, rest, by simp, .cons fills whole, ownFills⟩

theorem fails_of_parse (failed : parse env text = .error error) :
    Fails env (significantLines text) error := by
  obtain ⟨front, rest, lines, whole, breaks⟩ := scan_divides (significantLines text)
  rcases parse_eq_error failed with stopped | ⟨draft, read, broken | ⟨unbroken, why⟩⟩
  · obtain ⟨before, block, after, draft, split, read, stopped⟩ :=
      Except.exists_of_foldlM_eq_error stopped
    rw [split] at whole
    obtain ⟨first, own, others, rfl, whole, fills⟩ := whole.split
    have declared := declaredBy_of_blocks read
    rw [List.append_assoc] at lines
    exact .block lines whole declared fills (Block.fails_of_readBlock declared stopped)
  · obtain ⟨number, defect, broken, rfl⟩ := broken
    rw [broken] at breaks
    exact .scan lines whole (declaredBy_of_blocks read) breaks
  · have declared := declaredBy_of_blocks read
    -- Lines that do not break off are whole blocks.
    rw [unbroken] at breaks
    cases breaks
    rw [List.append_nil] at lines
    rw [← lines] at whole
    rcases why with ⟨missing, rfl⟩ | ⟨datasource, defect, given, refused, rfl⟩
    · refine .missingDatasource whole fun block member => ?_
      have none := declared.datasource
      rw [missing] at none
      exact Bool.eq_false_iff.mpr (List.filter_eq_nil_iff.mp none.1 block member)
    · obtain ⟨source, declares⟩ := declared.declares whole given
      exact .invalidSchema declares refused

section Number

theorem Block.Opens.exists_start {block : Block} {lines : List Line} (opens : block.Opens lines) :
    ∃ line ∈ lines, line.number = block.start := by
  obtain ⟨-, start, -⟩ := opens
  exact ⟨_, List.mem_cons_self, start⟩

theorem Block.Fills.exists_start {block : Block} {lines : List Line} (fills : block.Fills lines) :
    ∃ line ∈ lines, line.number = block.start := by
  obtain ⟨opens, -⟩ := fills
  obtain ⟨line, member, start⟩ := opens.exists_start
  exact ⟨line, List.mem_append_left _ member, start⟩

theorem Block.Fills.mem_of_body {block : Block} {lines : List Line} {line : Line}
    (fills : block.Fills lines) (member : line ∈ block.body) : line ∈ lines := by
  obtain ⟨⟨-, -, -⟩, -⟩ := fills
  exact List.mem_append_left _ (List.mem_cons_of_mem _ member)

/-- A block fails at one of its lines. -/
theorem Block.Fails.exists_line {before : List Block} {block : Block} {lines : List Line}
    {number : Nat} {defect : Defect} (fails : block.Fails env before (.atLine number defect))
    (fills : block.Fills lines) : ∃ line ∈ lines, line.number = number := by
  cases fails with
  | @line earlier later line _ body fault =>
      have member : line ∈ block.body := by simp [body]
      exact ⟨line, fills.mem_of_body member, rfl⟩
  | header fault => exact fills.exists_start

theorem BreaksOff.exists_line {lines : List Line} {number : Nat} {defect : ScanDefect}
    (breaks : BreaksOff lines (some (number, defect))) : ∃ line ∈ lines, line.number = number := by
  cases breaks with
  | notBlock rest noHeader => exact ⟨_, List.mem_cons_self, rfl⟩
  | nestedBlock opens rest last => exact ⟨_, List.mem_append_right _ List.mem_cons_self, rfl⟩
  | braceNotAlone opens rest brace others last =>
      exact ⟨_, List.mem_append_right _ List.mem_cons_self, rfl⟩
  | neverClosed opens => exact opens.exists_start

/-- Lines fail at one of them. -/
theorem Fails.exists_line {lines : List Line} {number : Nat} {defect : Defect}
    (fails : Fails env lines (.atLine number defect)) : ∃ line ∈ lines, line.number = number := by
  cases fails with
  | block split whole declared fills fails =>
      obtain ⟨line, member, place⟩ := fails.exists_line fills
      rw [split]
      exact ⟨line, List.mem_append_left _ (List.mem_append_right _ member), place⟩
  | scan split whole declared breaks =>
      obtain ⟨line, member, place⟩ := breaks.exists_line
      rw [split]
      exact ⟨line, List.mem_append_right _ member, place⟩

end Number

/-- A text has a significant line under a number, counted from one. -/
def Shows (text : String) (number : Nat) : Prop :=
  1 ≤ number ∧ ∃ raw, (Text.splitLines text.toList)[number - 1]? = some raw ∧
    significantText raw ≠ []

/-- What the message of an error says of its place. -/
def ParseError.Places (source text message : String) : ParseError → Prop
  | .atLine number defect =>
      message = source ++ ":" ++ toString number ++ ": " ++ defect.message ∧ Shows text number
  | .missingDatasource => message = source ++ ": missing datasource block"
  | .invalidSchema defect => message = source ++ ": " ++ defect.message
  | .unusableUrl defect => defect.failure = .own (.schema message)

/-- A text that cannot be read fails at the line that is to blame, which the message gives after
the source.  The exceptions are a datasource that is missing and entities that do not fit
together, for which it gives the source alone, and an address that cannot be built, for which it
gives neither. -/
theorem parse_fails (failed : parse env text = .error error) (source : String) :
    Fails env (significantLines text) error ∧
      ∃ message, error.toFailure source = .own (.schema message) ∧
        error.Places source text message := by
  have fails := fails_of_parse failed
  refine ⟨fails, ?_⟩
  cases error with
  | atLine number defect =>
      obtain ⟨line, member, rfl⟩ := fails.exists_line
      obtain ⟨shown, positive, raw, found, same⟩ := mem_significantLines_iff.mp member
      exact ⟨_, rfl, rfl, positive, raw, found, same ▸ shown⟩
  | missingDatasource => exact ⟨_, rfl, rfl⟩
  | invalidSchema defect => exact ⟨_, rfl, rfl⟩
  | unusableUrl defect =>
      cases fails with
      | block _ _ _ _ fails =>
          cases fails with
          | unusableUrl _ _ _ _ notPort =>
              cases defect with
              | unreadableUrl => exact ⟨_, rfl, rfl⟩
              | missingParts names => exact ⟨_, rfl, rfl⟩
              | badPort text port => exact absurd rfl (notPort text port)

/-- The message about an address without a password names neither the source nor a line. -/
theorem parse_fails_password :
    let text := "datasource db \x7b\n  provider = \x22mysql\x22\n" ++
      "  url = \x22mysql://root@db/app\x22\n\x7d\n"
    let error : ParseError := .unusableUrl (.missingParts ["password"])
    parse [] text = .error error ∧ Fails [] (significantLines text) error ∧
      error.toFailure "app.orm" = .own (.schema "Datasource url is missing: password") := by
  intro text error
  have failed : parse [] text = .error error := by decide +kernel
  obtain ⟨fails, -⟩ := parse_fails failed "app.orm"
  exact ⟨failed, fails, rfl⟩

/-- A block that is never closed is blamed on its header, past a comment and whole blocks. -/
example :
    parse [] ("// app\ndatasource db \x7b\n  provider = \x22sqlite\x22\n" ++
      "  url = \x22file:app.db\x22\n\x7d\n\nmodel User \x7b\n  id Int @id\n") =
      .error (.atLine 7 (.scan .neverClosed)) := by
  decide +kernel

end Text

end SchemaStore.Dsl
