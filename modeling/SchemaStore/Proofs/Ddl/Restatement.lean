import Mathlib.Data.List.Basic
import SchemaStore.Proofs.Ddl.Creation
import SchemaStore.Proofs.Ddl.Distinct
import SchemaStore.Proofs.Ddl.Rendering
import SchemaStore.Proofs.Live.Literal

/-!
# Columns that are stated anew

A MySQL server forgets what a column had when a change states the column anew, so
the change has to say all that the creation of the table says of it.  Both write
definitions of their own.  They are compared by what a server reads in them: the
definitions say the same of every column but the key, which counts up by itself
in the creation only.
-/

namespace SchemaStore

namespace Text

/-- The words of a text. -/
def words (text : String) : List String :=
  (text.toList.splitOn ' ').map String.ofList

/-- Words with a blank before each. -/
def spacedWords (parts : List String) : String :=
  String.join (parts.map (" " ++ ·))

theorem words_append (text other : String) :
    words (text ++ " " ++ other) = words text ++ words other := by
  have split : (text ++ " " ++ other).toList = text.toList ++ ' ' :: other.toList := by simp
  rw [words, split, List.splitOn_append_cons_self, List.map_append]
  rfl

theorem words_of_not_mem {word : String} (whole : ' ' ∉ word.toList) : words word = [word] := by
  rw [words, List.splitOn_eq_singleton whole, List.map_singleton, String.ofList_toList]

theorem spacedWords_append (parts others : List String) :
    spacedWords (parts ++ others) = spacedWords parts ++ spacedWords others := by
  rw [spacedWords, List.map_append, String.join_append]
  rfl

/-- Words without blanks are read back where they follow a text. -/
theorem words_spacedWords (text : String) {parts : List String}
    (whole : ∀ word ∈ parts, ' ' ∉ word.toList) :
    words (text ++ spacedWords parts) = words text ++ parts := by
  induction parts generalizing text with
  | nil => simp [spacedWords]
  | cons word rest induction =>
      obtain ⟨wordWhole, restWhole⟩ := List.forall_mem_cons.mp whole
      have next : text ++ spacedWords (word :: rest) = text ++ " " ++ word ++ spacedWords rest := by
        rw [spacedWords, List.map_cons, String.join_cons, ← String.append_assoc,
          ← String.append_assoc]
        rfl
      rw [next, induction _ restWhole, words_append, words_of_not_mem wordWhole,
        List.append_assoc, List.singleton_append]

end Text

section Number

/-- An integer is written in digits, with a sign before them. -/
theorem isDigit_or_sign_of_mem_toString {n : Int} {c : Char} (member : c ∈ (toString n).toList) :
    c.isDigit = true ∨ c = '-' := by
  have digits {m : Nat} (inside : c ∈ m.repr.toList) : c.isDigit = true := by
    rw [Nat.toList_repr] at inside
    exact Nat.isDigit_of_mem_toDigits (by decide) (by decide) inside
  cases n with
  | ofNat m => exact .inl (digits member)
  | negSucc m =>
      have signed : (toString (Int.negSucc m)).toList = '-' :: (m + 1).repr.toList := by
        simp [toString, Int.repr]
      rw [signed] at member
      rcases List.mem_cons.mp member with sign | later
      · exact .inr sign
      · exact .inl (digits later)

theorem not_mem_toString (n : Int) {c : Char} (other : c.isDigit = false) (notSign : c ≠ '-') :
    c ∉ (toString n).toList := by
  intro member
  rcases isDigit_or_sign_of_mem_toString member with digit | sign
  · rw [other] at digit
    cases digit
  · exact notSign sign

end Number

/-- What a MySQL server takes from the definition of a column, besides its name. -/
structure ColumnTerms where
  type : String
  nullable : Bool := true
  fallback : Option String := none
  /-- What an update of the row sets the column to. -/
  onUpdate : Option String := none
  /-- Whether the server gives new rows the next number. -/
  counted : Bool := false
deriving DecidableEq, Repr

namespace ColumnTerms

/-- A default, which may stand between parentheses. -/
def readDefault (value : String) : String :=
  String.ofList ((innerText? value.toList).getD value.toList)

/-- Read the attributes that follow a type. -/
def readAttributes? : ColumnTerms → List String → Option ColumnTerms
  | terms, [] => some terms
  | terms, "NOT" :: "NULL" :: rest => { terms with nullable := false }.readAttributes? rest
  | terms, "NULL" :: rest => { terms with nullable := true }.readAttributes? rest
  | terms, "DEFAULT" :: value :: rest =>
      { terms with fallback := some (readDefault value) }.readAttributes? rest
  | terms, "ON" :: "UPDATE" :: value :: rest =>
      { terms with onUpdate := some value }.readAttributes? rest
  | terms, "AUTO_INCREMENT" :: rest => { terms with counted := true }.readAttributes? rest
  | _, _ => none

/-- Read the definition of a column after its name. -/
def ofText? (text : String) : Option ColumnTerms :=
  match Text.words text with
  | type :: "UNSIGNED" :: rest =>
      { type := type ++ " UNSIGNED" : ColumnTerms }.readAttributes? rest
  | type :: rest => { type : ColumnTerms }.readAttributes? rest
  | [] => none

end ColumnTerms

/-- A number is read as it is, with parentheses around or without. -/
theorem ColumnTerms.readDefault_number (n : Int) :
    readDefault (toString n) = toString n ∧
      readDefault ("(" ++ toString n ++ ")") = toString n := by
  constructor
  · have bare : innerText? (toString n).toList = none := by
      rw [Option.eq_none_iff_forall_ne_some]
      intro inner found
      have opening : '(' ∈ (toString n).toList := by
        rw [innerText?_eq_some_iff.mp found]
        exact List.mem_cons_self
      exact not_mem_toString n rfl (by decide) opening
    rw [readDefault, bare, Option.getD_none, String.ofList_toList]
  · have inner : innerText? ("(" ++ toString n ++ ")").toList = some (toString n).toList := by
      rw [innerText?_eq_some_iff]
      simp
    rw [readDefault, inner, Option.getD_some, String.ofList_toList]

/-- What a default without quotes means: the value of new rows, and of updated ones. -/
inductive ColumnDefault.Means : Option ColumnDefault → Option String → Option String → Prop where
  | nothing : Means none none none
  | number {text : String} {n : Int} (read : readDefaultNumber text = .ok n) :
      Means (some (.number text)) (some (toString n)) none
  | now : Means (some .now) (some "CURRENT_TIMESTAMP") none
  | nowOnUpdate :
      Means (some .nowOnUpdate) (some "CURRENT_TIMESTAMP") (some "CURRENT_TIMESTAMP")

section Clause

variable {fallback : Option ColumnDefault} {value onUpdate : Option String}

/-- Every default without quotes means something, unless its number cannot be read. -/
theorem ColumnDefault.means_or_error (unquoted : ∀ text, fallback ≠ some (.literal text)) :
    (∃ value onUpdate, ColumnDefault.Means fallback value onUpdate) ∨
      ∃ text cause, fallback = some (.number text) ∧ readDefaultNumber text = .error cause := by
  rcases fallback with _ | literal | text | _ | _
  · exact .inl ⟨_, _, .nothing⟩
  · exact absurd rfl (unquoted literal)
  · cases read : readDefaultNumber text with
    | ok n => exact .inl ⟨_, _, .number read⟩
    | error cause => exact .inr ⟨text, cause, rfl, read⟩
  · exact .inl ⟨_, _, .now⟩
  · exact .inl ⟨_, _, .nowOnUpdate⟩

/-- The default part of a definition, as its words. -/
theorem ColumnDefault.Means.defaultClause_eq (means : ColumnDefault.Means fallback value onUpdate)
    (dialect : Dialect) (inDefinition : Bool) :
    ∃ parts, dialect.defaultClause inDefinition fallback = .ok (Text.spacedWords parts) ∧
      (∀ word ∈ parts, ' ' ∉ word.toList) ∧
      ∀ terms : ColumnTerms, terms.fallback = none → terms.onUpdate = none →
        ∀ rest, terms.readAttributes? (parts ++ rest) =
          { terms with fallback := value, onUpdate := onUpdate }.readAttributes? rest := by
  cases means with
  | nothing =>
      refine ⟨[], rfl, by simp, ?_⟩
      rintro ⟨type, nullable, fallback, onUpdate, counted⟩ rfl rfl rest
      rfl
  | @number text n read =>
      let written := if inDefinition && n < 0 then "(" ++ toString n ++ ")" else toString n
      have whole : ' ' ∉ written.toList := by
        have noBlank := not_mem_toString n (rfl : ' '.isDigit = false) (by decide)
        dsimp only [written]
        split
        · simpa using noBlank
        · exact noBlank
      have same : ColumnTerms.readDefault written = toString n := by
        dsimp only [written]
        split
        · exact (ColumnTerms.readDefault_number n).2
        · exact (ColumnTerms.readDefault_number n).1
      refine ⟨["DEFAULT", written], ?_, by simp [whole], ?_⟩
      · simp only [Dialect.defaultClause, Dialect.defaultText, read]
        rfl
      · rintro ⟨type, nullable, fallback, onUpdate, counted⟩ rfl rfl rest
        rw [← same]
        rfl
  | now =>
      refine ⟨["DEFAULT", "CURRENT_TIMESTAMP"], rfl, by decide, ?_⟩
      rintro ⟨type, nullable, fallback, onUpdate, counted⟩ rfl rfl rest
      rfl
  | nowOnUpdate =>
      refine ⟨["DEFAULT", "CURRENT_TIMESTAMP", "ON", "UPDATE", "CURRENT_TIMESTAMP"], rfl,
        by decide, ?_⟩
      rintro ⟨type, nullable, fallback, onUpdate, counted⟩ rfl rfl rest
      rfl

end Clause

section Column

variable {column : Column} {value onUpdate : Option String}

/-- The words of a type are read as this type, and those after it as attributes. -/
theorem ColumnTerms.ofText?_typeName (type : ColumnType) {parts : List String}
    (whole : ∀ word ∈ parts, ' ' ∉ word.toList) {terms : ColumnTerms}
    (read : { type := Dialect.mysql.typeName type : ColumnTerms }.readAttributes? parts =
      some terms) :
    ofText? (Dialect.mysql.typeName type ++ Text.spacedWords parts) = some terms := by
  have single {word : String} (unsplit : Text.words word = [word])
      (read : { type := word : ColumnTerms }.readAttributes? parts = some terms) :
      ofText? (word ++ Text.spacedWords parts) = some terms := by
    rw [ofText?, Text.words_spacedWords word whole, unsplit, List.singleton_append]
    split
    · next same =>
      -- No attribute starts with the second word of a type.
      cases same
      cases read
    · next same =>
      cases same
      exact read
    · next none => cases none
  cases type with
  | integer =>
      have typeWords : Text.words (Dialect.mysql.typeName .integer) = ["INTEGER", "UNSIGNED"] := by
        decide
      rw [ofText?, Text.words_spacedWords _ whole, typeWords]
      exact read
  | varchar => exact single (by decide) read
  | text => exact single (by decide) read
  | timestamp => exact single (by decide) read

/-- The part of a definition that tells whether a column may be empty. -/
inductive NullText : Bool → String → Prop where
  | required : NullText false " NOT NULL"
  | optional : NullText true " NULL"
  | unsaid : NullText true ""

/-- The part that tells whether a column may be empty, as its words. -/
theorem NullText.exists_words {nullable : Bool} {text : String} (nulls : NullText nullable text) :
    ∃ parts, text = Text.spacedWords parts ∧ (∀ word ∈ parts, ' ' ∉ word.toList) ∧
      ∀ terms : ColumnTerms, terms.nullable = true →
        ∀ rest, terms.readAttributes? (parts ++ rest) =
          { terms with nullable }.readAttributes? rest := by
  cases nulls with
  | required => exact ⟨["NOT", "NULL"], rfl, by decide, fun _ _ _ => rfl⟩
  | optional => exact ⟨["NULL"], rfl, by decide, fun _ _ _ => rfl⟩
  | unsaid =>
      refine ⟨[], rfl, by simp, ?_⟩
      rintro ⟨type, nullable, fallback, onUpdate, counted⟩ rfl rest
      rfl

/-- What is read in a definition with a default that has a meaning. -/
theorem ColumnTerms.ofText?_definition
    (means : ColumnDefault.Means column.fallback value onUpdate) (type : ColumnType)
    {nullable : Bool} {nullText : String} (nulls : NullText nullable nullText)
    (counted inDefinition : Bool) :
    ∃ clause, Dialect.mysql.defaultClause inDefinition column.fallback = .ok clause ∧
      ofText? (Dialect.mysql.typeName type ++ nullText ++ clause ++
          if counted then " AUTO_INCREMENT" else "") =
        some
          { type := Dialect.mysql.typeName type, nullable, fallback := value, onUpdate,
            counted } := by
  obtain ⟨nullParts, rfl, nullWhole, nullRead⟩ := nulls.exists_words
  obtain ⟨parts, written, whole, read⟩ := means.defaultClause_eq .mysql inDefinition
  refine ⟨Text.spacedWords parts, written, ?_⟩
  let ending := if counted then ["AUTO_INCREMENT"] else []
  have text : Dialect.mysql.typeName type ++ Text.spacedWords nullParts ++
      Text.spacedWords parts ++ (if counted then " AUTO_INCREMENT" else "") =
        Dialect.mysql.typeName type ++ Text.spacedWords (nullParts ++ (parts ++ ending)) := by
    rw [Text.spacedWords_append, Text.spacedWords_append, ← String.append_assoc,
      ← String.append_assoc]
    cases counted <;> rfl
  rw [text]
  apply ofText?_typeName
  · simp only [List.forall_mem_append]
    refine ⟨nullWhole, whole, ?_⟩
    cases counted <;> decide
  · rw [nullRead _ rfl, read _ rfl rfl]
    cases counted <;> rfl

/-- What is read in the definition of a column in a new table. -/
theorem columnDefinition_terms
    (means : ColumnDefault.Means column.fallback value onUpdate) :
    ∃ text, Dialect.mysql.columnDefinition column =
        .ok (Dialect.mysql.name column.name ++ " " ++ text) ∧
      ColumnTerms.ofText? text = some
        { type := Dialect.mysql.typeName column.type, nullable := column.nullable,
          fallback := value, onUpdate, counted := column.isKey } := by
  have nulls : NullText column.nullable
      (if !column.nullable then " NOT NULL"
        else if column.type == .timestamp then " NULL" else "") := by
    cases column.nullable with
    | false => exact .required
    | true =>
        cases column.type == .timestamp with
        | true => exact .optional
        | false => exact .unsaid
  obtain ⟨clause, written, read⟩ :=
    ColumnTerms.ofText?_definition means column.type nulls column.isKey true
  refine ⟨_, ?_, read⟩
  rw [Dialect.columnDefinition, written]
  refine congrArg Except.ok ?_
  simp only [String.append_assoc]

/-- How a change names the column that it states anew. -/
def restateVerb (renames : Bool) (name : String) : String :=
  if renames then "CHANGE " ++ name ++ " " ++ name else "MODIFY " ++ name

/-- What is read in the definition of a column that is stated anew. -/
theorem restateColumn_terms
    (means : ColumnDefault.Means column.fallback value onUpdate) (renames : Bool)
    (table : String) :
    ∃ text, Dialect.mysql.restateColumn renames table column =
        .ok (Dialect.mysql.alterTable table ++
          restateVerb renames (Dialect.mysql.name column.name) ++ " " ++ text) ∧
      ColumnTerms.ofText? text = some
        { type := Dialect.mysql.typeName column.type, nullable := column.nullable,
          fallback := value, onUpdate } := by
  have nulls : NullText column.nullable (if column.nullable then " NULL" else " NOT NULL") := by
    cases column.nullable with
    | false => exact .required
    | true => exact .optional
  obtain ⟨clause, written, read⟩ :=
    ColumnTerms.ofText?_definition means column.type nulls false false
  refine ⟨_, ?_, read⟩
  rw [Dialect.restateColumn, written]
  refine congrArg Except.ok ?_
  simp only [restateVerb, Bool.false_eq_true, if_false, String.append_empty, String.append_assoc]

end Column

section Plan

variable {schema : Schema} {entity : Entity} {name : String} {field : Field} {live : TableState}
  {traits : BackendTraits} {action : DdlAction}

/-- The column that a change of a table states anew: one whose type is altered, or a time whose
default is set. -/
def DdlAction.restatedColumn? (entity : Entity) : DdlAction → Option String
  | .alterType _ name _ => some name
  | .setDefault _ name =>
      if (entity.fields.get? name).map Field.type = some .dateTime then some name else none
  | _ => none

/-- A change that states a column anew was found when the live column was compared with its
field. -/
theorem columnChanges_of_planned (valid : entity.Valid)
    (planned : action ∈ (planEntity entity schema live traits).actions)
    (restates : action.restatedColumn? entity = some name) :
    ∃ field column, (name, field) ∈ entity.fields ∧
      action ∈ field.columnChanges entity.tableName name column traits := by
  rcases planEntity_cases planned with ⟨-, rfl⟩ | ⟨present, other, field, declared, plans⟩
  · cases restates
  · have found := (mem_actions_iff valid.distinct present declared plans.onBehalf).mp planned
    have about : name = other ∧ action.isAbsorbable = false := by
      cases plans <;> simp_all [DdlAction.restatedColumn?, DdlAction.isAbsorbable]
    obtain ⟨rfl, amends⟩ := about
    have noConstraint : action ∉ Finding.changes
        (field.constraintFindings schema entity.tableName name live traits) := by
      intro constraint
      have absorbable := (field.changes_constraintFindings schema _ name live traits).2 _ constraint
      rw [amends] at absorbable
      cases absorbable
    cases column : live.columns.get? name with
    | some column =>
        rw [Field.findings_of_column column, Finding.changes_append, List.mem_append,
          Field.changes_columnFindings] at found
        rcases found with change | constraint
        · split at change
          · exact ⟨field, _, declared, change⟩
          · cases change
        · exact absurd constraint noConstraint
    | none =>
        rw [Field.findings_of_missing column] at found
        split at found
        · rw [Finding.changes_change, List.mem_cons] at found
          rcases found with rfl | constraint
          · cases restates
          · exact absurd constraint noConstraint
        · cases found

/-- The default of a time is only set to the current time. -/
theorem needsNow_of_columnChanges (valid : field.Valid) (dateTime : field.type = .dateTime)
    {table : String} {column : LiveColumn}
    (planned : action ∈ field.columnChanges table name column traits) :
    field.needsNow = true := by
  have short := valid.isText_eq_false (by simp [dateTime])
  have alone := valid.reference_eq_none (by simp [dateTime])
  simp only [Field.columnChanges, short, alone, List.mem_append, List.mem_ite_nil_right,
    Option.isSome_none, Bool.false_and, Bool.false_eq_true, false_and, or_false] at planned
  rcases planned with ⟨string, -⟩ | ⟨found, -⟩
  · simp [dateTime] at string
  · simp only [Bool.and_eq_true, Bool.or_eq_true] at found
    rcases found.2 with ⟨needs, -⟩ | ⟨⟨updatedAt, -⟩, -⟩
    · exact needs
    · exact Field.needsNow_of_updatedAt valid updatedAt

/-- The default of a column that is stated anew is not a quotation. -/
theorem unquoted_of_columnChanges (valid : field.Valid) {table : String} {column : LiveColumn}
    (planned : action ∈ field.columnChanges table name column traits)
    (restates : action ≠ .setDefault table name ∨ field.type = .dateTime)
    (text : String) : field.serverDefault traits ≠ some (.literal text) := by
  rcases field.columnChanges_cases valid table name column with
    none | ⟨target, one, kind⟩ | ⟨one, -⟩
  · rw [none] at planned
    cases planned
  · rcases kind with large | refers
    · have notId := valid.isId_eq_false (by simp [valid.textString large])
      simp [Field.serverDefault, notId, valid.textString large, large]
    · unfold Field.serverDefault
      split
      · simp
      · simp [valid.referenceInt refers]
  · have sets : action = .setDefault table name := by rwa [one, List.mem_singleton] at planned
    have dateTime := restates.resolve_left (not_not_intro sets)
    rw [Field.serverDefault_now valid (needsNow_of_columnChanges valid dateTime planned)]
    split <;> simp

/-- A default that means something passes the check of its field. -/
theorem checkDefault_of_means {value onUpdate : Option String}
    (means : ColumnDefault.Means (field.serverDefault traits) value onUpdate) :
    field.checkDefault = .ok () := by
  unfold Field.checkDefault
  split
  · next text notId int default =>
    have number : field.serverDefault traits = some (.number text) := by
      simp [Field.serverDefault, notId, int, default]
    rw [number] at means
    cases means with
    | number read =>
        rw [read]
        rfl
  · rfl

/-- A change that states a column anew checks the default and writes the definition. -/
theorem statements_restated (valid : schema.Valid) (member : entity ∈ schema.entities)
    (declared : (name, field) ∈ entity.fields) {column : LiveColumn}
    (planned : action ∈ field.columnChanges entity.tableName name column traits)
    (restates : action ≠ .setDefault entity.tableName name ∨ field.type = .dateTime) :
    ∃ renames, action.statements schema .mysql = do
      field.checkDefault
      return [← Dialect.mysql.restateColumn renames entity.tableName
        (DdlAction.restated field name Dialect.mysql.traits)] := by
  have found := valid.fieldOf_tableName member declared
  have fieldValid := (valid.entities entity member).fields name field declared
  rcases field.columnChanges_cases fieldValid entity.tableName name column with
    none | ⟨target, one, -⟩ | ⟨one, -⟩
  · rw [none] at planned
    cases planned
  · rw [one, List.mem_singleton] at planned
    subst planned
    refine ⟨(DdlAction.restated field name Dialect.mysql.traits).type == .timestamp, ?_⟩
    simp only [DdlAction.statements, found, Except.ok_bind]
  · have sets : action = .setDefault entity.tableName name := by
      rwa [one, List.mem_singleton] at planned
    have dateTime := restates.resolve_left (not_not_intro sets)
    have notId := fieldValid.isId_eq_false (by simp [dateTime])
    have timestamp : (DdlAction.restated field name Dialect.mysql.traits).type = .timestamp := by
      rw [DdlAction.restated]
      simp [Field.column_type, Field.columnType, notId, dateTime]
    have checked : field.checkDefault = .ok () := by
      simp [Field.checkDefault, notId, dateTime]
    refine ⟨(DdlAction.restated field name Dialect.mysql.traits).fallback.isSome, ?_⟩
    simp only [sets, DdlAction.statements, found, checked, timestamp, Except.ok_bind]

/-- The creation of a table holds the definition of each column. -/
theorem definition_of_createTable (valid : schema.Valid) (member : entity ∈ schema.entities)
    (declared : (name, field) ∈ entity.fields) {dialect : Dialect} {definition : String}
    (defined : dialect.columnDefinition (field.column name dialect.traits) = .ok definition)
    {statements : List String}
    (created : (DdlAction.createTable entity.tableName).statements schema dialect =
      .ok statements) :
    ∃ items, statements = ["CREATE TABLE " ++ dialect.name entity.tableName ++ " ( " ++
      Text.joinWith ", " items ++ " )"] ∧ definition ∈ items := by
  rw [DdlAction.statements, valid.entityOf_tableName member, Except.ok_bind] at created
  obtain ⟨text, written, same⟩ := Except.bind_eq_ok.mp created
  cases same
  unfold Dialect.createTable at written
  obtain ⟨columns, columnsWritten, rest⟩ := Except.bind_eq_ok.mp written
  obtain ⟨uniques, -, rest⟩ := Except.bind_eq_ok.mp rest
  obtain ⟨foreignKeys, -, same⟩ := Except.bind_eq_ok.mp rest
  cases same
  refine ⟨_, rfl, ?_⟩
  have inTable : field.column name dialect.traits ∈
      (entity.table schema dialect.traits).columns :=
    List.mem_map.mpr ⟨(name, field), declared, rfl⟩
  have inColumns : dialect.columnDefinition (field.column name dialect.traits) ∈
      columns.map .ok := by
    rw [← Except.mapM_eq_ok.mp columnsWritten]
    exact List.mem_map_of_mem inTable
  obtain ⟨other, inside, same⟩ := List.mem_map.mp inColumns
  rw [defined] at same
  cases same
  simp [inside]

/-- A change states a column anew as `altered`, where its table is created with `created`. -/
structure Restatement (schema : Schema) (entity : Entity) (name : String) (field : Field)
    (action : DdlAction) (created altered : String) : Prop where
  definition : Dialect.mysql.columnDefinition (field.column name Dialect.mysql.traits) =
    .ok (Dialect.mysql.name name ++ " " ++ created)
  creation : ∀ statements,
    (DdlAction.createTable entity.tableName).statements schema .mysql = .ok statements →
      ∃ items, statements = ["CREATE TABLE " ++ Dialect.mysql.name entity.tableName ++ " ( " ++
          Text.joinWith ", " items ++ " )"] ∧
        Dialect.mysql.name name ++ " " ++ created ∈ items
  alteration : ∃ renames, action.statements schema .mysql =
    .ok [Dialect.mysql.alterTable entity.tableName ++
      restateVerb renames (Dialect.mysql.name name) ++ " " ++ altered]

/-- A default that means something is stated anew with the same meaning. -/
theorem exists_restatement (valid : schema.Valid) (member : entity ∈ schema.entities)
    (declared : (name, field) ∈ entity.fields) {renames : Bool}
    (statements : action.statements schema .mysql = do
      field.checkDefault
      return [← Dialect.mysql.restateColumn renames entity.tableName
        (DdlAction.restated field name Dialect.mysql.traits)])
    {value onUpdate : Option String}
    (means : ColumnDefault.Means (field.serverDefault Dialect.mysql.traits) value onUpdate) :
    ∃ created altered terms, Restatement schema entity name field action created altered ∧
      ColumnTerms.ofText? created = some terms ∧
      ColumnTerms.ofText? altered =
        some { terms with nullable := field.isOptional, counted := false } ∧
      (ColumnTerms.ofText? altered = ColumnTerms.ofText? created ↔ field.isId = false) := by
  have createdMeans : ColumnDefault.Means (field.column name Dialect.mysql.traits).fallback
      value onUpdate := by
    rwa [Field.column_fallback]
  have restatedMeans : ColumnDefault.Means
      (DdlAction.restated field name Dialect.mysql.traits).fallback value onUpdate := by
    rwa [Dialect.restated_fallback]
  obtain ⟨created, definition, createdRead⟩ := columnDefinition_terms createdMeans
  obtain ⟨altered, alteration, alteredRead⟩ :=
    restateColumn_terms restatedMeans renames entity.tableName
  rw [field.column_name] at definition
  have sameName : (DdlAction.restated field name Dialect.mysql.traits).name = name :=
    field.column_name name _
  rw [sameName] at alteration
  refine ⟨created, altered, _, ⟨definition, ?_, renames, ?_⟩, createdRead, alteredRead, ?_⟩
  · exact fun _ => definition_of_createTable valid member declared definition
  · rw [statements, checkDefault_of_means means, alteration]
    rfl
  · rw [createdRead, alteredRead]
    cases key : field.isId <;> simp [Field.column, DdlAction.restated, key]

/-- A default that cannot be read is neither created nor stated anew. -/
theorem columnDefinition_unread {number : String} {cause : Failure}
    (kept : field.serverDefault Dialect.mysql.traits = some (.number number))
    (unread : readDefaultNumber number = .error cause) :
    field.checkDefault = .error cause ∧
      Dialect.mysql.columnDefinition (field.column name Dialect.mysql.traits) =
        .error cause := by
  obtain ⟨notId, int, written⟩ := Field.of_serverDefault_number kept
  constructor
  · simp only [Field.checkDefault, notId, int, written, unread]
    rfl
  · simp only [Dialect.columnDefinition, Field.column_fallback, kept, Dialect.defaultClause,
      Dialect.defaultText, unread]
    rfl

theorem restates_cases (distinct : entity.fields.keys.Nodup)
    (declared : (name, field) ∈ entity.fields)
    (restates : action.restatedColumn? entity = some name) :
    action ≠ .setDefault entity.tableName name ∨ field.type = .dateTime := by
  by_cases dateTime : field.type = .dateTime
  · exact .inr dateTime
  · left
    rintro rfl
    have found : entity.fields.get? name = some field := by
      rw [Record.get?, find?_eq_some_of_nodup Prod.fst distinct declared]
      rfl
    simp [DdlAction.restatedColumn?, found, dateTime] at restates

/-- Every change that alters a type or sets the default of a time states its column anew.  It
has the type, the default and the update of the definition that the table is created with, and
is the same in all unless the column is the key: then it leaves out that the column counts up.
Both fail alike if the default of an integer cannot be read. -/
theorem planEntity_restates {env : Record String} {text : String} {parsed : Dsl.Parsed}
    (accepted : Dsl.parse env text = .ok parsed) (member : entity ∈ parsed.schema.entities)
    (planned : action ∈ (planEntity entity parsed.schema live Dialect.mysql.traits).actions)
    (restates : action.restatedColumn? entity = some name) :
    ∃ field, (name, field) ∈ entity.fields ∧
      ((∃ cause, field.checkDefault = .error cause ∧
          Dialect.mysql.columnDefinition (field.column name Dialect.mysql.traits) =
            .error cause ∧
          action.statements parsed.schema .mysql = .error cause) ∨
        ∃ created altered terms,
          Restatement parsed.schema entity name field action created altered ∧
          ColumnTerms.ofText? created = some terms ∧
          ColumnTerms.ofText? altered =
            some { terms with nullable := field.isOptional, counted := false } ∧
          (ColumnTerms.ofText? altered = ColumnTerms.ofText? created ↔ field.isId = false)) := by
  have valid := Dsl.parse_valid accepted
  have entityValid := valid.entities entity member
  obtain ⟨field, column, declared, change⟩ :=
    columnChanges_of_planned entityValid planned restates
  have fieldValid := entityValid.fields name field declared
  have kind := restates_cases entityValid.distinct declared restates
  obtain ⟨renames, statements⟩ := statements_restated valid member declared change kind
  refine ⟨field, declared, ?_⟩
  rcases ColumnDefault.means_or_error (unquoted_of_columnChanges fieldValid change kind) with
    ⟨value, onUpdate, means⟩ | ⟨number, cause, kept, unread⟩
  · exact .inr (exists_restatement valid member declared statements means)
  · left
    obtain ⟨failed, undefined⟩ := columnDefinition_unread kept unread
    refine ⟨cause, failed, undefined, ?_⟩
    rw [statements, failed]
    rfl

/-- The key of a table of profiles is made unsigned, and counts up no more. -/
theorem planEntity_restates_profiles :
    let text := "datasource db \x7b\nprovider = \"mysql\"\n" ++
      "url = \"mysql://u:p@h/d\"\n\x7d\n" ++
      "model User \x7b\nid Int @id\n\x7d\n" ++
      "model Profile \x7b\nid Int @id @references(User.id)\n\x7d\n"
    let key : Field := { type := .int, isId := true, reference := some ⟨"User", "id"⟩ }
    let user : Entity := ⟨"User", [("id", { type := .int, isId := true })]⟩
    let profile : Entity := ⟨"Profile", [("id", key)]⟩
    let schema : Schema :=
      { datasource := { provider := .mysql, url := "mysql://u:p@h/d" }
        entities := [user, profile] }
    let live : TableState :=
      { name := "profiles"
        present := true
        columns := [("id", { name := "id", type := "int", extra := "auto_increment" })] }
    let action : DdlAction := .alterType "profiles" "id" .unsigned
    Dsl.parse [] text = .ok ⟨schema, []⟩ ∧
      action ∈ (planEntity profile schema live Dialect.mysql.traits).actions ∧
      ∃ created altered, Restatement schema profile "id" key action created altered ∧
        ColumnTerms.ofText? altered ≠ ColumnTerms.ofText? created := by
  intro text key user profile schema live action
  have accepted : Dsl.parse [] text = .ok ⟨schema, []⟩ := by decide +kernel
  have planned : action ∈ (planEntity profile schema live Dialect.mysql.traits).actions := by
    decide +kernel
  refine ⟨accepted, planned, ?_⟩
  obtain ⟨field, declared, outcome⟩ := planEntity_restates accepted (by decide) planned rfl
  obtain rfl : field = key := (Prod.mk.inj (List.mem_singleton.mp declared)).2
  rcases outcome with ⟨cause, failed, -⟩ | ⟨created, altered, -, restated, -, -, same⟩
  · cases failed
  · refine ⟨created, altered, restated, fun unchanged => ?_⟩
    cases same.mp unchanged

end Plan

end SchemaStore
