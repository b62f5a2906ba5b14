import SchemaStore.Proofs.Dsl.Body
import SchemaStore.Proofs.Dsl.Edit
import SchemaStore.Proofs.Dsl.RoundTrip
import SchemaStore.Proofs.Dsl.Tokenization

/-!
# Quoted defaults

The argument of an attribute ends where its parentheses close, in a quotation as
anywhere else.  So a default between quotation marks is read as it is written
exactly when its parentheses are properly nested, at most one pair in the other:
else the attribute ends inside of the quotation, or before its argument, and what
is left of the quotation is read as further attributes.
-/

namespace SchemaStore.Dsl

/-- The line of a text field with a default between quotation marks. -/
def quotedDefaultLine (name value : String) : List Char :=
  name.toList ++ " String ".toList ++ attributeToken "default" (quotedText value)

section Argument

/-- An argument that closes inside of a quotation holds its opening mark and no other. -/
theorem quotation_closes {value : String} (unquoted : doubleQuote ∉ value.toList)
    {within left : List Char}
    (same : within ++ ')' :: left = quotedText value ++ [')']) :
    within = quotedText value ∨ doubleQuote ∈ within ∧ within.count doubleQuote = 1 := by
  cases within with
  | nil => cases same
  | cons c start =>
      have parts : c = doubleQuote ∧ start ++ ')' :: left = value.toList ++ [doubleQuote, ')'] := by
        simpa [quotedText] using same
      obtain ⟨rfl, rest⟩ := parts
      rcases List.append_eq_append_iff.mp rest with ⟨others, inValue, -⟩ | ⟨others, rfl, final⟩
      · right
        have none : doubleQuote ∉ start := fun member =>
          unquoted (by rw [inValue]; exact List.mem_append_left _ member)
        exact ⟨List.mem_cons_self, by simp [List.count_eq_zero_of_not_mem none]⟩
      · left
        cases others with
        | nil => cases final
        | cons mark more =>
            obtain ⟨rfl, closing⟩ := List.cons.inj final
            cases more with
            | nil => rfl
            | cons other more => cases more <;> cases closing

/-- A single quotation mark in a text is not one of two that stand around it. -/
theorem mem_unquote_of_count {cs : List Char} (member : doubleQuote ∈ cs)
    (single : cs.count doubleQuote = 1) : doubleQuote ∈ unquote cs := by
  unfold unquote
  split
  · next quote second rest =>
    split
    · next around =>
      have ends : (second :: rest).dropLast ++ [quote] = second :: rest :=
        List.dropLast_append_getLast? quote around.2
      have inside : doubleQuote ∈ quote :: ((second :: rest).dropLast ++ [quote]) := by
        rwa [ends]
      have once : (quote :: ((second :: rest).dropLast ++ [quote])).count doubleQuote = 1 := by
        rwa [ends]
      by_cases double : quote = doubleQuote
      · simp [double] at once
      · simpa [Ne.symm double] using inside
    · exact member
  · exact member

end Argument

section Length

theorem unquote_length_le (cs : List Char) : (unquote cs).length ≤ cs.length := by
  unfold unquote
  split
  · split
    · next rest _ =>
      simp only [List.length_dropLast, List.length_cons]
      omega
    · exact Nat.le_refl _
  · exact Nat.le_refl _

theorem AttributeForm.length_lt {token name : List Char} {argument : Option (List Char)}
    (form : AttributeForm token name argument) :
    name.length + (argument.getD []).length < token.length := by
  cases form with
  | plain => simp
  | applied =>
      simp only [Option.getD_some, List.length_cons, List.length_append]
      omega

/-- The token of a default holds the name of the attribute besides. -/
theorem readAttribute_default_length {type : FieldType} {token : List Char} {value : String}
    (read : readAttribute type token = .ok (.default value)) :
    value.toList.length + 8 ≤ token.length := by
  cases readAttribute_eq_ok_iff.mp read with
  | @byName _ name argument _ form means =>
      obtain ⟨named, body, -, -⟩ := means
      have nameLength : name.length = 7 := by
        rw [← String.toList_ofList (l := name), named]
        rfl
      have shorter := form.length_lt
      have bodyLength := (Text.trim_sublist (argument.getD [])).length_le
      have textLength := unquote_length_le (Text.trim (argument.getD []))
      rw [body] at textLength
      omega

theorem length_le_of_mem_tokens {cs token : List Char} (member : token ∈ tokens cs) :
    token.length ≤ cs.length :=
  (tokenizes_tokens cs).length_le member

theorem Attribute.apply_default_ne {said : Attribute} {field : Field} {value : String}
    (other : field.defaultText ≠ some value) (differs : said ≠ .default value) :
    (said.apply field).defaultText ≠ some value := by
  cases said with
  | «default» text =>
      rintro ⟨⟩
      exact differs rfl
  | _ => exact other

/-- Tokens that are too short for a default do not give it. -/
theorem readAttributes_default_ne {field declared : Field} {attributes : List (List Char)}
    {value : String} (read : readAttributes field attributes = .ok declared)
    (other : field.defaultText ≠ some value)
    (short : ∀ token ∈ attributes, token.length < value.toList.length + 8) :
    declared.defaultText ≠ some value := by
  induction attributes generalizing field with
  | nil =>
      cases read
      exact other
  | cons token rest induction =>
      rw [readAttributes] at read
      obtain ⟨said, tokenRead, others⟩ := Except.bind_eq_ok.mp read
      obtain ⟨tokenShort, restShort⟩ := List.forall_mem_cons.mp short
      refine induction others (Attribute.apply_default_ne other ?_) restShort
      rintro rfl
      exact absurd (readAttribute_default_length tokenRead) (Nat.not_le.mpr tokenShort)

end Length

section Line

variable {name value : String}

theorem tokens_quotedDefaultLine (named : isIdentifier name.toList = true) :
    tokens (quotedDefaultLine name value) =
      name.toList :: "String".toList :: tokens (attributeToken "default" (quotedText value)) := by
  have line : quotedDefaultLine name value = name.toList ++
      ' ' :: ("String".toList ++ ' ' :: attributeToken "default" (quotedText value)) := by
    simp [quotedDefaultLine]
  have type : Solid "String".toList := (lineToken_typeToken { type := .string }).solid
  have stops (cs : List Char) : ∀ c, (' ' :: cs).head? = some c → c = ' ' := by
    rintro c ⟨⟩
    rfl
  rw [line, (lineToken_identifier named).solid.tokens_append (stops _), tokens_cons_blank,
    type.tokens_append (stops _), tokens_cons_blank]

/-- The field of the line has the attributes that are read after its type. -/
theorem readField_quotedDefaultLine (named : isIdentifier name.toList = true)
    {entry : String × Field} (read : readField (quotedDefaultLine name value) = .ok entry) :
    entry.1 = name ∧ readAttributes { type := .string }
      (tokens (attributeToken "default" (quotedText value))) = .ok entry.2 := by
  have split : splitType "String".toList = ("String".toList, false) := rfl
  have label : FieldType.ofLabel? "String" = some .string := rfl
  rw [readField, tokens_quotedDefaultLine named] at read
  simp only [named, if_true, split, String.ofList_toList, label] at read
  obtain ⟨field, attributesRead, checked⟩ := Except.bind_eq_ok.mp read
  split at checked
  · cases checked
    exact ⟨rfl, attributesRead⟩
  · cases checked

/-- A properly nested quotation is one token, and gives the default alone. -/
theorem readAttributes_nested (quotable : isQuotable value = true)
    (notCounting : value ≠ "autoincrement()") (nested : isNested false value.toList = true) :
    readAttributes { type := .string } (tokens (attributeToken "default" (quotedText value))) =
      .ok { type := .string, defaultText := some value } := by
  have printable : PrintableDefault .string value := ⟨quotable, nested, notCounting, nofun⟩
  have solid : Solid (attributeToken "default" (quotedText value)) :=
    solid_attributeToken rfl ((isNested_quotedText value).trans nested)
  have single : tokens (attributeToken "default" (quotedText value)) =
      [attributeToken "default" (quotedText value)] := by
    calc
      tokens (attributeToken "default" (quotedText value)) =
          tokens (attributeToken "default" (quotedText value) ++ []) := by rw [List.append_nil]
      _ = attributeToken "default" (quotedText value) :: tokens [] := solid.tokens_append nofun
      _ = [attributeToken "default" (quotedText value)] := by rw [tokens_of_all_blank rfl]
  rw [single, readAttributes, readAttribute_default printable]
  rfl

/-- An argument that ends inside of the quotation is read with the opening mark. -/
theorem readAttribute_default_ne (unquoted : doubleQuote ∉ value.toList) {type : FieldType}
    {argument : List Char} (member : doubleQuote ∈ argument)
    (single : argument.count doubleQuote = 1) :
    readAttribute type (attributeToken "default" argument) ≠ .ok (.default value) := by
  intro read
  have inTrimmed : doubleQuote ∈ Text.trim argument := Text.mem_trimWhile member rfl
  have once : (Text.trim argument).count doubleQuote = 1 := by
    have atMost := (Text.trim_sublist argument).count_le doubleQuote
    have atLeast := List.count_pos_iff.mpr inTrimmed
    omega
  have kept := mem_unquote_of_count inTrimmed once
  rw [readAttribute, if_neg (attributeToken_ne_optional _ _),
    splitAttribute?_attributeToken rfl] at read
  simp only [Option.getD_some, String.ofList_toList] at read
  split at read
  · cases read
  · split at read
    · cases read
    · cases read
      rw [String.toList_ofList] at unquoted
      exact unquoted kept

/-- The first token of the attribute ends where its parentheses close. -/
theorem tokens_default (value : String) :
    let argument := takeArgument ('(' :: (quotedText value ++ [')']))
    tokens (attributeToken "default" (quotedText value)) =
      ('@' :: "default".toList ++ argument.1) :: tokens argument.2 := by
  intro argument
  have text : attributeToken "default" (quotedText value) =
      '@' :: ("default".toList ++ '(' :: (quotedText value ++ [')'])) := by
    simp [attributeToken]
  have stops : ∀ c, ('(' :: (quotedText value ++ [')'])).head? = some c →
      isNameChar c = false := by
    rintro c ⟨⟩
    rfl
  have shown : (attributeToken "default" (quotedText value)).dropWhile Text.isBlank =
      '@' :: ("default".toList ++ '(' :: (quotedText value ++ [')'])) := by
    rw [text]
    rfl
  rw [tokens_of_dropWhile shown, takeToken_attribute rfl stops]

/-- A quotation that is not properly nested never gives its text as the default. -/
theorem readAttributes_not_nested (unquoted : doubleQuote ∉ value.toList)
    (crossed : isNested false value.toList = false) {declared : Field}
    (read : readAttributes { type := .string }
      (tokens (attributeToken "default" (quotedText value))) = .ok declared) :
    declared.defaultText ≠ some value := by
  have nonempty : 0 < value.toList.length := by
    apply List.length_pos_iff.mpr
    intro empty
    rw [empty] at crossed
    cases crossed
  have quotedLength : (quotedText value).length = value.toList.length + 2 := by
    simp [quotedText]
  rw [tokens_default, takeArgument] at read
  cases closed : closeParen false (quotedText value ++ [')']) with
  | none =>
      -- The attribute has no argument, and no token of the quotation is long enough.
      simp only [closed, List.append_nil] at read
      refine readAttributes_default_ne read (by simp) ?_
      rw [List.forall_mem_cons]
      constructor
      · have nameLength : ('@' :: "default".toList).length = 8 := rfl
        omega
      · intro token member
        have short := length_le_of_mem_tokens member
        simp only [List.length_cons, List.length_append, quotedLength, List.length_nil] at short
        omega
  | some parts =>
      -- The argument ends too early, and no token after it is long enough.
      obtain ⟨taken, left⟩ := parts
      obtain ⟨within, rfl, nested⟩ := isNested_of_closeParen closed
      have whole : within ++ ')' :: left = quotedText value ++ [')'] := by
        simpa using closeParen_append closed
      have first : '@' :: "default".toList ++ '(' :: (within ++ [')']) =
          attributeToken "default" within := by
        simp [attributeToken]
      simp only [closed, first] at read
      rw [readAttributes] at read
      obtain ⟨said, tokenRead, others⟩ := Except.bind_eq_ok.mp read
      refine readAttributes_default_ne others (Attribute.apply_default_ne (by simp) ?_) ?_
      · rintro rfl
        rcases quotation_closes unquoted whole with rfl | ⟨member, single⟩
        · rw [isNested_quotedText, crossed] at nested
          cases nested
        · exact readAttribute_default_ne unquoted member single tokenRead
      · intro token member
        have short := length_le_of_mem_tokens member
        have lengths := congrArg List.length whole
        simp only [List.length_append, List.length_cons, quotedLength, List.length_nil] at lengths
        omega

theorem not_mem_of_isQuotable (quotable : isQuotable value = true) :
    doubleQuote ∉ value.toList := by
  intro member
  have allowed := List.all_eq_true.mp quotable _ member
  cases allowed

/-- The line is significant as it is, with any quotable default. -/
theorem significant_quotedDefaultLine (named : isIdentifier name.toList = true)
    (quotable : isQuotable value = true) : Significant (quotedDefaultLine name value) := by
  have nameToken := lineToken_identifier named
  obtain ⟨c, rest, same, visible⟩ := nameToken.solid.starts
  have line : quotedDefaultLine name value = name.toList ++
      ([' '] ++ ("String".toList ++ ([' '] ++ ("@default(".toList ++
        (quotedText value ++ [')']))))) := by
    simp [quotedDefaultLine, attributeToken]
  have closing : Plain [')'] := .of_ordinary (List.all_eq_true.mp rfl)
  have opening : Plain "@default(".toList := .of_ordinary (List.all_eq_true.mp rfl)
  have token := opening.append ((Plain.quotedText quotable).append closing)
  have type : Plain "String".toList := .of_ordinary (List.all_eq_true.mp rfl)
  have plain : Plain (quotedDefaultLine name value) := by
    rw [line]
    exact nameToken.plain.append
      (Plain.blank.append (type.append (Plain.blank.append token)))
  apply plain.significant
  · exact ⟨c, _, by rw [line, same, List.cons_append], visible⟩
  · intro other last
    have ends : quotedDefaultLine name value =
        (name.toList ++ " String @default(".toList ++ quotedText value) ++ [')'] := by
      simp [quotedDefaultLine, attributeToken]
    rw [ends, List.getLast?_concat] at last
    cases last
    rfl

/-- The line opens no block, and gives no key of a datasource. -/
theorem takeIdentifier_quotedDefaultLine (named : isIdentifier name.toList = true) :
    takeIdentifier (quotedDefaultLine name value) =
      (name.toList, " String ".toList ++ attributeToken "default" (quotedText value)) := by
  rw [quotedDefaultLine, List.append_assoc]
  apply takeIdentifier_append named
  rintro c ⟨⟩
  rfl

theorem readHeader?_quotedDefaultLine (named : isIdentifier name.toList = true) :
    readHeader? (quotedDefaultLine name value) = none := by
  obtain ⟨c, rest, same, -, -⟩ := isIdentifier_cons named
  have nonempty : name.toList.isEmpty = false := by simp [same]
  have type : takeIdentifier ((" String ".toList ++
      attributeToken "default" (quotedText value)).dropWhile Text.isBlank) =
        ("String".toList, ' ' :: attributeToken "default" (quotedText value)) := rfl
  have notOpening : (' ' :: attributeToken "default" (quotedText value)).dropWhile Text.isBlank ≠
      ['\x7b'] := by
    intro opening
    cases opening
  rw [readHeader?, takeIdentifier_quotedDefaultLine named]
  simp only [type, nonempty, if_neg notOpening]
  rfl

theorem readAssignment?_quotedDefaultLine (named : isIdentifier name.toList = true) :
    readAssignment? (quotedDefaultLine name value) = none := by
  rw [readAssignment?, takeIdentifier_quotedDefaultLine named]
  rfl

/-- A line with a quoted default, in a text that is read, declares a field with this default and
nothing else exactly when the parentheses of the quotation are properly nested, at most one pair
in the other.  Else the field has not even this default. -/
theorem parse_quotedDefault {env : Record String} {text : String} {parsed : Parsed}
    (accepted : parse env text = .ok parsed) (named : isIdentifier name.toList = true)
    (quotable : isQuotable value = true) (notCounting : value ≠ "autoincrement()")
    {before after : List Char} (blankBefore : ∀ c ∈ before, Text.isBlank c = true)
    (blankAfter : ∀ c ∈ after, Text.isBlank c = true)
    (written : before ++ quotedDefaultLine name value ++ after ∈ Text.splitLines text.toList) :
    ∃ entity ∈ parsed.schema.entities, ∃ field, (name, field) ∈ entity.fields ∧
      readField (quotedDefaultLine name value) = .ok (name, field) ∧
      (field = { type := .string, defaultText := some value } ↔
        isNested false value.toList = true) ∧
      (field.defaultText = some value ↔ isNested false value.toList = true) := by
  have significant := significant_quotedDefaultLine named quotable
  have shown : significantText (before ++ quotedDefaultLine name value ++ after) =
      quotedDefaultLine name value :=
    (significantText_spaced _ blankBefore blankAfter).trans significant.kept
  obtain ⟨number, member⟩ := exists_mem_significantFrom 1 written
    (by rw [shown]; exact significant.nonempty)
  rw [shown] at member
  rcases parse_mem accepted _ member with ⟨header, opens⟩ | closes | ⟨assignment, assigns⟩ |
    ⟨entity, inSchema, entry, declared, read⟩
  · rw [readHeader?_quotedDefaultLine named] at opens
    cases opens
  · have long := congrArg List.length closes
    simp only [quotedDefaultLine, attributeToken, List.length_append, List.length_cons] at long
    omega
  · rw [readAssignment?_quotedDefaultLine named] at assigns
    cases assigns
  · obtain ⟨fieldName, field⟩ := entry
    obtain ⟨rfl, attributesRead⟩ := readField_quotedDefaultLine named read
    refine ⟨entity, inSchema, field, declared, read, ?_⟩
    cases nested : isNested false value.toList with
    | true =>
        rw [readAttributes_nested quotable notCounting nested] at attributesRead
        cases attributesRead
        simp
    | false =>
        have unquoted : doubleQuote ∉ value.toList := not_mem_of_isQuotable quotable
        have lost := readAttributes_not_nested unquoted nested attributesRead
        have different : field ≠ { type := .string, defaultText := some value } := by
          rintro rfl
          exact lost rfl
        simp [lost, different]

/-- A default that closes the parenthesis of its attribute and opens another one makes the field
unique, and leaves it with a quotation mark as the default. -/
theorem parse_quotedDefault_users :
    let value := ") @unique @default("
    let text :=
      "datasource db \x7b\n  provider = \x22sqlite\x22\n  url = \x22file:dev.db\x22\n\x7d\n" ++
      "model User \x7b\n  id Int @id\n  name String @default(\x22" ++ value ++ "\x22)\n\x7d\n"
    ∃ parsed, parse [] text = .ok parsed ∧ ∃ entity ∈ parsed.schema.entities,
      ("name", { type := .string, isUnique := true, defaultText := some "\x22" }) ∈ entity.fields ∧
        isNested false value.toList = false := by
  intro value text
  let user : Entity :=
    { name := "User"
      fields :=
        [("id", { type := .int, isId := true }),
          ("name", { type := .string, isUnique := true, defaultText := some "\x22" })] }
  let schema : Schema :=
    { datasource := { provider := .sqlite, url := "file:dev.db" }, entities := [user] }
  have accepted : parse [] text = .ok ⟨schema, []⟩ := by decide +kernel
  have written : "  ".toList ++ quotedDefaultLine "name" value ++ [] ∈
      Text.splitLines text.toList := by decide +kernel
  obtain ⟨entity, inSchema, field, declared, read, -, -⟩ :=
    parse_quotedDefault accepted rfl (by decide) (by decide) (List.all_eq_true.mp rfl)
      (List.all_eq_true.mp rfl) written
  refine ⟨⟨schema, []⟩, accepted, entity, inSchema, ?_, by decide⟩
  have found : readField (quotedDefaultLine "name" value) =
      .ok ("name", { type := .string, isUnique := true, defaultText := some "\x22" }) := by
    decide +kernel
  rw [read] at found
  cases found
  exact declared

end Line

end SchemaStore.Dsl
