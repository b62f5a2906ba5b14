import SchemaStore.Proofs.Dsl.Line
import SchemaStore.Proofs.Schema.Valid

/-!
# Printed fields

Every printed attribute is read as itself, and the attributes of a field, applied
one after the other, give the field.  So the line of a field is read as this
field.
-/

namespace SchemaStore.Dsl

/-- An attribute that a line can hold. -/
def PrintableAttribute (type : FieldType) : Attribute → Prop
  | .default value => PrintableDefault type value
  | .references reference =>
      isIdentifier reference.entity.toList = true ∧ isIdentifier reference.field.toList = true
  | _ => True

section Reading

theorem splitAttribute?_attributeToken {name : String}
    (named : isIdentifier name.toList = true) (argument : List Char) :
    splitAttribute? (attributeToken name argument) = some (name.toList, some argument) := by
  have token : attributeToken name argument =
      '@' :: (name.toList ++ '(' :: (argument ++ [')'])) := by
    simp [attributeToken]
  have notNamed : ∀ c, ('(' :: (argument ++ [')'])).head? = some c → isNameChar c = false := by
    intro c first
    cases first
    rfl
  have inside := isNameChar_of_isIdentifier named
  obtain ⟨c, others, same, -, -⟩ := isIdentifier_cons named
  have nonempty : name.toList.isEmpty = false := by simp [same]
  rw [token, splitAttribute?, Text.takeWhile_append_stop inside notNamed,
    Text.dropWhile_append_stop inside notNamed]
  simp [nonempty]

theorem unquote_quotedText (text : String) : unquote (quotedText text) = text.toList := by
  have opens : isQuote doubleQuote = true := rfl
  unfold quotedText
  cases text.toList with
  | nil => rfl
  | cons c rest =>
      have inner : (c :: (rest ++ [doubleQuote])).dropLast = c :: rest := by
        rw [← List.cons_append, List.dropLast_concat]
      simp [unquote, opens, List.getLast?_cons, inner]

theorem trim_quotedText (text : String) : Text.trim (quotedText text) = quotedText text := by
  apply Text.trim_eq_self
  · intro c first
    cases first
    rfl
  · intro c last
    rw [quotedText, List.getLast?_concat] at last
    cases last
    rfl

theorem readReference?_printed {entity field : List Char}
    (entityNamed : isIdentifier entity = true) (fieldNamed : isIdentifier field = true) :
    readReference? (entity ++ '.' :: field) =
      some ⟨String.ofList entity, String.ofList field⟩ := by
  obtain ⟨c, rest, same, -, -⟩ := isIdentifier_cons entityNamed
  have nonempty : entity.isEmpty = false := by simp [same]
  have stops : ∀ c, ('.' :: field).head? = some c → isIdentifierChar c = false := by
    intro c first
    cases first
    rfl
  rw [readReference?, takeIdentifier_append entityNamed stops]
  simp [nonempty, fieldNamed]

theorem trim_reference {entity field : List Char}
    (entityNamed : isIdentifier entity = true) (fieldNamed : isIdentifier field = true) :
    Text.trim (entity ++ '.' :: field) = entity ++ '.' :: field := by
  have visible {word : List Char} (named : isIdentifier word = true) {c : Char}
      (member : c ∈ word) : Text.isBlank c = false :=
    isBlank_of_isOrdinary
      (isOrdinary_of_isIdentifierChar (isIdentifierChar_of_isIdentifier named member))
  apply Text.trim_eq_self
  · intro c first
    obtain ⟨start, rest, rfl, -, -⟩ := isIdentifier_cons entityNamed
    cases first
    exact visible entityNamed List.mem_cons_self
  · intro c last
    obtain ⟨start, rest, rfl, -, -⟩ := isIdentifier_cons fieldNamed
    have fieldLast : (start :: rest).getLast? = some c := by
      simpa [List.getLast?_append, List.getLast?_cons] using last
    exact visible fieldNamed (List.mem_of_getLast? fieldLast)

theorem attributeToken_ne_optional (name : String) (argument : List Char) :
    attributeToken name argument ≠ ['?'] := by
  simp [attributeToken]

theorem readAttribute_default {type : FieldType} {value : String}
    (printable : PrintableDefault type value) :
    readAttribute type (attributeToken "default" (quotedText value)) = .ok (.default value) := by
  have different : value.toList ≠ "autoincrement()".toList := by
    intro same
    exact printable.notAutoIncrement (String.toList_inj.mp same)
  have allowed : ¬(type = .int ∧ (!isIntegerText value.toList) = true) := by
    rintro ⟨int, malformed⟩
    rw [printable.integer int] at malformed
    cases malformed
  rw [readAttribute, if_neg (attributeToken_ne_optional _ _),
    splitAttribute?_attributeToken rfl]
  simp only [Option.getD_some, trim_quotedText, unquote_quotedText, String.ofList_toList]
  rw [if_neg different, if_neg allowed]

theorem readAttribute_autoIncrement (type : FieldType) :
    readAttribute type (attributeToken "default" "autoincrement()".toList) =
      .ok .autoIncrement := by
  have trimmed : Text.trim "autoincrement()".toList = "autoincrement()".toList := by decide
  have unquoted : unquote "autoincrement()".toList = "autoincrement()".toList := by decide
  rw [readAttribute, if_neg (attributeToken_ne_optional _ _),
    splitAttribute?_attributeToken rfl]
  simp only [Option.getD_some, trimmed, unquoted, String.ofList_toList, if_true]

theorem readAttribute_references (type : FieldType) {reference : Reference}
    (entityNamed : isIdentifier reference.entity.toList = true)
    (fieldNamed : isIdentifier reference.field.toList = true) :
    readAttribute type (attributeToken "references"
        (reference.entity.toList ++ '.' :: reference.field.toList)) =
      .ok (.references reference) := by
  rw [readAttribute, if_neg (attributeToken_ne_optional _ _),
    splitAttribute?_attributeToken rfl]
  simp only [Option.getD_some, trim_reference entityNamed fieldNamed,
    readReference?_printed entityNamed fieldNamed, String.ofList_toList]

theorem readAttribute_onDelete (type : FieldType) (policy : DeletePolicy) :
    readAttribute type (attributeToken "onDelete" (policyWords policy)) =
      .ok (.onDelete policy) := by
  have trimmed : Text.trim (policyWords policy) = policyWords policy := by
    cases policy <;> decide
  have read : readPolicy? (policyWords policy) = some policy := by
    cases policy <;> decide +kernel
  rw [readAttribute, if_neg (attributeToken_ne_optional _ _),
    splitAttribute?_attributeToken rfl]
  simp only [Option.getD_some, trimmed, read, String.ofList_toList]

/-- Every printed attribute is read as itself. -/
theorem readAttribute_token {type : FieldType} {said : Attribute}
    (printable : PrintableAttribute type said) :
    readAttribute type said.token = .ok said := by
  cases said with
  | optional => rfl
  | id => rfl
  | unique => rfl
  | text => rfl
  | updatedAt => rfl
  | default value => exact readAttribute_default printable
  | autoIncrement => exact readAttribute_autoIncrement type
  | references reference => exact readAttribute_references type printable.1 printable.2
  | onDelete policy => exact readAttribute_onDelete type policy

theorem Attribute.apply_type (field : Field) (said : Attribute) :
    (said.apply field).type = field.type := by
  cases said <;> rfl

theorem readAttributes_tokens {field : Field} {attributes : List Attribute}
    (printable : ∀ said ∈ attributes, PrintableAttribute field.type said) :
    readAttributes field (attributes.map Attribute.token) =
      .ok (attributes.foldl Attribute.apply field) := by
  induction attributes generalizing field with
  | nil => rfl
  | cons said rest induction =>
      have read := readAttribute_token (printable said List.mem_cons_self)
      rw [List.map_cons, readAttributes, read, List.foldl_cons]
      apply induction
      intro other later
      rw [Attribute.apply_type]
      exact printable other (List.mem_cons_of_mem _ later)

/-- The attributes of a field, applied one after the other, give the field. -/
theorem foldl_attributesOf (field : Field) :
    (attributesOf field).foldl Attribute.apply
      { type := field.type, isOptional := field.isOptional } = field := by
  obtain ⟨type, isId, isUnique, isOptional, isText, isUpdatedAt, defaultText, reference,
    onDelete⟩ := field
  simp only [attributesOf, List.foldl_append]
  cases isId <;> cases isUnique <;> cases isText <;> cases isUpdatedAt <;>
    cases defaultText <;> cases reference <;> cases onDelete <;> rfl

theorem printableAttribute_of_mem {name : String} {field : Field}
    (printable : PrintableField name field) {said : Attribute}
    (member : said ∈ attributesOf field) : PrintableAttribute field.type said := by
  simp only [attributesOf, List.mem_append, List.mem_ite_nil_right, List.mem_singleton,
    Option.mem_toList, Option.map_eq_some_iff] at member
  rcases member with (((((⟨-, rfl⟩ | ⟨-, rfl⟩) | ⟨-, rfl⟩) | ⟨-, rfl⟩) |
    ⟨value, declared, rfl⟩) | ⟨reference, refers, rfl⟩) | ⟨policy, -, rfl⟩
  · trivial
  · trivial
  · trivial
  · trivial
  · exact printable.default value declared
  · exact printable.reference reference refers
  · trivial

theorem splitType_typeToken (field : Field) :
    splitType (typeToken field) = (field.type.label.toList, field.isOptional) := by
  unfold typeToken
  cases field.type <;> cases field.isOptional <;> rfl

theorem ofLabel?_label (type : FieldType) :
    FieldType.ofLabel? type.label = some type := by
  cases type <;> decide

end Reading

/-- A text that ends with a character that closes no line and opens no block. -/
def Closed (text : List Char) : Prop :=
  ∃ start c, text = start ++ [c] ∧ Text.isBlank c = false ∧ c ≠ '\x7b'

/-- A token that a line of a block can hold. -/
structure LineToken (token : List Char) : Prop where
  solid : Solid token
  plain : Plain token
  closed : Closed token

theorem Closed.append {text : List Char} (closed : Closed text) (before : List Char) :
    Closed (before ++ text) := by
  obtain ⟨start, c, rfl, visible, notOpening⟩ := closed
  exact ⟨before ++ start, c, (List.append_assoc ..).symm, visible, notOpening⟩

theorem closed_of_ordinary {text : List Char} (nonempty : text ≠ [])
    (ordinary : ∀ c ∈ text, isOrdinary c = true) : Closed text := by
  refine ⟨text.dropLast, text.getLast nonempty, (List.dropLast_concat_getLast nonempty).symm, ?_⟩
  have last := ordinary _ (List.getLast_mem nonempty)
  refine ⟨isBlank_of_isOrdinary last, ?_⟩
  intro opening
  rw [opening] at last
  cases last

theorem lineToken_word {c : Char} {rest : List Char}
    (ordinary : ∀ other ∈ c :: rest, isOrdinary other = true) (noAttribute : c ≠ '@') :
    LineToken (c :: rest) :=
  ⟨solid_word (fun other member => isBlank_of_isOrdinary (ordinary other member)) noAttribute,
    .of_ordinary ordinary, closed_of_ordinary (by simp) ordinary⟩

theorem isOrdinary_of_isIdentifier {word : List Char} (named : isIdentifier word = true) :
    ∀ c ∈ word, isOrdinary c = true := by
  intro c member
  exact isOrdinary_of_isIdentifierChar (isIdentifierChar_of_isIdentifier named member)

theorem lineToken_identifier {word : List Char} (named : isIdentifier word = true) :
    LineToken word := by
  have ordinary := isOrdinary_of_isIdentifier named
  obtain ⟨c, rest, rfl, starts, -⟩ := isIdentifier_cons named
  apply lineToken_word ordinary
  intro sign
  rw [sign] at starts
  cases starts

theorem isOrdinary_attribute {name : List Char} (named : isIdentifier name = true) :
    ∀ c ∈ '@' :: name, isOrdinary c = true := by
  intro c member
  rcases List.mem_cons.mp member with sign | inName
  · rw [sign]
    rfl
  · exact isOrdinary_of_isIdentifier named c inName

theorem lineToken_attribute {name : List Char} (named : isIdentifier name = true) :
    LineToken ('@' :: name) := by
  have ordinary := isOrdinary_attribute named
  exact ⟨solid_attribute named, .of_ordinary ordinary, closed_of_ordinary (by simp) ordinary⟩

theorem lineToken_attributeToken {name : String} (named : isIdentifier name.toList = true)
    {argument : List Char} (nested : isNested false argument = true) (plain : Plain argument) :
    LineToken (attributeToken name argument) := by
  have opening : Plain ['('] := .of_char rfl (by simp) rfl (by simp)
  have closing : Plain [')'] := .of_char rfl (by simp) rfl (by simp)
  have token : attributeToken name argument =
      ('@' :: name.toList ++ ['('] ++ argument) ++ [')'] := by
    simp [attributeToken]
  refine ⟨solid_attributeToken named nested, ?_, ?_⟩
  · rw [token]
    have head := (Plain.of_ordinary (isOrdinary_attribute named)).append opening
    exact (head.append plain).append closing
  · exact ⟨_, ')', token, rfl, by simp⟩

theorem isNested_concat {inner : Bool} (text : List Char) {c : Char} (notOpening : c ≠ '(')
    (notClosing : c ≠ ')') : isNested inner (text ++ [c]) = isNested inner text := by
  induction text generalizing inner with
  | nil => simp [isNested, notOpening, notClosing]
  | cons other rest induction => simp only [List.cons_append, isNested, induction]

theorem isNested_quotedText (text : String) :
    isNested false (quotedText text) = isNested false text.toList :=
  isNested_concat (doubleQuote :: text.toList) (by decide) (by decide)

theorem isNested_of_noParens {text : List Char} (noParens : ∀ c ∈ text, c ≠ '(' ∧ c ≠ ')') :
    isNested false text = true := by
  induction text with
  | nil => rfl
  | cons c rest induction =>
      obtain ⟨notOpening, notClosing⟩ := noParens c List.mem_cons_self
      rw [isNested, if_neg notOpening, if_neg notClosing]
      exact induction fun other later => noParens other (List.mem_cons_of_mem _ later)

theorem lineToken_references {entity field : List Char}
    (entityNamed : isIdentifier entity = true) (fieldNamed : isIdentifier field = true) :
    LineToken (attributeToken "references" (entity ++ '.' :: field)) := by
  have inside : ∀ c ∈ entity ++ '.' :: field, isIdentifierChar c = true ∨ c = '.' := by
    intro c member
    rcases List.mem_append.mp member with inEntity | later
    · exact .inl (isIdentifierChar_of_isIdentifier entityNamed inEntity)
    · rcases List.mem_cons.mp later with dot | inField
      · exact .inr dot
      · exact .inl (isIdentifierChar_of_isIdentifier fieldNamed inField)
  have ordinary : ∀ c ∈ entity ++ '.' :: field, isOrdinary c = true := by
    intro c member
    rcases inside c member with named | rfl
    · exact isOrdinary_of_isIdentifierChar named
    · decide
  have noParens : ∀ c ∈ entity ++ '.' :: field, c ≠ '(' ∧ c ≠ ')' := by
    intro c member
    rcases inside c member with named | rfl
    · constructor
      · rintro rfl
        cases named
      · rintro rfl
        cases named
    · decide
  exact lineToken_attributeToken rfl
    (isNested_of_noParens noParens) (.of_ordinary ordinary)

theorem lineToken_token {type : FieldType} {said : Attribute}
    (printable : PrintableAttribute type said) : LineToken said.token := by
  cases said with
  | optional => exact lineToken_word (List.all_eq_true.mp rfl) (by simp)
  | id => exact lineToken_attribute rfl
  | unique => exact lineToken_attribute rfl
  | text => exact lineToken_attribute rfl
  | updatedAt => exact lineToken_attribute rfl
  | default value =>
      exact lineToken_attributeToken rfl
        ((isNested_quotedText value).trans printable.nested) (.quotedText printable.quotable)
  | autoIncrement =>
      exact lineToken_attributeToken rfl rfl (.of_ordinary (List.all_eq_true.mp rfl))
  | references reference => exact lineToken_references printable.1 printable.2
  | onDelete policy =>
      have ordinary : (policyWords policy).all isOrdinary = true := by
        cases policy <;> rfl
      have nested : isNested false (policyWords policy) = true := by
        cases policy <;> rfl
      exact lineToken_attributeToken rfl nested (.of_ordinary (List.all_eq_true.mp ordinary))

theorem lineToken_typeToken (field : Field) : LineToken (typeToken field) := by
  unfold typeToken
  cases field.type <;> cases field.isOptional <;>
    exact lineToken_word (List.all_eq_true.mp rfl) (by decide)

theorem spaced_cons (text : List Char) (rest : List (List Char)) :
    spaced (text :: rest) = ' ' :: text ++ spaced rest := rfl

theorem plain_spaced {texts : List (List Char)} (plain : ∀ text ∈ texts, Plain text) :
    Plain (spaced texts) := by
  induction texts with
  | nil => exact .nil
  | cons text rest induction =>
      have first := Plain.blank.append (plain text List.mem_cons_self)
      exact first.append (induction fun other later => plain other (List.mem_cons_of_mem _ later))

theorem closed_spaced {text : List Char} {rest : List (List Char)}
    (closed : ∀ other ∈ text :: rest, Closed other) : Closed (spaced (text :: rest)) := by
  induction rest generalizing text with
  | nil =>
      rw [spaced_cons]
      simpa [spaced] using (closed text List.mem_cons_self).append [' ']
  | cons next others induction =>
      rw [spaced_cons]
      exact (induction fun other later => closed other (List.mem_cons_of_mem _ later)).append _

/-- The tokens that follow the name in the line of a field. -/
theorem lineToken_of_mem {name : String} {field : Field} (printable : PrintableField name field)
    {token : List Char}
    (member : token ∈ typeToken field :: (attributesOf field).map Attribute.token) :
    LineToken token := by
  rcases List.mem_cons.mp member with rfl | later
  · exact lineToken_typeToken field
  · obtain ⟨said, inField, rfl⟩ := List.mem_map.mp later
    exact lineToken_token (printableAttribute_of_mem printable inField)

theorem tokens_printField {name : String} {field : Field}
    (printable : PrintableField name field) :
    tokens (printField name field) =
      name.toList :: typeToken field :: (attributesOf field).map Attribute.token := by
  have nameToken := lineToken_identifier printable.name
  rw [printField, nameToken.solid.tokens_append fun c first => spaced_head _ first,
    tokens_spaced fun token member => (lineToken_of_mem printable member).solid]

/-- The line of a field is read as this field. -/
theorem readField_printField {name : String} {field : Field} (valid : field.Valid)
    (printable : PrintableField name field) :
    readField (printField name field) = .ok (name, field) := by
  have attributesRead :
      readAttributes { type := field.type, isOptional := field.isOptional }
        ((attributesOf field).map Attribute.token) = .ok field := by
    refine (readAttributes_tokens ?_).trans (congrArg Except.ok (foldl_attributesOf field))
    exact fun said member => printableAttribute_of_mem printable member
  have sound : field.defect? = none := Field.defect?_eq_none_iff.mpr valid
  rw [readField, tokens_printField printable]
  simp only [printable.name, if_true, splitType_typeToken, String.ofList_toList, ofLabel?_label]
  rw [attributesRead]
  simp only [bind, Except.bind, sound]

/-- A plain text that starts and ends visibly is a line of a body. -/
theorem bodyLine_of_plain {line : List Char} (plain : Plain line)
    (starts : ∃ c rest, line = c :: rest ∧ Text.isBlank c = false) (closed : Closed line) :
    BodyLine line := by
  obtain ⟨start, c, same, visible, notOpening⟩ := closed
  have last : line.getLast? = some c := by rw [same, List.getLast?_concat]
  refine ⟨plain.significant starts ?_, plain.inBlock, ?_⟩
  · intro other otherLast
    rw [last] at otherLast
    cases otherLast
    exact visible
  · rw [last]
    intro opening
    exact notOpening (Option.some.inj opening)

theorem bodyLine_printField {name : String} {field : Field}
    (printable : PrintableField name field) : BodyLine (printField name field) := by
  have nameToken := lineToken_identifier printable.name
  obtain ⟨c, rest, same, visible⟩ := nameToken.solid.starts
  apply bodyLine_of_plain
  · exact nameToken.plain.append
      (plain_spaced fun token member => (lineToken_of_mem printable member).plain)
  · exact ⟨c, _, by rw [printField, same, List.cons_append], visible⟩
  · exact (closed_spaced fun token member => (lineToken_of_mem printable member).closed).append _

end SchemaStore.Dsl
