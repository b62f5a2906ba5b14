import SchemaStore.Proofs.Dsl.Declaration

/-!
# Where the fields of a schema come from

Every field of a schema that was read from a text was read from a line of the text.
So its name is an identifier, the field that it refers to is named by one, and the
default of an integer is written in digits.
-/

namespace SchemaStore.Dsl

/-- What a line says about a field beyond the checks of the field. -/
structure FieldRead (name : String) (field : Field) : Prop where
  name : isIdentifier name.toList = true
  target : ∀ reference, field.reference = some reference →
    isIdentifier reference.field.toList = true
  integer : field.type = .int → ∀ text, field.defaultText = some text →
    isIntegerText text.toList = true

/-- An attribute keeps what is known about its field. -/
theorem FieldRead.apply {name : String} {field : Field} {token : List Char} {said : Attribute}
    (known : FieldRead name field) (form : said.Says field.type token) :
    FieldRead name (said.apply field) := by
  cases form with
  | optional => exact ⟨known.name, known.target, known.integer⟩
  | byName _ means =>
      cases said with
      | «default» text =>
          obtain ⟨-, -, -, integer⟩ := means
          refine ⟨known.name, known.target, ?_⟩
          rintro int _ ⟨⟩
          exact integer int
      | references reference =>
          obtain ⟨-, form⟩ := means
          refine ⟨known.name, ?_, known.integer⟩
          rintro _ ⟨⟩
          exact form.field
      | _ => exact ⟨known.name, known.target, known.integer⟩

theorem FieldRead.foldl {name : String} {field : Field} {attributes : List (List Char)}
    {said : List Attribute} (known : FieldRead name field)
    (forms : List.Forall₂ (Attribute.Says field.type) attributes said) :
    FieldRead name (said.foldl Attribute.apply field) := by
  induction said generalizing field attributes with
  | nil => exact known
  | cons first later induction =>
      cases forms with
      | cons here others => exact induction (known.apply here) (by rwa [Attribute.apply_type])

theorem FieldForm.read {line : List Char} {name : String} {field : Field}
    (form : FieldForm line name field) : FieldRead name field := by
  obtain ⟨named, ⟨type, isOptional, attributes, said, -, forms, rfl⟩, -⟩ := form
  have initial : FieldRead name { type, isOptional } := ⟨named, by simp, by simp⟩
  exact initial.foldl forms

/-- Every field of a schema that was read from a text was read from a line of it. -/
theorem parse_read {env : Record String} {text : String} {parsed : Parsed}
    (accepted : parse env text = .ok parsed) {entity : Entity}
    (member : entity ∈ parsed.schema.entities) {name : String} {field : Field}
    (declared : (name, field) ∈ entity.fields) : FieldRead name field := by
  obtain ⟨blocks, source, declares⟩ := declares_of_parse accepted
  obtain ⟨block, -, ofBlock⟩ := exists_of_mem_right declares.entities member
  obtain ⟨line, -, form⟩ := exists_of_mem_right ofBlock.fields declared
  exact form.read

end SchemaStore.Dsl
