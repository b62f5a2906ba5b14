import SchemaStore.Schema.Input

/-!
# Writing schemas as records

The records here have the keys that the readers of schemas look for, and all of
them.
-/

namespace SchemaStore

def Reference.toRecord (reference : Reference) : Record Value :=
  [("entity", .text reference.entity), ("field", .text reference.field)]

def Field.toRecord (field : Field) : Record Value :=
  [("type", .text field.type.label),
    ("is_id", .bool field.isId),
    ("is_unique", .bool field.isUnique),
    ("is_optional", .bool field.isOptional),
    ("is_text", .bool field.isText),
    ("is_updated_at", .bool field.isUpdatedAt),
    ("default", .optionalText field.defaultText),
    ("references", .optional (fun reference => .object reference.toRecord) field.reference),
    ("on_delete", .optionalText (field.onDelete.map DeletePolicy.label))]

def Entity.toRecord (entity : Entity) : Record Value :=
  [("name", .text entity.name),
    ("fields", .object (entity.fields.mapValues fun field => .object field.toRecord))]

def Datasource.toRecord (datasource : Datasource) : Record Value :=
  [("provider", .text datasource.provider.label),
    ("url", .text datasource.url),
    ("ssl", .optionalText datasource.ssl)]

def Schema.toRecord (schema : Schema) : Record Value :=
  [("datasource", .object schema.datasource.toRecord),
    ("entities", .list (schema.entities.map fun entity => .object entity.toRecord))]

end SchemaStore
