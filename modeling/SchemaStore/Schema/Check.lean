import SchemaStore.Error.Backend
import SchemaStore.Schema.Basic

/-!
# Valid schemas

The checks name the first defect of a field, of an entity, of a datasource and
of a whole schema.  A datasource is valid when its address can be built; a
schema is valid when its entity names differ and every reference finds its
target at or before the place where it stands.
-/

namespace SchemaStore

/-- Why a field is not valid. -/
inductive FieldDefect where
  | referenceNotInt
  | policyWithoutReference
  | updatedAtNotDateTime
  | textNotString
  | nowNotDateTime
  | idNotInt
deriving DecidableEq, Repr

def FieldDefect.message : FieldDefect → String
  | .referenceNotInt => "@references requires an Int field"
  | .policyWithoutReference => "@onDelete requires @references"
  | .updatedAtNotDateTime => "@updatedAt is only valid on DateTime fields"
  | .textNotString => "@text is only valid on String fields"
  | .nowNotDateTime => "@default(now()) is only valid on DateTime fields"
  | .idNotInt => "@id must be an Int field"

def Field.defect? (field : Field) : Option FieldDefect :=
  if field.reference.isSome ∧ field.type ≠ .int then some .referenceNotInt
  else if field.onDelete.isSome ∧ field.reference.isNone then some .policyWithoutReference
  else if field.isUpdatedAt ∧ field.type ≠ .dateTime then some .updatedAtNotDateTime
  else if field.isText ∧ field.type ≠ .string then some .textNotString
  else if field.defaultText = some nowDefault ∧ field.type ≠ .dateTime then some .nowNotDateTime
  else if field.isId ∧ field.type ≠ .int then some .idNotInt
  else none

/-- Why an entity is not valid: it does not have exactly one id. -/
structure EntityDefect where
  entity : String
  ids : Nat
deriving DecidableEq, Repr

def EntityDefect.message (defect : EntityDefect) : String :=
  "model " ++ defect.entity ++ " must declare exactly one @id field, found " ++
    toString defect.ids

def Entity.defect? (entity : Entity) : Option EntityDefect :=
  if entity.idFields.length = 1 then none else some ⟨entity.name, entity.idFields.length⟩

/-- Why the address of a datasource cannot be built. -/
inductive DatasourceDefect where
  | unreadableUrl
  | missingParts (names : List String)
  | badPort (text : String) (defect : Text.NumeralDefect)
deriving DecidableEq, Repr

namespace DatasourceDefect

/-- How much of a quoted text a report shows. -/
def quotedLength : Nat := 200

/-- What is said about a port that cannot be read. -/
def portMessage (text : String) : Text.NumeralDefect → String
  | .malformed =>
      "invalid literal for int() with base 10: " ++
        String.ofList ((Text.quoted text).toList.take quotedLength)
  | .oversized digits =>
      "Exceeds the limit (" ++ toString Text.maxDigits ++
        " digits) for integer string conversion: value has " ++ toString digits ++
        " digits; use sys.set_int_max_str_digits() to increase the limit"

/-- How the defect of a datasource is reported. -/
def failure : DatasourceDefect → Failure
  | .unreadableUrl =>
      .own (.schema ("Invalid datasource url: Could not parse SQLAlchemy URL from given " ++
        "URL string"))
  | .missingParts names =>
      .own (.schema ("Datasource url is missing: " ++ Text.joinWith ", " names))
  | .badPort text defect => .badInput (portMessage text defect)

/-- The defect of a datasource whose address cannot be read. -/
def ofUrl : UrlDefect → DatasourceDefect
  | .unreadable => .unreadableUrl
  | .badPort text defect => .badPort text defect

end DatasourceDefect

namespace Datasource

/-- The file that the address of an embedded database names. -/
def filePath (raw : String) : Except DatasourceDefect (Option String) :=
  let cs := raw.toList
  if "file:".toList.isPrefixOf cs then
    .ok (some (String.ofList (cs.drop 5)))
  else if "sqlite".toList.isPrefixOf cs then
    match Url.parse raw with
    | .ok url => .ok url.database
    | .error defect => .error (.ofUrl defect)
  else
    .ok (some raw)

/-- The parts of a server address that are missing or empty. -/
def missingParts (url : Url) : List String :=
  let absent (part : Option String) : Bool := (part.getD "").isEmpty
  [("host", url.host), ("user", url.username), ("password", url.password),
    ("database", url.database)].filterMap fun (name, part) =>
      if absent part then some name else none

/-- The address to connect to. -/
def connection (datasource : Datasource) : Except DatasourceDefect Url :=
  match datasource.provider with
  | .sqlite => do
      let path := (← filePath datasource.url).getD ""
      if path.isEmpty then .error (.missingParts ["database"])
      else .ok { driver := datasource.provider.driver, database := some path }
  | .mysql =>
      match Url.parse datasource.url with
      | .error defect => .error (.ofUrl defect)
      | .ok url =>
          let missing := missingParts url
          if missing.isEmpty then
            let port := match url.port with
              | none | some 0 => 3306
              | some port => port
            .ok { url with driver := datasource.provider.driver, port := some port }
          else
            .error (.missingParts missing)

end Datasource

/-- Why entities do not make a schema. -/
inductive SchemaDefect where
  | declaredTwice (entity : String)
  | targetNotBefore (entity field target : String)
  | unknownTarget (entity field target targetField : String)
deriving DecidableEq, Repr

def SchemaDefect.message : SchemaDefect → String
  | .declaredTwice entity => "model " ++ entity ++ " is declared twice"
  | .targetNotBefore entity field target =>
      entity ++ "." ++ field ++ " references " ++ target ++ ", which is not declared before it"
  | .unknownTarget entity field target targetField =>
      entity ++ "." ++ field ++ " references unknown field " ++ target ++ "." ++ targetField

/-- The first defect of the references of an entity; `known` are the entities up to it. -/
def Entity.referenceDefect? (known : List Entity) (entity : Entity) : Option SchemaDefect :=
  entity.fields.findSome? fun (name, field) =>
    match field.reference with
    | none => none
    | some reference =>
        match known.find? (·.key == Text.lower reference.entity) with
        | none => some (.targetNotBefore entity.name name reference.entity)
        | some target =>
            if target.fields.has reference.field then none
            else some (.unknownTarget entity.name name target.name reference.field)

/-- The first defect of entities that follow the `known` ones. -/
def entitiesDefect? (known : List Entity) : List Entity → Option SchemaDefect
  | [] => none
  | entity :: rest =>
      if known.any (·.key == entity.key) then some (.declaredTwice entity.name)
      else
        match entity.referenceDefect? (known ++ [entity]) with
        | some defect => some defect
        | none => entitiesDefect? (known ++ [entity]) rest

/-- The first defect of a schema beyond those of its parts. -/
def Schema.defect? (schema : Schema) : Option SchemaDefect :=
  entitiesDefect? [] schema.entities

/-- The entity of a name, or an error that the schema does not know it. -/
def Schema.entity (schema : Schema) (name : String) : Except StoreError Entity :=
  match schema.entity? name with
  | some entity => .ok entity
  | none => .error (.schema ("Unknown model: " ++ name))

end SchemaStore
