import SchemaStore.Schema.Url
import SchemaStore.Text.Case

/-!
# Declared schemas

A `Schema` declares a datasource and, in order, the entities that are kept in
it.  An entity has named fields of three types; a field may be the id, refer to
an earlier entity, or have a default.  Table names and lookups ignore the case
of entity names.
-/

namespace SchemaStore

/-- The kinds of database that a datasource can name. -/
inductive Provider where
  | mysql
  | sqlite
deriving DecidableEq, Repr

/-- The types of fields. -/
inductive FieldType where
  | string
  | int
  | dateTime
deriving DecidableEq, Repr

/-- What happens to a referring row when its target is deleted. -/
inductive DeletePolicy where
  | cascade
  | setNull
  | setDefault
  | restrict
  | noAction
deriving DecidableEq, Repr

/-- The field of another entity that a field refers to. -/
structure Reference where
  entity : String
  field : String
deriving DecidableEq, Repr

/-- A declared field. -/
structure Field where
  type : FieldType
  isId : Bool := false
  isUnique : Bool := false
  isOptional : Bool := false
  /-- The field holds text of any length. -/
  isText : Bool := false
  /-- The field is set to the current time on every update. -/
  isUpdatedAt : Bool := false
  defaultText : Option String := none
  reference : Option Reference := none
  onDelete : Option DeletePolicy := none
deriving DecidableEq, Repr

/-- A declared entity. -/
structure Entity where
  name : String
  fields : Record Field
deriving DecidableEq, Repr

/-- A declared datasource. -/
structure Datasource where
  provider : Provider
  url : String
  /-- The file of trusted certificates, for an encrypted connection. -/
  ssl : Option String := none
deriving DecidableEq, Repr

/-- A declared schema. -/
structure Schema where
  datasource : Datasource
  entities : List Entity
deriving DecidableEq, Repr

namespace Provider

def label : Provider → String
  | .mysql => "mysql"
  | .sqlite => "sqlite"

def all : List Provider := [.mysql, .sqlite]

def ofLabel? (s : String) : Option Provider :=
  all.find? (·.label == s)

/-- The driver that connects to a kind of database. -/
def driver : Provider → String
  | .mysql => "mysql+aiomysql"
  | .sqlite => "sqlite+aiosqlite"

end Provider

namespace FieldType

def label : FieldType → String
  | .string => "String"
  | .int => "Int"
  | .dateTime => "DateTime"

def all : List FieldType := [.string, .int, .dateTime]

def ofLabel? (s : String) : Option FieldType :=
  all.find? (·.label == s)

end FieldType

namespace DeletePolicy

def label : DeletePolicy → String
  | .cascade => "CASCADE"
  | .setNull => "SET NULL"
  | .setDefault => "SET DEFAULT"
  | .restrict => "RESTRICT"
  | .noAction => "NO ACTION"

def all : List DeletePolicy := [.cascade, .setNull, .setDefault, .restrict, .noAction]

def ofLabel? (s : String) : Option DeletePolicy :=
  all.find? (·.label == s)

end DeletePolicy

/-- The default that stands for the time of insertion. -/
def nowDefault : String := "now()"

namespace Field

/-- Whether a missing value is filled with the current time. -/
def needsNow (field : Field) : Bool :=
  field.type == .dateTime && (field.defaultText == some nowDefault || field.isUpdatedAt)

end Field

namespace Entity

/-- The table that holds the rows of an entity. -/
def tableName (entity : Entity) : String :=
  Text.lower entity.name ++ "s"

/-- The names of the fields that are marked as the id. -/
def idFields (entity : Entity) : List String :=
  (entity.fields.filter (·.2.isId)).map (·.1)

def idField (entity : Entity) : String :=
  entity.idFields.headD ""

/-- The name by which an entity is looked up. -/
def key (entity : Entity) : String :=
  Text.lower entity.name

end Entity

namespace Schema

/-- The entity of a name, in any letter case. -/
def entity? (schema : Schema) (name : String) : Option Entity :=
  schema.entities.find? fun entity => entity.key == Text.lower name

end Schema
end SchemaStore
