import SchemaStore.Dsl.Parser

/-!
# Printed schemas

`printSchema` writes a schema as a text: a datasource block and one block for
each entity, with one line for each key and each field.  `PrintableSchema` says
for which schemas the text can hold everything: names are identifiers, and
quoted texts hold no character that ends the quotation, a block or a line.
-/

namespace SchemaStore.Dsl

/-- A text between double quotation marks. -/
def quotedText (text : String) : List Char :=
  doubleQuote :: text.toList ++ [doubleQuote]

def attributeToken (name : String) (argument : List Char) : List Char :=
  '@' :: name.toList ++ '(' :: argument ++ [')']

/-- A policy with underscores for blanks. -/
def policyWords (policy : DeletePolicy) : List Char :=
  policy.label.toList.map fun c => if c = ' ' then '_' else c

/-- An attribute as it is printed. -/
def Attribute.token : Attribute → List Char
  | .optional => ['?']
  | .id => "@id".toList
  | .unique => "@unique".toList
  | .text => "@text".toList
  | .updatedAt => "@updatedAt".toList
  | .default value => attributeToken "default" (quotedText value)
  | .autoIncrement => attributeToken "default" "autoincrement()".toList
  | .references reference =>
      attributeToken "references" (reference.entity.toList ++ '.' :: reference.field.toList)
  | .onDelete policy => attributeToken "onDelete" (policyWords policy)

/-- The attributes that a field is printed with, in order. -/
def attributesOf (field : Field) : List Attribute :=
  (if field.isId then [.id] else []) ++
    (if field.isUnique then [.unique] else []) ++
    (if field.isText then [.text] else []) ++
    (if field.isUpdatedAt then [.updatedAt] else []) ++
    (field.defaultText.map Attribute.default).toList ++
    (field.reference.map Attribute.references).toList ++
    (field.onDelete.map Attribute.onDelete).toList

/-- The type of a field as it is printed. -/
def typeToken (field : Field) : List Char :=
  field.type.label.toList ++ if field.isOptional then ['?'] else []

/-- Texts with a blank before each. -/
def spaced (texts : List (List Char)) : List Char :=
  texts.flatMap (' ' :: ·)

def printField (name : String) (field : Field) : List Char :=
  name.toList ++ spaced (typeToken field :: (attributesOf field).map Attribute.token)

/-- The line of a datasource key. -/
def printAssignment (key value : String) : List Char :=
  key.toList ++ " = ".toList ++ quotedText value

/-- The line that opens a block. -/
def printHeader (kind name : String) : List Char :=
  kind.toList ++ ' ' :: (name.toList ++ " \x7b".toList)

/-- The lines of a block. -/
def printBlock (header : List Char) (body : List (List Char)) : List (List Char) :=
  header :: body ++ [['\x7d']]

/-- The keys and values of a datasource. -/
def assignmentsOf (datasource : Datasource) : List (String × String) :=
  [("provider", datasource.provider.label), ("url", datasource.url)] ++
    (datasource.ssl.map ("ssl", ·)).toList

def assignmentLines (assignments : List (String × String)) : List (List Char) :=
  assignments.map fun (key, value) => printAssignment key value

def fieldLines (fields : Record Field) : List (List Char) :=
  fields.map fun (name, field) => printField name field

def printDatasource (datasource : Datasource) : List (List Char) :=
  printBlock (printHeader "datasource" "db") (assignmentLines (assignmentsOf datasource))

def printModel (entity : Entity) : List (List Char) :=
  printBlock (printHeader "model" entity.name) (fieldLines entity.fields)

def printLines (schema : Schema) : List (List Char) :=
  printDatasource schema.datasource ++ schema.entities.flatMap printModel

def printSchema (schema : Schema) : String :=
  String.ofList ((printLines schema).flatMap (· ++ ['\n']))

/-- Whether parentheses are properly nested and at most one pair is open at any place; `inner`
tells whether a pair is open. -/
def isNested : Bool → List Char → Bool
  | inner, [] => !inner
  | inner, c :: rest =>
      if c = '(' then !inner && isNested true rest
      else if c = ')' then inner && isNested false rest
      else isNested inner rest

/-- Whether a text can stand between double quotation marks in a line of a block. -/
def isQuotable (text : String) : Bool :=
  text.toList.all fun c => c != doubleQuote && c != '\x7d' && !Text.isLineBreak c

/-- A default that a line can hold. -/
structure PrintableDefault (type : FieldType) (text : String) : Prop where
  quotable : isQuotable text = true
  nested : isNested false text.toList = true
  notAutoIncrement : text ≠ "autoincrement()"
  integer : type = .int → isIntegerText text.toList = true

/-- A field that a line can hold. -/
structure PrintableField (name : String) (field : Field) : Prop where
  name : isIdentifier name.toList = true
  default : ∀ text, field.defaultText = some text → PrintableDefault field.type text
  reference : ∀ reference, field.reference = some reference →
    isIdentifier reference.entity.toList = true ∧ isIdentifier reference.field.toList = true

/-- An entity that a block can hold. -/
structure PrintableEntity (entity : Entity) : Prop where
  name : isIdentifier entity.name.toList = true
  fields : ∀ name field, (name, field) ∈ entity.fields → PrintableField name field

/-- A schema that a text can hold. -/
structure PrintableSchema (schema : Schema) : Prop where
  url : isQuotable schema.datasource.url = true
  ssl : ∀ text, schema.datasource.ssl = some text → isQuotable text = true
  entities : ∀ entity ∈ schema.entities, PrintableEntity entity

end SchemaStore.Dsl
