import SchemaStore.Dsl.Defect
import SchemaStore.Log

/-!
# Reading schema texts

`parse` turns the blocks of a schema text into a valid schema.  The datasource
block gives keys and values, which may be read from the environment; each line
of a model block gives a field by its name, its type and its attributes.
-/

namespace SchemaStore.Dsl

/-- Remove the quotation marks around a text, if it stands between two equal ones. -/
def unquote (cs : List Char) : List Char :=
  match cs with
  | quote :: second :: rest =>
      if isQuote quote ∧ (second :: rest).getLast? = some quote then (second :: rest).dropLast
      else cs
  | _ => cs

/-- Key and value of a line `key = value`. -/
def readAssignment? (line : List Char) : Option (String × List Char) :=
  let (key, rest) := takeIdentifier line
  match rest.dropWhile Text.isBlank with
  | '=' :: tail =>
      let value := Text.trim tail
      if key.isEmpty ∨ value.isEmpty then none else some (String.ofList key, value)
  | _ => none

/-- The variable that a value `env("NAME")` names. -/
def readVariable? (value : List Char) : Option String :=
  if "env(".toList.isPrefixOf value then
    match (value.drop 4).dropWhile Text.isBlank with
    | '\x22' :: tail =>
        let name := tail.takeWhile (· != doubleQuote)
        match tail.dropWhile (· != doubleQuote) with
        | '\x22' :: close =>
            if !name.isEmpty ∧ close.dropWhile Text.isBlank = [')'] then
              some (String.ofList name)
            else
              none
        | _ => none
    | _ => none
  else
    none

/-- The value of a datasource key: from the environment, or as it is written. -/
def readValue (env : Record String) (value : List Char) : Except Defect String :=
  match readVariable? value with
  | some name =>
      match env.get? name with
      | some found => .ok found
      | none => .error (.unsetVariable name)
  | none => .ok (String.ofList (unquote value))

/-- What an attribute of a field says. -/
inductive Attribute where
  | optional
  | id
  | unique
  | text
  | updatedAt
  | default (value : String)
  | autoIncrement
  | references (reference : Reference)
  | onDelete (policy : DeletePolicy)
deriving DecidableEq, Repr

/-- Whether a text is an integer: digits of any script with an optional minus sign. -/
def isIntegerText (cs : List Char) : Bool :=
  let digits := match cs with
    | '-' :: rest => rest
    | _ => cs
  !digits.isEmpty && digits.all Text.isDecimal

/-- Read a reference `Entity.field`. -/
def readReference? (cs : List Char) : Option Reference :=
  let (entity, rest) := takeIdentifier cs
  match rest with
  | '.' :: tail =>
      if entity.isEmpty || !isIdentifier tail then none
      else some ⟨String.ofList entity, String.ofList tail⟩
  | _ => none

/-- Read a policy in any letter case; underscores stand for blanks. -/
def readPolicy? (cs : List Char) : Option DeletePolicy :=
  let words := (Text.upper (String.ofList cs)).toList
  DeletePolicy.ofLabel? (String.ofList (words.map fun c => if c = '_' then ' ' else c))

/-- Name and argument of a token `@name` or `@name(argument)`. -/
def splitAttribute? : List Char → Option (List Char × Option (List Char))
  | '@' :: rest =>
      let name := rest.takeWhile isNameChar
      match rest.dropWhile isNameChar with
      | [] => if name.isEmpty then none else some (name, none)
      | '(' :: tail =>
          if name.isEmpty ∨ tail.getLast? ≠ some ')' then none
          else some (name, some tail.dropLast)
      | _ => none
  | _ => none

/-- Read an attribute of a field of the given type. -/
def readAttribute (type : FieldType) (token : List Char) : Except Defect Attribute :=
  if token = ['?'] then
    .ok .optional
  else
    match splitAttribute? token with
    | none => .error (.unknownToken token)
    | some (name, argument) =>
        let body := Text.trim (argument.getD [])
        match String.ofList name with
        | "id" => .ok .id
        | "unique" => .ok .unique
        | "text" | "db.Text" => .ok .text
        | "updatedAt" => .ok .updatedAt
        | "default" =>
            let text := unquote body
            if text = "autoincrement()".toList then .ok .autoIncrement
            else if type = .int ∧ !isIntegerText text then
              .error (.badIntDefault (String.ofList text))
            else .ok (.default (String.ofList text))
        | "references" =>
            match readReference? body with
            | some reference => .ok (.references reference)
            | none => .error (.badReference token)
        | "onDelete" =>
            match readPolicy? body with
            | some policy => .ok (.onDelete policy)
            | none => .error (.unknownPolicy argument)
        | _ => .error (.unknownAttribute name)

/-- A field with one more attribute; ids count up by themselves anyway. -/
def Attribute.apply (field : Field) : Attribute → Field
  | .optional => { field with isOptional := true }
  | .id => { field with isId := true }
  | .unique => { field with isUnique := true }
  | .text => { field with isText := true }
  | .updatedAt => { field with isUpdatedAt := true }
  | .default value => { field with defaultText := some value }
  | .autoIncrement => field
  | .references reference => { field with reference := some reference }
  | .onDelete policy => { field with onDelete := some policy }

/-- Split a type token into the type's name and whether the field is optional. -/
def splitType (token : List Char) : List Char × Bool :=
  if token.getLast? = some '?' then (token.dropLast, true) else (token, false)

/-- Read the attributes of a field in order. -/
def readAttributes (field : Field) : List (List Char) → Except Defect Field
  | [] => .ok field
  | token :: rest => do
      let said ← readAttribute field.type token
      readAttributes (said.apply field) rest

/-- Name and definition of the field that a line declares. -/
def readField (line : List Char) : Except Defect (String × Field) :=
  match tokens line with
  | name :: typeToken :: attributes =>
      if isIdentifier name then
        let (typeName, isOptional) := splitType typeToken
        match FieldType.ofLabel? (String.ofList typeName) with
        | none => .error (.unknownType typeName)
        | some type => do
            let field ← readAttributes { type, isOptional } attributes
            match field.defect? with
            | none => .ok (String.ofList name, field)
            | some defect => .error (.invalidField (String.ofList name) defect)
      else
        .error (.badFieldName name)
  | _ => .error (.notField line)

/-- Report a defect at a line. -/
def atLine {α : Type} (number : Nat) (result : Except Defect α) : Except ParseError α :=
  result.mapError (.atLine number)

/-- Read the fields of a model block after those that are already known. -/
def readFields (model : String) (known : Record Field) :
    List Line → Except ParseError (Record Field)
  | [] => .ok known
  | line :: rest => do
      let (name, field) ← atLine line.number (readField line.text)
      if known.has name then
        .error (.atLine line.number (.fieldTwice name model))
      else
        readFields model (known ++ [(name, field)]) rest

/-- The entity that a model block declares. -/
def readModel (name : String) (block : Block) : Except ParseError Entity := do
  let entity : Entity := { name, fields := ← readFields name [] block.body }
  match entity.defect? with
  | none => .ok entity
  | some defect => .error (.atLine block.start (.invalidEntity defect))

/-- The keys that a datasource block may have. -/
def datasourceKeys : List String := ["provider", "url", "ssl"]

/-- The values of a datasource block, and the keys in it that are not known. -/
def readValues (env : Record String) (values : Record String) (ignored : List String) :
    List Line → Except ParseError (Record String × List String)
  | [] => .ok (values, ignored)
  | line :: rest =>
      match readAssignment? line.text with
      | none => .error (.atLine line.number (.notAssignment line.text))
      | some (key, value) =>
          if datasourceKeys.contains key then do
            let value ← atLine line.number (readValue env value)
            readValues env (values.put key value) ignored rest
          else
            readValues env values (ignored ++ [key]) rest

def requireValue (values : Record String) (block : Block) (key : String) :
    Except ParseError String :=
  match values.get? key with
  | some value => .ok value
  | none => .error (.atLine block.start (.missingKey key))

/-- The datasource that a block declares, and the keys in it that are not known. -/
def readDatasource (env : Record String) (block : Block) :
    Except ParseError (Datasource × List String) := do
  let (values, ignored) ← readValues env [] [] block.body
  let provider ← requireValue values block "provider"
  let url ← requireValue values block "url"
  match Provider.ofLabel? provider with
  | none => .error (.atLine block.start .unknownProvider)
  | some provider =>
      let datasource : Datasource := { provider, url, ssl := values.get? "ssl" }
      match datasource.connection with
      | .ok _ => .ok (datasource, ignored)
      | .error (.badPort text defect) => .error (.atLine block.start (.badPort text defect))
      | .error defect => .error (.unusableUrl defect)

/-- What the blocks read so far declare. -/
structure Draft where
  datasource : Option Datasource := none
  entities : List Entity := []
  ignoredKeys : List String := []
deriving DecidableEq, Repr

/-- Add what a block declares. -/
def readBlock (env : Record String) (draft : Draft) (block : Block) :
    Except ParseError Draft :=
  match block.header.kind with
  | "datasource" =>
      if draft.datasource.isSome then
        .error (.atLine block.start .secondDatasource)
      else do
        let (datasource, ignored) ← readDatasource env block
        .ok { draft with datasource := some datasource, ignoredKeys := ignored }
  | "model" =>
      match block.header.name with
      | none => .error (.atLine block.start .unnamedModel)
      | some name => do
          let entity ← readModel name block
          .ok { draft with entities := draft.entities ++ [entity] }
  | kind => .error (.atLine block.start (.unknownBlock kind))

/-- A schema, and the datasource keys of its text that are not known. -/
structure Parsed where
  schema : Schema
  ignoredKeys : List String
deriving DecidableEq, Repr

/-- Read a schema text. -/
def parse (env : Record String) (text : String) : Except ParseError Parsed := do
  let scanned := scan (significantLines text)
  let draft ← scanned.blocks.foldlM (readBlock env) {}
  match scanned.defect with
  | some (line, defect) => .error (.atLine line (.scan defect))
  | none =>
      match draft.datasource with
      | none => .error .missingDatasource
      | some datasource =>
          let schema : Schema := { datasource, entities := draft.entities }
          match schema.defect? with
          | some defect => .error (.invalidSchema defect)
          | none => .ok { schema, ignoredKeys := draft.ignoredKeys }

/-- The log of a text that was read. -/
def Parsed.log (source : String) (parsed : Parsed) : List LogEntry :=
  let names := (Value.sequence .list
    (parsed.schema.entities.map fun entity => .text entity.name)).display
  [⟨.info, "Parsing " ++ source ++ "..."⟩] ++
    parsed.ignoredKeys.map (fun key =>
      ⟨.warning, "Ignoring unknown datasource key " ++ between key.toList⟩) ++
    [⟨.info, "Schema parsed: provider=" ++ parsed.schema.datasource.provider.label ++
      ", models=" ++ names⟩]

end SchemaStore.Dsl
