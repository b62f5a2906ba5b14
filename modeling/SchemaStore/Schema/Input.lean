import SchemaStore.Number.Written
import SchemaStore.Schema.Check

/-!
# Reading input records

Schema objects and requests may be given as dynamic values.  The readers here
turn a value into what a field of a record holds, with the conversions that are
allowed, or name the first defect in the order of declaration.
-/

namespace SchemaStore

/-- Why a value is not what a record needs. -/
inductive InputDefect where
  | required
  | notText
  | undecodableText
  | notChoice (choices : List String)
  | notInteger
  | unreadableInteger
  | fractionalInteger
  | oversizedInteger
  | infiniteInteger
  | notBoolean
  | unreadableBoolean
  | notNumber
  | unreadableNumber
  | belowZero
  | notObject
  /-- A value that describes nothing. -/
  | notDescription
  | notRecord (name : String)
  | notSequence (name : String)
  | wrongLength (expected actual : Nat)
  | unknownTag (tag : String) (choices : List String)
  | missingTag
  /-- A rule of the record itself. -/
  | rule (message : String)
deriving DecidableEq, Repr

namespace InputDefect

/-- Choices between quotes, the last two joined by "or". -/
def listChoices : List String → String
  | [] => ""
  | [choice] => Text.quoted choice
  | [choice, last] => Text.quoted choice ++ " or " ++ Text.quoted last
  | choice :: rest => Text.quoted choice ++ ", " ++ listChoices rest

def message : InputDefect → String
  | .required => "Field required"
  | .notText => "Input should be a valid string"
  | .undecodableText =>
      "Input should be a valid string, unable to parse raw data as a unicode string"
  | .notChoice choices => "Input should be " ++ listChoices choices
  | .notInteger => "Input should be a valid integer"
  | .unreadableInteger => "Input should be a valid integer, unable to parse string as an integer"
  | .fractionalInteger => "Input should be a valid integer, got a number with a fractional part"
  | .oversizedInteger => "Unable to parse input string as an integer, exceeded maximum size"
  | .infiniteInteger => "Input should be a finite number"
  | .notBoolean => "Input should be a valid boolean"
  | .unreadableBoolean => "Input should be a valid boolean, unable to interpret input"
  | .notNumber => "Input should be a valid number"
  | .unreadableNumber => "Input should be a valid number, unable to parse string as a number"
  | .belowZero => "Input should be greater than or equal to 0"
  | .notObject => "Input should be a valid dictionary"
  | .notDescription => "Input should be a valid dictionary or object to extract fields from"
  | .notRecord name => "Input should be a valid dictionary or instance of " ++ name
  | .notSequence name => "Input should be a valid " ++ name
  | .wrongLength expected actual =>
      "Tuple should have at " ++ (if actual < expected then "least " else "most ") ++
        toString expected ++ " items after validation, not " ++ toString actual
  | .unknownTag tag choices =>
      "Input tag \x27" ++ tag ++
        "\x27 found using \x27kind\x27 does not match any of the expected tags: " ++
        Text.joinWith ", " (choices.map Text.quoted)
  | .missingTag => "Unable to extract tag using discriminator 'kind'"
  | .rule message => message

end InputDefect

/-- The text of a value whose kind is text; there is none if its bytes spell none. -/
def Scalar.decoded? : Scalar → Option (Option String)
  | .text s => some (some s)
  | .bytes octets => some (Text.decodeUtf8? octets)
  | _ => none

/-- A reader of one value. -/
abbrev Reader (α : Type) := Value → Except InputDefect α

namespace Reader

variable {α : Type}

def text : Reader String
  | .scalar value =>
      match value.decoded? with
      | some text => text.elim (.error .undecodableText) .ok
      | none => .error .notText
  | _ => .error .notText

/-- One of the given choices. -/
def choice (choices : List α) (label : α → String) : Reader α
  | .scalar (.text s) =>
      match choices.find? (label · == s) with
      | some found => .ok found
      | none => .error (.notChoice (choices.map label))
  | _ => .error (.notChoice (choices.map label))

/-- The integer that a number with a fraction stands for. -/
def intOfReal (x : Binary64) : Except InputDefect Int :=
  if !x.isFinite then .error .infiniteInteger
  else
    match x.toInt? with
    | none => .error .fractionalInteger
    | some n => if n.natAbs < pow2 63 then .ok n else .error .oversizedInteger

/-- The integer that a text stands for. -/
def intOfText (s : String) : Except InputDefect Int :=
  match Text.readPlainInteger s with
  | .ok n => .ok n
  | .error .malformed => .error .unreadableInteger
  | .error (.oversized _) => .error .oversizedInteger

/-- An integer; numbers without a fraction and texts of digits count. -/
def int : Reader Int
  | .scalar (.int n) => .ok n
  | .scalar (.bool b) => .ok (if b then 1 else 0)
  | .scalar (.real x) => intOfReal x
  | .scalar value =>
      match value.decoded? with
      | some text => text.elim (.error .unreadableInteger) intOfText
      | none => .error .notInteger
  | _ => .error .notInteger

/-- An integer that is not negative. -/
def natural : Reader Nat := fun value => do
  let n ← int value
  if n < 0 then .error .belowZero else .ok n.toNat

/-- The truth value that an integer stands for; only integers of 64 bits are looked at. -/
def boolOfInt (n : Int) : Except InputDefect Bool :=
  if n = 0 then .ok false
  else if n = 1 then .ok true
  else if -(pow2 63 : Int) ≤ n ∧ n < pow2 63 then .error .unreadableBoolean
  else .error .notBoolean

/-- The truth value that a word stands for. -/
def boolOfText (s : String) : Except InputDefect Bool :=
  let word := String.ofList (s.toList.map Char.toLower)
  if ["0", "off", "f", "false", "n", "no"].contains word then .ok false
  else if ["1", "on", "t", "true", "y", "yes"].contains word then .ok true
  else .error .unreadableBoolean

/-- A truth value; the numbers 0 and 1 and the usual words count. -/
def bool : Reader Bool
  | .scalar (.bool b) => .ok b
  | .scalar (.int n) => boolOfInt n
  | .scalar (.real x) =>
      match intOfReal x with
      | .ok n => boolOfInt n
      | .error _ => .error .notBoolean
  | .scalar value =>
      match value.decoded? with
      | some text => text.elim (.error .unreadableBoolean) boolOfText
      | none => .error .notBoolean
  | _ => .error .notBoolean

/-- A missing value is allowed. -/
def optional (reader : Reader α) : Reader (Option α) := fun value =>
  if value.isNull then .ok none else some <$> reader value

/-- A list, or what counts as the named kind of sequence. -/
def sequence (name : String) (reader : Reader α) : Reader (List α)
  | .sequence _ items => items.mapM reader
  | _ => .error (.notSequence name)

/-- An object whose values are all of one kind. -/
def record (reader : Reader α) : Reader (Record α)
  | .object entries => entries.mapM fun (key, value) => (key, ·) <$> reader value
  | _ => .error .notObject

/-- The entries of an object that describes the named record. -/
def entries (name : String) : Reader (Record Value)
  | .object entries => .ok entries
  | _ => .error (.notRecord name)

end Reader

namespace Record

variable {α : Type}

def require (record : Record Value) (key : String) (reader : Reader α) : Except InputDefect α :=
  match record.get? key with
  | none => .error .required
  | some value => reader value

/-- The value under a name, or what stands for a missing one. -/
def optional (record : Record Value) (key : String) (fallback : α) (reader : Reader α) :
    Except InputDefect α :=
  match record.get? key with
  | none => .ok fallback
  | some value => reader value

end Record

/-- Fail with a rule of a record unless it holds. -/
def InputDefect.checkRule {δ : Type} (message : δ → String) (defect : Option δ) :
    Except InputDefect Unit :=
  match defect with
  | none => .ok ()
  | some found => .error (.rule (message found))

namespace Reference

def ofInput : Reader Reference := fun value => do
  let input ← Reader.entries "Reference" value
  return {
    entity := ← input.require "entity" Reader.text
    field := ← input.require "field" Reader.text }

end Reference

namespace Field

def ofInput : Reader Field := fun value => do
  let input ← Reader.entries "FieldDefinition" value
  let flag (key : String) := input.optional key false Reader.bool
  let field : Field := {
    type := ← input.require "type" (Reader.choice FieldType.all FieldType.label)
    isId := ← flag "is_id"
    isUnique := ← flag "is_unique"
    isOptional := ← flag "is_optional"
    isText := ← flag "is_text"
    isUpdatedAt := ← flag "is_updated_at"
    defaultText := ← input.optional "default" none (Reader.optional Reader.text)
    reference := ← input.optional "references" none (Reader.optional Reference.ofInput)
    onDelete := ← input.optional "on_delete" none
      (Reader.optional (Reader.choice DeletePolicy.all DeletePolicy.label)) }
  InputDefect.checkRule FieldDefect.message field.defect?
  return field

end Field

namespace Entity

def ofInput : Reader Entity := fun value => do
  let input ← Reader.entries "EntityDefinition" value
  let entity : Entity := {
    name := ← input.require "name" Reader.text
    fields := ← input.require "fields" (Reader.record Field.ofInput) }
  InputDefect.checkRule EntityDefect.message entity.defect?
  return entity

end Entity

/-- Report a defect of an input record. -/
def InputDefect.failure (defect : InputDefect) : Failure :=
  .badInput defect.message

/-- Run a reader on an input record. -/
def Reader.run {α : Type} (reader : Reader α) (value : Value) : Except Failure α :=
  (reader value).mapError InputDefect.failure

namespace Datasource

/-- Read a datasource from a record, without checking its address. -/
def fieldsOfInput : Reader Datasource := fun value => do
  let input ← Reader.entries "DataSourceDescriptor" value
  return {
    provider := ← input.require "provider" (Reader.choice Provider.all Provider.label)
    url := ← input.require "url" Reader.text
    ssl := ← input.optional "ssl" none (Reader.optional Reader.text) }

/-- Check the address of a datasource. -/
def checked (datasource : Datasource) : Except Failure Datasource :=
  match datasource.connection with
  | .ok _ => .ok datasource
  | .error defect => .error defect.failure

/-- Read a datasource from a record, and check it. -/
def ofInput (value : Value) : Except Failure Datasource := do
  checked (← fieldsOfInput.run value)

end Datasource

namespace Schema

/-- Read a schema from a record, and check it. -/
def ofInput (value : Value) : Except Failure Schema := do
  let input ← (Reader.entries "Schema").run value
  let part (key : String) : Except Failure Value :=
    match input.get? key with
    | some value => .ok value
    | none => .error InputDefect.required.failure
  let datasource ← Datasource.ofInput (← part "datasource")
  let entities ← (Reader.sequence "tuple" Entity.ofInput).run (← part "entities")
  let schema : Schema := { datasource, entities }
  match schema.defect? with
  | none => return schema
  | some defect => .error (.badInput defect.message)

end Schema
end SchemaStore
