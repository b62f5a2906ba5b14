import SchemaStore.Dsl.Block
import SchemaStore.Schema.Input

/-!
# Errors of schema texts

A `Defect` says what is wrong with a line or a block, and a `ParseError` where:
at a line, or nowhere in particular when the datasource is missing, when its
address cannot be built, or when the entities do not fit together.
-/

namespace SchemaStore.Dsl

/-- What is wrong at some line of a schema text. -/
inductive Defect where
  | scan (defect : ScanDefect)
  | secondDatasource
  | unnamedModel
  | unknownBlock (kind : String)
  | notAssignment (line : List Char)
  | unsetVariable (name : String)
  | missingKey (key : String)
  | unknownProvider
  | badPort (text : String) (defect : Text.NumeralDefect)
  | fieldTwice (field model : String)
  | invalidEntity (defect : EntityDefect)
  | notField (line : List Char)
  | badFieldName (name : List Char)
  | unknownType (name : List Char)
  | unknownToken (token : List Char)
  | unknownAttribute (name : List Char)
  | badReference (token : List Char)
  | unknownPolicy (argument : Option (List Char))
  | badIntDefault (text : String)
  | invalidField (field : String) (defect : FieldDefect)
deriving DecidableEq, Repr

/-- Text between single quotes, as it is. -/
def between (cs : List Char) : String :=
  "'" ++ String.ofList cs ++ "'"

def Defect.message : Defect → String
  | .scan (.notBlock line) => "Expected a block declaration, got " ++ between line
  | .scan .nestedBlock => "Nested blocks are not supported"
  | .scan .braceNotAlone => "Closing brace must be on its own line"
  | .scan .neverClosed => "Block is never closed"
  | .secondDatasource => "Only one datasource block is allowed"
  | .unnamedModel => "model block needs a name"
  | .unknownBlock kind => "Unknown block " ++ between kind.toList
  | .notAssignment line => "Expected 'key = value', got " ++ between line
  | .unsetVariable name => "Environment variable " ++ name ++ " is not set"
  | .missingKey key => "datasource is missing " ++ between key.toList
  | .unknownProvider => (InputDefect.notChoice (Provider.all.map Provider.label)).message
  | .badPort text defect => DatasourceDefect.portMessage text defect
  | .fieldTwice field model =>
      "Field " ++ between field.toList ++ " is declared twice in model " ++ model
  | .invalidEntity defect => defect.message
  | .notField line => "Expected 'name Type', got " ++ between line
  | .badFieldName name => "Invalid field name " ++ between name
  | .unknownType name => "Unknown type " ++ between name
  | .unknownToken token => "Unknown attribute " ++ between token
  | .unknownAttribute name => "Unknown attribute " ++ between ('@' :: name)
  | .badReference token => "Expected @references(Entity.field), got " ++ between token
  | .unknownPolicy argument =>
      "Unknown onDelete policy " ++ between (argument.getD "None".toList)
  | .badIntDefault text => "Int default must be an integer, got " ++ between text.toList
  | .invalidField field defect => field ++ ": " ++ defect.message

/-- Why a schema text cannot be read. -/
inductive ParseError where
  | atLine (line : Nat) (defect : Defect)
  | missingDatasource
  | invalidSchema (defect : SchemaDefect)
  | unusableUrl (defect : DatasourceDefect)
deriving DecidableEq, Repr

/-- The error for a text from the named source. -/
def ParseError.toFailure (source : String) : ParseError → Failure
  | .atLine line defect =>
      .own (.schema (source ++ ":" ++ toString line ++ ": " ++ defect.message))
  | .missingDatasource => .own (.schema (source ++ ": missing datasource block"))
  | .invalidSchema defect => .own (.schema (source ++ ": " ++ defect.message))
  | .unusableUrl defect => defect.failure

end SchemaStore.Dsl
