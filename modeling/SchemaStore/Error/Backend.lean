import SchemaStore.Error.Basic
import SchemaStore.Folder
import SchemaStore.Value

/-!
# Failures of a backend

A `DriverError` is what a database driver reports: arguments, attributes and
perhaps a cause.  The access layer wraps it in an `AccessError`, or raises one
of its own, when a pool is exhausted for instance.  `Failure` is anything an
operation can end with.
-/

namespace SchemaStore

/-- Arguments and attributes of an error, without its cause. -/
structure DriverReport where
  args : List Value := []
  attributes : Record Value := []
deriving Repr

structure DriverError extends DriverReport where
  cause : Option DriverReport := none
  /-- Taking the text of such an error fails. -/
  unreadable : Bool := false
deriving Repr

/-- What an error of the access layer is about. -/
inductive AccessKind where
  /-- A statement failed. -/
  | statement
  /-- A statement failed in the interface to the driver. -/
  | interface
  /-- No connection became free in time. -/
  | poolTimeout
  /-- A pooled connection was found broken. -/
  | disconnected
  | other
deriving DecidableEq, Repr

/-- An error of the access layer between the store and a driver. -/
structure AccessError where
  kind : AccessKind
  /-- The name under which the layer raises it. -/
  label : String
  message : String
  driver : Option DriverError := none
  /-- The connection was given up. -/
  invalidated : Bool := false
deriving Repr

/-- Everything an operation can end with instead of a result. -/
inductive Failure where
  /-- An error that the store raises. -/
  | own (error : StoreError)
  /-- An error of the access layer, passed through. -/
  | access (error : AccessError)
  /-- An error that is not of the access layer, passed through. -/
  | driver (error : DriverError)
  /-- An input record that does not describe what it should. -/
  | badInput (message : String)
  /-- An ordering comparison with null, true or false. -/
  | unorderedOperand
  /-- A constraint cannot be added to an existing table on this backend. -/
  | constraintUnsupported
  /-- A name that a record or a model lacks. -/
  | missingKey
  /-- A position beyond the end of a sequence. -/
  | missingPosition
  /-- A name without a character where statements need one. -/
  | emptyName
  /-- An error whose text was needed and could not be taken. -/
  | unreadableText
  /-- A number that is too long to be read. -/
  | unreadableNumber
  /-- An integer that is too large to be stored. -/
  | oversizedNumber
  /-- A text that cannot be read as what its place needs. -/
  | unreadableValue
  /-- A value that is no text where only a text can be read. -/
  | nonTextValue
  /-- A file that does not hold text. -/
  | undecodableFile
  /-- A path that leads to no file. -/
  | unreadableFile (defect : PathDefect)
  /-- A certificate file without a certificate. -/
  | badCertificate
deriving Repr, Inhabited

namespace DriverError

/-- The text of an error, unless it cannot be taken. -/
def text? (e : DriverError) : Option String :=
  if e.unreadable then none
  else
    match e.args with
    | [] => some ""
    | [value] => some value.display
    | values => some (Value.sequence .tuple values).display

end DriverError

namespace Failure

/-- Bad input of a caller. -/
def validation (message : String) : Failure := .own (.validation message)

/-- Whether the access layer raised it. -/
def isAccess : Failure → Bool
  | .access _ => true
  | _ => false

/-- What the backend says when a constraint cannot be added. -/
def constraintUnsupportedText : String :=
  "No support for ALTER of constraints in SQLite dialect. Please refer to the batch mode " ++
    "feature which allows for SQLite migrations using a copy-and-move strategy."

/-- The driver's part of a failure, when there is one. -/
def driverError? : Failure → Option DriverError
  | .access error => error.driver
  | .driver error => some error
  | _ => none

/-- The text of a failure, as its driver words it. -/
def text? : Failure → Option String
  | .own error => some error.text
  | .access error =>
      match error.driver with
      | some reported => reported.text?
      | none => some error.message
  | .driver error => error.text?
  | .badInput message => some message
  | .constraintUnsupported => some constraintUnsupportedText
  | _ => some ""

/-- How a failure is named in a log.  The wording of a backend is left out of logs. -/
def logText : Failure → String
  | .access error =>
      if error.driver.isNone && error.message.isEmpty then "" else "<backend error>"
  | failure => failure.text?.getD ""

end Failure
end SchemaStore
