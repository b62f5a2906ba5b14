import SchemaStore.Database.Cell
import SchemaStore.Error.Backend
import SchemaStore.Number.Written
import SchemaStore.Sql.Statement

/-!
# Parameters

A parameter of a statement is bound in two steps: it is converted for the type
that it is compared with or stored as, and then it has to be a single value that
can be stored.
-/

namespace SchemaStore

/-- What a parameter is converted to before it is bound. -/
inductive Conversion where
  | plain
  | truth
  | real
  | moment
  | bytes
deriving DecidableEq, Repr

/-- A failure of the access layer that the database has no part in. -/
def Failure.statement (message : String) : Failure :=
  .access { kind := .other, label := "StatementError", message }

namespace Conversion

/-- The conversion of what is stored in a column. -/
def ofColumn : ColumnType → Conversion
  | .timestamp => .moment
  | _ => .plain

/-- The conversion of what a column is compared with. -/
def ofOperand (column : ColumnType) : Value → Conversion
  | .scalar (.bool _) => .truth
  | .scalar (.real _) => .real
  | .scalar (.moment _) => .moment
  | .scalar (.bytes _) => .bytes
  | .scalar (.int _) | .scalar (.text _) => .plain
  | _ => ofColumn column

/-- The conversion of a list of values that a column is compared with: its first one's. -/
def ofOperands (column : ColumnType) (values : List Value) : Conversion :=
  match values with
  | [] => .plain
  | first :: _ => ofOperand column first

/-- A text as a number with a fraction. -/
def readReal (s : String) : Except Failure Value :=
  match Binary64.ofText? s with
  | some x => .ok (.scalar (.real x))
  | none => .error (.statement "could not convert string to float")

/-- Bytes as the ASCII characters that they are; no number holds any other. -/
def asciiText (octets : List UInt8) : String :=
  String.ofList (octets.map fun octet =>
    if octet.toNat < 0x80 then Char.ofNat octet.toNat else '\uFFFD')

def convert (conversion : Conversion) (value : Value) : Except Failure Value :=
  match conversion, value with
  | .plain, value => .ok value
  | _, .scalar .null => .ok .null
  | .truth, .scalar (.bool b) => .ok (.int (if b then 1 else 0))
  | .truth, .scalar (.int 0) => .ok (.int 0)
  | .truth, .scalar (.int 1) => .ok (.int 1)
  | .truth, .scalar (.real x) =>
      match x.toInt? with
      | some 0 => .ok (.int 0)
      | some 1 => .ok (.int 1)
      | _ => .error (.statement "Not a boolean value")
  | .truth, _ => .error (.statement "Not a boolean value")
  | .real, .scalar (.real x) => .ok (.scalar (.real x))
  | .real, .scalar (.int n) => .ok (.scalar (.real (.ofInt n)))
  | .real, .scalar (.bool b) => .ok (.scalar (.real (.ofInt (if b then 1 else 0))))
  | .real, .scalar (.text s) => readReal s
  | .real, .scalar (.bytes octets) =>
      readReal (asciiText octets)
  | .real, _ => .error (.statement "a real number is required")
  | .moment, .scalar (.moment m) => .ok (.text m.stored)
  | .moment, _ =>
      .error (.statement "DateTime type only accepts datetime and date objects as input.")
  | .bytes, .scalar (.bytes octets) => .ok (.scalar (.bytes octets))
  | .bytes, _ => .error (.statement "a bytes-like object is required")

end Conversion

/-- A parameter that can be no single value. -/
def Failure.unbindable (typeName : String) : Failure :=
  .access {
    kind := .statement
    label := "ProgrammingError"
    message := ""
    driver := some { args := [.text
      ("Error binding parameter: type '" ++ typeName ++ "' is not supported")] } }

/-- The cell of a converted parameter. -/
def Value.bind : Value → Except Failure Cell
  | .scalar .null => .ok .null
  | .scalar (.bool b) => .ok (.int (if b then 1 else 0))
  | .scalar (.int n) => if Cell.isStorable n then .ok (.int n) else .error .oversizedNumber
  | .scalar (.real x) => .ok (if x.parts = .notANumber then .null else .real x)
  | .scalar (.text s) => .ok (.text s)
  | .scalar (.bytes octets) => .ok (.blob octets)
  | .scalar (.moment m) => .ok (.text (m.display " "))
  | other => .error (.unbindable other.typeName)

/-- A value with the conversion that it goes through. -/
structure Parameter where
  conversion : Conversion
  value : Value

namespace Parameter

/-- The parameter that a value is compared with a column as. -/
def operand (column : ColumnRef) (value : Value) : Parameter :=
  ⟨.ofOperand column.type value, value⟩

/-- The parameters that a list of values is compared with a column as. -/
def operands (column : ColumnRef) (values : List Value) : List Parameter :=
  values.map fun value => ⟨.ofOperands column.type values, value⟩

/-- The cell of a parameter. -/
def cell (parameter : Parameter) : Except Failure Cell := do
  Value.bind (← parameter.conversion.convert parameter.value)

/-- The cell of a parameter that has been checked. -/
def boundCell (parameter : Parameter) : Cell :=
  match parameter.cell with
  | .ok cell => cell
  | .error _ => .null

def checkConversions : List Parameter → Except Failure Unit
  | [] => .ok ()
  | parameter :: rest => do
      let _ ← parameter.conversion.convert parameter.value
      checkConversions rest

/-- Fail unless all parameters can be bound. -/
def checkBindings : List Parameter → Except Failure Unit
  | [] => .ok ()
  | parameter :: rest => do
      let _ ← parameter.cell
      checkBindings rest

end Parameter

namespace Clause

def parameters : Clause → List Parameter
  | .compare _ column operand => [.operand column operand]
  | .member _ column values => Parameter.operands column values
  | .both left right | .either left right => left.parameters ++ right.parameters
  | .group inner | .negation _ inner => inner.parameters
  | .constant _ | .settled _ => []

/-- The parameters of the conditions of a statement.  What a constant settles is not written. -/
def boundParameters (conditions : List Clause) : List Parameter :=
  ((criteria conditions).map parameters).getD []

def columns : Clause → List ColumnRef
  | .compare _ column _ | .member _ column _ => [column]
  | .both left right | .either left right => left.columns ++ right.columns
  | .group inner | .negation _ inner => inner.columns
  | .constant _ | .settled _ => []

end Clause
end SchemaStore
