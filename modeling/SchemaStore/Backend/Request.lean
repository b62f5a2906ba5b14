import SchemaStore.Backend.Connection
import SchemaStore.Ddl.Action
import SchemaStore.Dialogue
import SchemaStore.Live.State
import SchemaStore.Sql.Statement

/-!
# Requests to a backend

A backend opens pools of connections; through a pool it executes statements,
describes tables and changes them.  A `Program` is a dialogue of such requests
that may fail.
-/

namespace SchemaStore

/-- What the execution of a statement gives. -/
structure Result where
  rows : List Row := []
  /-- The value of a statement that gives a single one. -/
  scalar : Value := .int 0
  /-- The number of rows that were written. -/
  rowCount : Int := 0
  /-- The key of the row that was added. -/
  key : Value := .null
deriving Repr

structure LockAnswer where
  /-- The connection that holds the lock, if it was granted. -/
  connection : Nat
  value : Value
deriving Repr

/-- What a program asks of a backend. -/
inductive Request where
  /-- Make a pool of connections, of which none is opened yet. -/
  | openPool (datasource : Datasource) (settings : Settings)
  /-- Open a connection of a pool and use it once. -/
  | ping (pool : Nat)
  | disposePool (pool : Nat)
  | execute (pool : Nat) (statement : Statement)
  /-- Make the executed writes permanent. -/
  | commit (pool : Nat)
  /-- Undo the writes that are not permanent. -/
  | rollback (pool : Nat)
  | inspect (pool : Nat) (table : String)
  /-- Make a change that a schema declares, in a transaction of its own. -/
  | alter (pool : Nat) (schema : Schema) (action : DdlAction)
  | lock (pool : Nat) (name : String) (timeout : Int)
  /-- Release a lock on the connection that holds it. -/
  | unlock (connection : Nat) (name : String)
deriving Repr

/-- The replies that a request can get. -/
def Request.Reply : Request → Type
  | .openPool .. => Except Failure Nat
  | .ping _ => Except Failure Unit
  | .disposePool _ => Unit
  | .execute .. => Except Failure Result
  | .commit _ => Except Failure Unit
  | .rollback _ => Unit
  | .inspect .. => Except Failure TableState
  | .alter .. => Except Failure Unit
  | .lock .. => Except Failure LockAnswer
  | .unlock .. => Except Failure Unit

/-- Who answers the requests of programs. -/
abbrev Backend (State : Type) := Responder Request Request.Reply State

/-- A dialogue with a backend. -/
abbrev Session (α : Type) := Dialogue Request Request.Reply α

/-- A dialogue with a backend that may fail. -/
abbrev Program (α : Type) := ExceptT Failure (Dialogue Request Request.Reply) α

namespace Program

variable {α β : Type}

/-- A program that is given by the dialogue that it is. -/
def ofSession (session : Session (Except Failure α)) : Program α :=
  ExceptT.mk session

/-- The dialogue that a program is. -/
def session (program : Program α) : Session (Except Failure α) :=
  ExceptT.run program

/-- A program that gives a known result or failure. -/
def ofResult (result : Except Failure α) : Program α :=
  ofSession (.done result)

def fail (failure : Failure) : Program α :=
  ofResult (.error failure)

/-- Do something that cannot fail. -/
def lift (session : Session α) : Program α :=
  ofSession (Except.ok <$> session)

/-- Note something. -/
def log (level : LogLevel) (message : String) : Program Unit :=
  lift (Dialogue.log level message)

/-- Go on after a failure. -/
def recover (program : Program α) (rescue : Failure → Program α) : Program α :=
  ofSession (program.session.bind fun
    | .ok result => .done (.ok result)
    | .error failure => (rescue failure).session)

end Program
end SchemaStore
