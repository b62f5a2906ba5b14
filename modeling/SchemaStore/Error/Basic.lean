/-!
# Errors of the store

Every operation fails with a `StoreError`: the family it was raised as, a stable
kind and code, and a message.  The kind and code survive a change of backend;
the message is for people.
-/

namespace SchemaStore

/-- The stable kinds of failure. -/
inductive ErrorKind where
  | validation
  | integrity
  | database
  | connection
  | authentication
  | authorization
  | transaction
  | querySyntax
  | schema
  | reconciliation
  | orm
  | unknown
deriving DecidableEq, Repr

def ErrorKind.all : List ErrorKind :=
  [.validation, .integrity, .database, .connection, .authentication, .authorization,
    .transaction, .querySyntax, .schema, .reconciliation, .orm, .unknown]

/-- The written name of a kind. -/
def ErrorKind.label : ErrorKind → String
  | .validation => "validation_error"
  | .integrity => "integrity_error"
  | .database => "database_error"
  | .connection => "connection_error"
  | .authentication => "authentication_error"
  | .authorization => "authorization_error"
  | .transaction => "transaction_error"
  | .querySyntax => "syntax_error"
  | .schema => "schema_error"
  | .reconciliation => "reconciliation_error"
  | .orm => "orm_error"
  | .unknown => "unknown_error"

/-- Kind, code and message of a failure. -/
structure ErrorInfo where
  kind : ErrorKind
  code : String
  message : String
deriving DecidableEq, Repr

/-- The families of errors that operations raise. -/
inductive ErrorFamily where
  | general
  | validation
  | schema
  | connection
  | authentication
  | authorization
  | integrity
  | database
  | transaction
  | querySyntax
  | reconciliation
deriving DecidableEq, Repr

namespace ErrorFamily

def all : List ErrorFamily :=
  [.general, .validation, .schema, .connection, .authentication, .authorization, .integrity,
    .database, .transaction, .querySyntax, .reconciliation]

/-- The kind of an error unless it is raised with another one. -/
def kind : ErrorFamily → ErrorKind
  | .general => .orm
  | .validation => .validation
  | .schema => .schema
  | .connection => .connection
  | .authentication => .authentication
  | .authorization => .authorization
  | .integrity => .integrity
  | .database => .database
  | .transaction => .transaction
  | .querySyntax => .querySyntax
  | .reconciliation => .reconciliation

/-- The code of an error unless it is raised with another one. -/
def code : ErrorFamily → String
  | .general => "L700"
  | .validation => "L600"
  | .schema => "L800"
  | .connection => "L401"
  | .authentication => "L402"
  | .authorization => "L403"
  | .integrity => "L100"
  | .database => "L300"
  | .transaction => "L500"
  | .querySyntax => "L303"
  | .reconciliation => "L810"

/-- The family that a failure of some kind is raised as. -/
def ofKind : ErrorKind → ErrorFamily
  | .validation => .validation
  | .integrity => .integrity
  | .database => .database
  | .connection => .connection
  | .authentication => .authentication
  | .authorization => .authorization
  | .transaction => .transaction
  | .querySyntax => .querySyntax
  | .schema => .schema
  | .reconciliation | .orm | .unknown => .general

end ErrorFamily

/-- Where in a reconciliation an error arose. -/
structure ErrorContext where
  entity : Option String := none
  action : Option String := none
  cause : Option ErrorInfo := none
deriving DecidableEq, Repr

/-- An error that an operation raises. -/
structure StoreError where
  family : ErrorFamily
  kind : ErrorKind
  code : String
  message : String
  context : ErrorContext := {}
deriving DecidableEq, Repr

namespace StoreError

/-- An error of a family with its own kind and code. -/
def of (family : ErrorFamily) (message : String) : StoreError :=
  { family, kind := family.kind, code := family.code, message }

/-- Bad input of a caller. -/
def validation (message : String) : StoreError := of .validation message

/-- A schema that is malformed or does not know a name. -/
def schema (message : String) : StoreError := of .schema message

/-- No connection to the database. -/
def connection (message : String) : StoreError := of .connection message

/-- A reconciliation that cannot go on. -/
def reconciliation (message : String) (context : ErrorContext) : StoreError :=
  { of .reconciliation message with context }

/-- The error that stands for a classified failure. -/
def ofInfo (info : ErrorInfo) : StoreError :=
  { family := .ofKind info.kind, kind := info.kind, code := info.code, message := info.message }

/-- Kind, code and message of an error. -/
def info (e : StoreError) : ErrorInfo :=
  ⟨e.kind, e.code, e.message⟩

/-- The text of an error: its code and its message. -/
def text (e : StoreError) : String :=
  "[" ++ e.code ++ "] " ++ e.message

end StoreError
end SchemaStore
