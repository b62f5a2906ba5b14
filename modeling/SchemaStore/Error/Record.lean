import SchemaStore.Error.Backend

/-!
# Errors as records

An error is handed on as a record of its kind, code and message.  An error of
reconciliation also tells where it arose.
-/

namespace SchemaStore

/-- A classification as a record. -/
def ErrorInfo.toRecord (info : ErrorInfo) : Record Value :=
  [("kind", .text info.kind.label), ("code", .text info.code), ("message", .text info.message)]

def StoreError.toRecord (error : StoreError) : Record Value :=
  let context : Record Value :=
    if error.family = .reconciliation then
      [("entity", .optionalText error.context.entity),
        ("action", .optionalText error.context.action),
        ("cause", .optional (fun info => .object info.toRecord) error.context.cause)]
    else
      []
  ("status", .bool false) :: error.info.toRecord ++ context

end SchemaStore
