/-!
# Log entries

Operations report what they do as entries of three levels.
-/

namespace SchemaStore

/-- How serious an entry is. -/
inductive LogLevel where
  | info
  | warning
  | error
deriving DecidableEq, Repr

def LogLevel.label : LogLevel → String
  | .info => "info"
  | .warning => "warning"
  | .error => "error"

structure LogEntry where
  level : LogLevel
  message : String
deriving DecidableEq, Repr

end SchemaStore
