import SchemaStore.Error.Backend
import SchemaStore.Text.Case

/-!
# Classification of failures

Backends name their failures by numbers, by state codes or by words.  A code
that `infoOfCode?` knows decides the classification; otherwise the first pattern
found in the text does.  The same codes and texts tell which failures are worth
a retry and which only say that a constraint is already there.
-/

namespace SchemaStore

/-- Kind, code and message of the backend codes that have a meaning of their own. -/
def infoOfCode? (code : String) : Option ErrorInfo :=
  let integrity (code message : String) : Option ErrorInfo := some ⟨.integrity, code, message⟩
  let unique := integrity "L100" "Unique constraint failed (Duplicate entry)"
  let foreignKey := integrity "L101" "Foreign key constraint failed"
  let notNull := integrity "L102" "NOT NULL constraint failed"
  let check := integrity "L103" "Check constraint failed"
  let primaryKey := integrity "L104" "Primary key conflict"
  let deadlock := some ⟨.transaction, "L500", "Transaction deadlock detected"⟩
  let rollback := some ⟨.transaction, "L501", "Transaction rollback"⟩
  let unreachable := some ⟨.connection, "L401", "Database connection failed"⟩
  let credentials := some ⟨.authentication, "L402", "Invalid database credentials"⟩
  let denied := some ⟨.authorization, "L403", "Access denied"⟩
  match code with
  | "1062" | "SQLITE_CONSTRAINT_UNIQUE" => unique
  | "1452" | "1451" | "SQLITE_CONSTRAINT_FOREIGNKEY" => foreignKey
  | "1048" | "SQLITE_CONSTRAINT_NOTNULL" => notNull
  | "4025" | "3819" | "SQLITE_CONSTRAINT_CHECK" => check
  | "1068" | "SQLITE_CONSTRAINT_PRIMARYKEY" => primaryKey
  | "1264" => some ⟨.validation, "L200", "Value out of range"⟩
  | "1366" => some ⟨.validation, "L201", "Invalid encoding"⟩
  | "1292" => some ⟨.validation, "L202", "Invalid date format"⟩
  | "1146" => some ⟨.database, "L300", "Table not found"⟩
  | "1054" => some ⟨.database, "L301", "Column not found"⟩
  | "1064" => some ⟨.querySyntax, "L303", "Invalid SQL syntax"⟩
  | "1205" | "SQLITE_BUSY" => deadlock
  | "1213" | "SQLITE_LOCKED" => rollback
  | "1040" => some ⟨.connection, "L400", "Too many connections"⟩
  | "2003" | "2006" | "2013" | "SQLITE_CANTOPEN" => unreachable
  | "1045" | "28000" => credentials
  | "1044" | "42000" | "SQLITE_AUTH" => denied
  | "1141" => some ⟨.authorization, "L901", "Unauthorized access"⟩
  | "1105" => some ⟨.orm, "L700", "Unexpected ORM error"⟩
  | _ => none

/-- The classification of a failure that nothing is known about. -/
def unknownInfo : ErrorInfo :=
  ⟨.unknown, "L000", "Unknown database error"⟩

/-- The classification of an exhausted connection pool. -/
def poolTimeoutInfo : ErrorInfo :=
  ⟨.connection, "L404", "Connection pool exhausted"⟩

/-- The classification of a connection that could not be made. -/
def unreachableInfo : ErrorInfo :=
  ⟨.connection, "L401", "Database connection failed"⟩

/-- Words that stand for a code when the backend gives none, in order of precedence. -/
def textPatterns : List (String × String) :=
  [ ("UNIQUE constraint failed", "SQLITE_CONSTRAINT_UNIQUE"),
    ("FOREIGN KEY constraint failed", "SQLITE_CONSTRAINT_FOREIGNKEY"),
    ("NOT NULL constraint failed", "SQLITE_CONSTRAINT_NOTNULL"),
    ("Cannot add a NOT NULL column", "SQLITE_CONSTRAINT_NOTNULL"),
    ("CHECK constraint failed", "SQLITE_CONSTRAINT_CHECK"),
    ("no such table", "1146"),
    ("no such column", "1054"),
    ("has no column named", "1054"),
    ("syntax error", "1064"),
    ("database is locked", "SQLITE_BUSY"),
    ("unable to open database", "SQLITE_CANTOPEN") ]

/-- Codes of a connection that broke, whose statement may be sent again. -/
def transientCodes : List String := ["2006", "2013", "1053", "1927"]

/-- Codes of a constraint or index whose name is taken. -/
def duplicateCodes : List String := ["1061", "1826", "1022"]

/-- The attributes under which drivers keep a code, in order of precedence. -/
def codeAttributes : List String := ["sqlite_errorname", "errno", "sqlstate", "pgcode"]

/-- The code that a report carries: a leading number, or the first attribute that is set. -/
def DriverReport.code? (report : DriverReport) : Option String :=
  match report.args with
  | .scalar (.int n) :: _ => some (toString n)
  | _ =>
      codeAttributes.findSome? fun name =>
        match report.attributes.get? name with
        | some value => if value.truthy then some value.display else none
        | none => none

/-- The code of a driver's error, or else of its cause. -/
def DriverError.code? (e : DriverError) : Option String :=
  match e.toDriverReport.code? with
  | some code => some code
  | none => e.cause.bind DriverReport.code?

namespace Failure

/-- The backend's own code for a failure. -/
def code? (failure : Failure) : Option String :=
  failure.driverError?.bind DriverError.code?

/-- The code that the text of a failure stands for. -/
def codeOfText? (text : String) : Option String :=
  (textPatterns.find? fun entry => Text.occursCaseless entry.1 text).map (·.2)

/-- The classification of an error of the access layer with no known code or text. -/
def fallbackInfo : Failure → ErrorInfo
  | .access error =>
      match error.kind with
      | .disconnected | .interface => unreachableInfo
      | _ => unknownInfo
  | _ => unknownInfo

/-- Kind, code and message of a backend's failure; a text that cannot be taken decides nothing. -/
def classifyBackend (failure : Failure) : ErrorInfo :=
  match failure.code?.bind infoOfCode? with
  | some info => info
  | none =>
      match failure.text? with
      | none => unknownInfo
      | some text => ((codeOfText? text).bind infoOfCode?).getD failure.fallbackInfo

/-- Kind, code and message of any failure. -/
def classify : Failure → ErrorInfo
  | .own error => error.info
  | .access error =>
      if error.kind = .poolTimeout then poolTimeoutInfo else classifyBackend (.access error)
  | failure => classifyBackend failure

/-- The store's own error for a failure. -/
def toStoreError : Failure → StoreError
  | .own error => error
  | failure => .ofInfo failure.classify

/-- Whether a connection broke before the statement was done; undecided if the text is needed
and cannot be taken. -/
def isTransient? (failure : Failure) : Option Bool :=
  let broken := match failure with
    | .access error => error.invalidated || error.kind == .disconnected
    | _ => false
  let known := match failure.code? with
    | some code => transientCodes.contains code
    | none => false
  if broken || known then some true
  else failure.text?.map fun text => Text.occursIn "aborted".toList (Text.lower text).toList

/-- Words by which a backend refuses a constraint whose name is taken. -/
def saysDuplicate (text : String) : Bool :=
  let small := (Text.lower text).toList
  let mentions (words : String) := Text.occursIn words.toList small
  mentions "duplicate key name" || mentions "duplicate foreign key" ||
    (mentions "index" && mentions "already exists")

/-- Whether a constraint was refused because its name is taken; undecided if the text is needed
and cannot be taken. -/
def isDuplicate? (failure : Failure) : Option Bool :=
  let known := match failure.code? with
    | some code => duplicateCodes.contains code
    | none => false
  if known then some true else failure.text?.map saysDuplicate

end Failure
end SchemaStore
