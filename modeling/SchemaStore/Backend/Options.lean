import SchemaStore.Error.Backend
import SchemaStore.Schema.Url
import SchemaStore.Text.Case

/-!
# Connection options

The query of a server's address may set options of its connections.  Those of a
known kind are read when connections are prepared.
-/

namespace SchemaStore

inductive OptionKind where
  | integer
  | flag
deriving DecidableEq, Repr

/-- The options of a kind, in the order in which they are read. -/
def connectionOptions : List (String × OptionKind) :=
  [ ("compress", .flag), ("connect_timeout", .integer), ("read_timeout", .integer),
    ("write_timeout", .integer), ("client_flag", .integer), ("local_infile", .flag),
    ("use_unicode", .flag), ("ssl_check_hostname", .flag) ]

def flagWords : List String :=
  ["true", "yes", "on", "y", "t", "1", "false", "no", "off", "n", "f", "0"]

/-- Read the values of an option.  Several of them set a flag, and are no integer. -/
def OptionKind.check : OptionKind → List String → Except Failure Unit
  | .integer, [value] =>
      match Text.readInteger value with
      | .ok _ => .ok ()
      | .error _ => .error .unreadableValue
  | .integer, _ => .error .nonTextValue
  | .flag, [value] =>
      if flagWords.contains (Text.lower (String.ofList (Text.trim value.toList))) then .ok ()
      else .error .unreadableValue
  | .flag, _ => .ok ()

def missingExtension : Failure :=
  .access { kind := .other, label := "NoSuchModuleError", message := "no such extension" }

/-- Check the options that an address sets; extensions come first. -/
def Url.checkOptions (url : Url) : Except Failure Unit :=
  if url.query.has "plugin" then .error missingExtension
  else
    connectionOptions.forM fun (name, kind) =>
      match url.query.get? name with
      | some values => kind.check values
      | none => .ok ()

end SchemaStore
