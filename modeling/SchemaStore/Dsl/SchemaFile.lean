import SchemaStore.Dsl.Parser
import SchemaStore.Folder

/-!
# Schema files

`parseFile` reads the schema text that a path names.  A path that leads to no
file is an error that shows the path in its shortest form.
-/

namespace SchemaStore.Dsl

/-- Read the schema text at a path. -/
def parseFile (folder : Folder) (env : Record String) (path : String) :
    Except Failure Parsed :=
  match folder.read (shortPath path) with
  | .error .broken => .error (.unreadableFile .broken)
  | .error defect =>
      .error (.own (.schema ("Cannot read schema " ++ path ++ ": " ++ defect.text ++ ": " ++
        Text.quoted (shortPath path))))
  | .ok content =>
      match Text.decodeUtf8? content with
      | none => .error .undecodableFile
      | some text => (parse env text).mapError (ParseError.toFailure path)

end SchemaStore.Dsl
