import SchemaStore.Record
import SchemaStore.Text.Blank
import SchemaStore.Text.Percent

/-!
# Folders

A `Folder` holds the contents of files by path.  `Folder.read` follows a path
part by part: into folders, up to a parent, and down to a file.  What lies
outside of the folder is not known: paths may lead through it, but name no file
there.
-/

namespace SchemaStore

/-- The parts of a path between its slashes. -/
def pathParts (path : String) : List String :=
  (Text.splitAt '/' path.toList).map String.ofList

/-- Whether a part of a path leads nowhere else. -/
def isIdlePart (part : String) : Bool :=
  part.isEmpty || part == "."

/-- The slashes that a path starts with; only two of them are not the same as one. -/
def pathRoot (path : String) : String :=
  match path.toList with
  | '/' :: '/' :: '/' :: _ => "/"
  | '/' :: '/' :: _ => "//"
  | '/' :: _ => "/"
  | _ => ""

/-- The shortest form of a path. -/
def shortPath (path : String) : String :=
  let short := pathRoot path ++ Text.joinWith "/" ((pathParts path).filter (!isIdlePart ·))
  if short.isEmpty then "." else short

/-- The greatest size of a part of a path, in bytes. -/
def maxPartSize : Nat := 255

/-- The greatest size of a path, in bytes. -/
def maxPathSize : Nat := 4095

/-- Why a path cannot be read. -/
inductive PathDefect where
  | missing
  | notFolder
  | isFolder
  | tooLong
  /-- The path holds the character that ends paths. -/
  | broken
deriving DecidableEq, Repr

/-- Number and wording of a defect. -/
def PathDefect.text : PathDefect → String
  | .missing => "[Errno 2] No such file or directory"
  | .notFolder => "[Errno 20] Not a directory"
  | .isFolder => "[Errno 21] Is a directory"
  | .tooLong => "[Errno 36] File name too long"
  | .broken => "embedded null byte"

/-- The contents of files by path. -/
structure Folder where
  files : Record (List UInt8) := []
deriving Repr

/-- Where a path has come to. -/
inductive Place where
  /-- In the folder, or in a folder below it. -/
  | inside (parts : List String)
  | outside
deriving DecidableEq, Repr

/-- The folder that a folder lies in. -/
def Place.parent : Place → Place
  | .inside [] | .outside => .outside
  | .inside parts => .inside parts.dropLast

namespace Folder

/-- The files with the parts of their paths. -/
def entries (folder : Folder) : List (List String × List UInt8) :=
  folder.files.map fun (path, content) => ((pathParts path).filter (!isIdlePart ·), content)

/-- The file at the end of the given parts. -/
def file? (folder : Folder) (parts : List String) : Option (List UInt8) :=
  folder.entries.lookup parts

/-- Whether there are files below the given parts. -/
def hasFolder (folder : Folder) (parts : List String) : Bool :=
  folder.entries.any fun entry => parts.isPrefixOf entry.1

/-- Follow the parts of a path from a place. -/
def follow (folder : Folder) : Place → List String → Except PathDefect (List UInt8)
  | _, [] => .error .isFolder
  | place, part :: rest =>
      if isIdlePart part then folder.follow place rest
      else if part == ".." then folder.follow place.parent rest
      else if maxPartSize < part.utf8ByteSize then .error .tooLong
      else
        match place with
        | .outside => .error .missing
        | .inside parts =>
            match folder.file? (parts ++ [part]) with
            | some content => if rest.isEmpty then .ok content else .error .notFolder
            | none =>
                if folder.hasFolder (parts ++ [part]) then
                  folder.follow (.inside (parts ++ [part])) rest
                else
                  .error .missing

/-- The contents of the file at a path. -/
def read (folder : Folder) (path : String) : Except PathDefect (List UInt8) :=
  if path.toList.contains '\x00' then .error .broken
  else if path.isEmpty then .error .missing
  else if maxPathSize < path.utf8ByteSize then .error .tooLong
  else
    match folder.files.get? path with
    | some content => .ok content
    | none =>
        folder.follow (if (pathRoot path).isEmpty then .inside [] else .outside) (pathParts path)

end Folder
end SchemaStore
