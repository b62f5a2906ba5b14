import SchemaStore.Dsl.Line
import SchemaStore.Dsl.Token

/-!
# Blocks

The significant lines of a schema text form blocks: a header `kind name {`,
body lines, and a closing brace on a line of its own.  `scan` gives the blocks
up to the first line that breaks this form, and what is wrong with that line.
-/

namespace SchemaStore.Dsl

/-- The line that opens a block. -/
structure Header where
  kind : String
  name : Option String
deriving DecidableEq, Repr

/-- A block with the number of its header line. -/
structure Block where
  header : Header
  start : Nat
  body : List Line
deriving DecidableEq, Repr

def readHeader? (line : List Char) : Option Header :=
  let (kind, afterKind) := takeIdentifier line
  let (name, afterName) := takeIdentifier (afterKind.dropWhile Text.isBlank)
  if kind.isEmpty then none
  else if name.isEmpty then
    if afterKind.dropWhile Text.isBlank = ['\x7b'] then
      some ⟨String.ofList kind, none⟩
    else
      none
  else if afterName.dropWhile Text.isBlank = ['\x7b'] then
    some ⟨String.ofList kind, some (String.ofList name)⟩
  else
    none

/-- What is wrong with the lines of a text as blocks. -/
inductive ScanDefect where
  | notBlock (line : List Char)
  | nestedBlock
  | braceNotAlone
  | neverClosed
deriving DecidableEq, Repr

/-- The blocks of a text, and the line where they break off. -/
structure Scan where
  blocks : List Block
  defect : Option (Nat × ScanDefect)
deriving DecidableEq, Repr

/-- Scan lines outside of a block (`none`), or inside one whose header and body so far are
given. -/
def scanFrom : Option Block → List Line → Scan
  | none, [] => ⟨[], none⟩
  | some block, [] => ⟨[], some (block.start, .neverClosed)⟩
  | none, line :: rest =>
      match readHeader? line.text with
      | some header => scanFrom (some ⟨header, line.number, []⟩) rest
      | none => ⟨[], some (line.number, .notBlock line.text)⟩
  | some block, line :: rest =>
      if line.text = ['\x7d'] then
        let tail := scanFrom none rest
        ⟨block :: tail.blocks, tail.defect⟩
      else if line.text.getLast? = some '\x7b' then
        ⟨[], some (line.number, .nestedBlock)⟩
      else if line.text.contains '\x7d' then
        ⟨[], some (line.number, .braceNotAlone)⟩
      else
        scanFrom (some { block with body := block.body ++ [line] }) rest

def scan (lines : List Line) : Scan :=
  scanFrom none lines

end SchemaStore.Dsl
