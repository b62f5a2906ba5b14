import SchemaStore.Text.Blank

/-!
# Marked blocks

A file of marked blocks holds bytes as base64 text between a line that begins a
block of some name and a line that ends it.  Lines outside of blocks mean
nothing.  Inside a block, lines up to a blank one are its header if there is a
blank one; after a header, only the last line of the text may be short.
`Pem.blocks?` gives the blocks of a file unless one of them is broken.
-/

namespace SchemaStore.Pem

/-- A block: its name, its header, and the bytes that its text stands for. -/
structure Block where
  name : List Char
  header : List Char
  bytes : List UInt8
deriving DecidableEq, Repr

/-! ## Base64 -/

def base64Value? (c : Char) : Option Nat :=
  if 'A' ≤ c ∧ c ≤ 'Z' then some (c.toNat - 0x41)
  else if 'a' ≤ c ∧ c ≤ 'z' then some (c.toNat - 0x61 + 26)
  else if c.isDigit then some (c.toNat - 0x30 + 52)
  else if c = '+' then some 62
  else if c = '/' then some 63
  else none

/-- The bytes of base64 digits in groups of four; padding may end the last group. -/
def decodeGroups? : List Char → Option (List UInt8)
  | [] => some []
  | [a, b, '=', '='] => do
      let x ← base64Value? a
      let y ← base64Value? b
      return [.ofNat ((x * 64 + y) / 16)]
  | [a, b, c, '='] => do
      let x ← base64Value? a
      let y ← base64Value? b
      let z ← base64Value? c
      let bits := (x * 64 + y) * 64 + z
      return [.ofNat (bits / 1024), .ofNat (bits / 4)]
  | a :: b :: c :: d :: rest => do
      let x ← base64Value? a
      let y ← base64Value? b
      let z ← base64Value? c
      let w ← base64Value? d
      let bits := ((x * 64 + y) * 64 + z) * 64 + w
      return .ofNat (bits / 65536) :: .ofNat (bits / 256) :: .ofNat bits :: (← decodeGroups? rest)
  | _ => none

/-- White space inside a base64 text. -/
def isSpacing (c : Char) : Bool :=
  c == ' ' || c == '\t' || c == '\r' || c == '\n'

/-- The bytes of a base64 text, which a dash ends. -/
def decodeBase64? (cs : List Char) : Option (List UInt8) :=
  decodeGroups? ((cs.takeWhile (· != '-')).filter (!isSpacing ·))

/-! ## Lines -/

/-- The greatest number of bytes that are read as one line. -/
def maxLine : Nat := 254

/-- Cut a file after its line feeds, and where lines grow too long; `line` is the current line
backwards and `room` the number of bytes that still fit in it. -/
def cutFrom (line : List Char) (room : Nat) : List Char → List (List Char)
  | [] => if line.isEmpty then [] else [line.reverse]
  | c :: rest =>
      if c = '\n' ∨ room ≤ 1 then (c :: line).reverse :: cutFrom [] maxLine rest
      else cutFrom (c :: line) (room - 1) rest

/-- The lines of a file with their line feeds.  A null byte ends its line, and the file if it
stands first. -/
def cutLines (cs : List Char) : List (List Char) :=
  ((cutFrom [] maxLine cs).map (·.takeWhile (· != '\x00'))).takeWhile (!·.isEmpty)

/-- What does not count at the end of a line: white space, control characters, and bytes beyond
ASCII. -/
def isTrailing (c : Char) : Bool :=
  c.toNat ≤ 0x20 || 0x80 ≤ c.toNat

/-- What counts of a line. -/
def bare (line : List Char) : List Char :=
  Text.dropEndWhile isTrailing line

/-- Whether only the first part of a line was read. -/
def isCut (line : List Char) : Bool :=
  line.length == maxLine && line.getLast? != some '\n'

/-- A line without the mark that may stand at the start of a text. -/
def withoutMark (line : List Char) : List Char :=
  match line with
  | '\xef' :: '\xbb' :: '\xbf' :: c :: rest => c :: rest
  | _ => line

/-! ## Markers -/

def dashes : List Char := "-----".toList

/-- The text of a line between a given start and five dashes. -/
def markedName? (start : String) (line : List Char) : Option (List Char) :=
  let marker := start.toList
  if marker.isPrefixOf line && dashes.isSuffixOf (line.drop marker.length) then
    some ((line.drop marker.length).take (line.length - marker.length - dashes.length))
  else
    none

/-- The name of the block that a line begins. -/
def beginName? (line : List Char) : Option (List Char) :=
  markedName? "-----BEGIN " line

def endStart : List Char := "-----END ".toList

/-! ## Blocks -/

/-- Where in a block its reader is. -/
inductive Stage where
  /-- At lines that are the text if no header turns up. -/
  | undecided
  | header
  | body
deriving DecidableEq, Repr

/-- A block that is being read. -/
structure Draft where
  name : List Char
  stage : Stage := .undecided
  /-- The lines up to a blank one. -/
  before : List Char := []
  /-- The lines after it. -/
  after : List Char := []
  /-- The line before this one was cut. -/
  afterCut : Bool := false
  /-- The line before this one was a short line of the body. -/
  afterShort : Bool := false

/-- What a line does to a block that is being read. -/
inductive Step where
  | more (draft : Draft)
  | done (block : Block)
  | broken

namespace Draft

/-- The greatest length of a line of the body. -/
def bodyWidth : Nat := 64

/-- The block that is read, unless its text is no base64 or stands for nothing. -/
def finish (draft : Draft) : Step :=
  let (header, text) := match draft.stage with
    | .undecided => ([], draft.before)
    | _ => (draft.before, draft.after)
  match decodeBase64? text with
  | some (byte :: bytes) => .done ⟨draft.name, header, byte :: bytes⟩
  | _ => .broken

/-- Read a line that neither is blank nor ends the block. -/
def add (draft : Draft) (line : List Char) : Step :=
  if draft.afterShort then .broken
  else
    match draft.stage with
    | .body =>
        if bodyWidth < line.length then .broken
        else
          .more { draft with
            after := draft.after ++ line ++ ['\n']
            afterShort := line.length < bodyWidth }
    | _ => .more { draft with before := draft.before ++ line ++ ['\n'] }

/-- Read the next line of a block.  A colon in the first lines starts a header, and a blank line
ends it. -/
def read (draft : Draft) (raw : List Char) : Step :=
  let line := bare raw
  let blankCounts := !draft.afterCut
  let draft := { draft with
    stage := if draft.stage = .undecided ∧ raw.contains ':' then .header else draft.stage
    afterCut := isCut raw }
  if line.isEmpty then
    if !blankCounts then .more draft
    else if draft.stage = .body then .broken
    else .more { draft with stage := .body }
  else if endStart.isPrefixOf line then
    if line.drop endStart.length = draft.name ++ dashes then draft.finish else .broken
  else
    draft.add line

end Draft

/-- Where in a file its reader is. -/
inductive Position where
  /-- Outside of blocks; the first line there may start with a mark. -/
  | outside (first : Bool)
  | inside (draft : Draft)

/-- The blocks of the rest of a file, unless one is broken or has no end. -/
def blocksFrom? : Position → List (List Char) → Option (List Block)
  | .outside _, [] => some []
  | .inside _, [] => none
  | .outside first, raw :: rest =>
      match beginName? (bare (if first then withoutMark raw else raw)) with
      | some name => blocksFrom? (.inside { name }) rest
      | none => blocksFrom? (.outside false) rest
  | .inside draft, raw :: rest =>
      match draft.read raw with
      | .more draft => blocksFrom? (.inside draft) rest
      | .done block => (block :: ·) <$> blocksFrom? (.outside true) rest
      | .broken => none

/-- The blocks of a file, unless one is broken.  Each byte is taken for a character. -/
def blocks? (content : List UInt8) : Option (List Block) :=
  blocksFrom? (.outside true) (cutLines (content.map fun octet => Char.ofNat octet.toNat))

end SchemaStore.Pem
