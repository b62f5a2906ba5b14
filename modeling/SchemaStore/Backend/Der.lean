import SchemaStore.Text.Percent

/-!
# Elements in tag-length-content form

Certificates and keys are written as nested elements, each with a tag, a length
and a content.  A `Form` consumes an element of some form at the start of bytes;
the forms here are put together to those of larger things.
-/

namespace SchemaStore.Der

/-- The number that bytes stand for, the first of them first. -/
def ofBytes (bytes : List UInt8) : Nat :=
  bytes.foldl (fun n byte => n * 256 + byte.toNat) 0

/-- The length of a content, and the bytes after it. -/
def readLength? : List UInt8 → Option (Nat × List UInt8)
  | [] => none
  | first :: rest =>
      if first < 0x80 then
        some (first.toNat, rest)
      else
        let count := first.toNat - 0x80
        if count = 0 ∨ rest.length < count then none
        else some (ofBytes (rest.take count), rest.drop count)

/-- Tag and content of the first element, and the bytes after it. -/
def readElement? : List UInt8 → Option (UInt8 × List UInt8 × List UInt8)
  | [] => none
  | tag :: rest => do
      let (size, body) ← readLength? rest
      if body.length < size then none else return (tag, body.take size, body.drop size)

/-- What is left of bytes after an element of some form at their start. -/
abbrev Form := List UInt8 → Option (List UInt8)

namespace Form

/-- An element of a tag whose content passes a test. -/
def element (tag : UInt8) (valid : List UInt8 → Bool) : Form := fun bytes => do
  let (found, content, rest) ← readElement? bytes
  if found = tag ∧ valid content then return rest else none

/-- An element that may be missing: it is there if its tag is. -/
def optional (tag : UInt8) (form : Form) : Form := fun bytes =>
  if bytes.head? = some tag then form bytes else some bytes

/-- Whether bytes are elements of the given forms, one after the other, and nothing else. -/
def fills : List Form → List UInt8 → Bool
  | [], bytes => bytes.isEmpty
  | form :: forms, bytes =>
      match form bytes with
      | some rest => fills forms rest
      | none => false

/-- Whether bytes are at most `count` elements of a form and nothing else. -/
def repeats (form : Form) : Nat → List UInt8 → Bool
  | _, [] => true
  | 0, _ => false
  | count + 1, bytes =>
      match form bytes with
      | some rest => repeats form count rest
      | none => false

/-- An element of a tag that holds elements of the given forms. -/
def holding (tag : UInt8) (forms : List Form) : Form :=
  element tag (fills forms)

/-- An element of a tag that holds any number of elements of a form. -/
def many (tag : UInt8) (form : Form) : Form :=
  element tag fun content => repeats form content.length content

end Form

/-! ## Contents -/

/-- The sign bit of the first byte. -/
def isNegative (bytes : List UInt8) : Bool :=
  bytes.head?.any (0x80 ≤ ·)

/-- Integers have at least one byte and no more than they need. -/
def isInteger : List UInt8 → Bool
  | [] => false
  | [_] => true
  | first :: rest =>
      if first = 0 then isNegative rest
      else if first = 0xFF then !isNegative rest || rest.all (· == 0)
      else true

/-- Whether every number inside an identifier starts with a byte that adds to it; `fresh` tells
whether a number starts here. -/
def areNumbers : Bool → List UInt8 → Bool
  | fresh, [] => fresh
  | fresh, byte :: rest => !(fresh && byte == 0x80) && areNumbers (byte < 0x80) rest

/-- Identifiers of objects are numbers in groups of seven bits. -/
def isIdentifier (bytes : List UInt8) : Bool :=
  !bytes.isEmpty && areNumbers true bytes

/-- Bit strings start with the number of bits that their last byte does not use. -/
def isBitString : List UInt8 → Bool
  | unused :: _ => unused ≤ 7
  | [] => false

/-! ## Tags -/

def integerTag : UInt8 := 0x02

def bitStringTag : UInt8 := 0x03

def octetStringTag : UInt8 := 0x04

def sequenceTag : UInt8 := 0x30

def setTag : UInt8 := 0x31

/-- The tag of a numbered part that holds an element. -/
def partTag (n : UInt8) : UInt8 := 0xA0 + n

/-! ## Forms -/

def integer : Form := .element integerTag isInteger

def identifier : Form := .element 0x06 isIdentifier

def bitString : Form := .element bitStringTag isBitString

def octetString : Form := .element octetStringTag fun _ => true

def boolean : Form := .element 0x01 (·.length == 1)

/-- A text whose bytes spell one. -/
def utf8String : Form := .element 0x0C fun content => (Text.decodeUtf8? content).isSome

/-- Whether a content fits a simple tag. -/
def fitsTag (tag : UInt8) (content : List UInt8) : Bool :=
  if tag = integerTag ∨ tag = 0x0A then isInteger content
  else if tag = 0x06 then isIdentifier content
  else if tag = bitStringTag then isBitString content
  else if tag = 0x01 then content.length == 1
  else if tag = 0x05 then content.isEmpty
  else if tag = 0x1E then content.length % 2 == 0
  else if tag = 0x1C then content.length % 4 == 0
  else true

/-- Any element. -/
def anything : Form := fun bytes => do
  let (tag, content, rest) ← readElement? bytes
  if fitsTag tag content then return rest else none

/-- An element of one of several simple tags. -/
def oneOf (tags : List UInt8) : Form := fun bytes => do
  let (tag, content, rest) ← readElement? bytes
  if tags.contains tag && fitsTag tag content then return rest else none

def momentTags : List UInt8 := [0x17, 0x18]

/-- A moment of either kind; how it is written is not looked at. -/
def moment : Form := oneOf momentTags

/-- An algorithm: its identifier and perhaps parameters. -/
def algorithm : Form :=
  .element sequenceTag fun content =>
    Form.fills [identifier] content || Form.fills [identifier, anything] content

end SchemaStore.Der
