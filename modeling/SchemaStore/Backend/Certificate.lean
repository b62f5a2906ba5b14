import SchemaStore.Backend.Pem
import SchemaStore.Backend.PrivateKey
import SchemaStore.Text.Percent

/-!
# Certificate files

A certificate file holds certificates, or lists of revoked ones, in marked
blocks.  Every block of a known kind has to be what its name says, and at least
one of them has to be a certificate or a list.  Private keys may stand beside
them; those that are encrypted say so in their header.
-/

namespace SchemaStore.Certificate

/-! ## Forms -/

/-- A part of a name: a text, or something else that names may hold. -/
def namePart : Der.Form := fun bytes =>
  if bytes.head? = some 0x0C then Der.utf8String bytes
  else Der.oneOf [0x03, 0x12, 0x13, 0x14, 0x16, 0x1C, 0x1E, Der.sequenceTag] bytes

/-- The name of an issuer or a subject. -/
def name : Der.Form :=
  .many Der.sequenceTag <| .many Der.setTag <| .holding Der.sequenceTag
    [Der.identifier, namePart]

def extensions : Der.Form :=
  .many Der.sequenceTag <| .holding Der.sequenceTag
    [Der.identifier, .optional 0x01 Der.boolean, Der.octetString]

/-- Extensions as the part of a number, which may be missing. -/
def extensionPart (n : UInt8) : Der.Form :=
  .optional (Der.partTag n) (.holding (Der.partTag n) [extensions])

/-- Something with an algorithm and a signature after it. -/
def signed (body : List Der.Form) : Der.Form :=
  .holding Der.sequenceTag [.holding Der.sequenceTag body, Der.algorithm, Der.bitString]

def certificate : Der.Form :=
  let uniqueId (tag : UInt8) : Der.Form := .optional tag (.element tag Der.isBitString)
  signed
    [ .optional (Der.partTag 0) (.holding (Der.partTag 0) [Der.integer]),
      Der.integer, Der.algorithm, name,
      .holding Der.sequenceTag [Der.moment, Der.moment],
      name,
      .holding Der.sequenceTag [Der.algorithm, Der.bitString],
      uniqueId 0x81, uniqueId 0x82, extensionPart 3 ]

/-- What may follow a certificate: what it is trusted for, and what not. -/
def trust : Der.Form :=
  .holding Der.sequenceTag
    [ .optional Der.sequenceTag (.many Der.sequenceTag Der.identifier),
      .optional (Der.partTag 0) (.many (Der.partTag 0) Der.identifier),
      .optional 0x0C (.element 0x0C fun _ => true),
      .optional Der.octetStringTag Der.octetString,
      .optional (Der.partTag 1) (.many (Der.partTag 1) Der.algorithm) ]

/-- A list of revoked certificates. -/
def revocations : Der.Form :=
  let whole (fields : List Der.Form) : List UInt8 → Bool := Der.Form.fills fields
  let entry : Der.Form := .element Der.sequenceTag fun content =>
    whole [Der.integer, Der.moment] content ||
      whole [Der.integer, Der.moment, extensions] content
  let entries : Der.Form := .optional Der.sequenceTag (.many Der.sequenceTag entry)
  let nextUpdate : Der.Form := fun bytes =>
    if bytes.head?.any Der.momentTags.contains then Der.moment bytes else some bytes
  signed
    [ .optional Der.integerTag Der.integer, Der.algorithm, name, Der.moment, nextUpdate,
      entries, extensionPart 0 ]

/-! ## Headers -/

/-- The rest of a text after a given start. -/
def after? (start : String) (cs : List Char) : Option (List Char) :=
  if start.toList.isPrefixOf cs then some (cs.drop start.toList.length) else none

/-- The rest of a text after blanks and tabs. -/
def skipBlanks (cs : List Char) : List Char :=
  cs.dropWhile fun c => c == ' ' || c == '\t'

/-- Ciphers of headers with the bytes of their starting values. -/
def ciphers : List (String × Nat) :=
  [ ("des-cbc", 8), ("des-ede-cbc", 8), ("des-ede3-cbc", 8), ("aes-128-cbc", 16),
    ("aes-192-cbc", 16), ("aes-256-cbc", 16), ("camellia-128-cbc", 16),
    ("camellia-192-cbc", 16), ("camellia-256-cbc", 16), ("aria-128-cbc", 16),
    ("aria-192-cbc", 16), ("aria-256-cbc", 16) ]

/-- Whether a header says how its block is encrypted. -/
def saysEncrypted (header : List Char) : Bool :=
  let check : Option Unit := do
    let version ← after? "Proc-Type:" header
    let kind ← after? "4," (skipBlanks version)
    let lineEnd ← after? "ENCRYPTED" (skipBlanks kind)
    let next ← after? "\n" (lineEnd.dropWhile fun c => c == ' ' || c == '\t' || c == '\r')
    let method := skipBlanks (← after? "DEK-Info:" next)
    let endsName (c : Char) : Bool := c == ' ' || c == '\t' || c == ','
    let cipher := String.ofList ((method.takeWhile (!endsName ·)).map Char.toLower)
    let size ← ciphers.lookup cipher
    let start ← after? "," (skipBlanks (method.dropWhile (!endsName ·)))
    let digits := start.take (2 * size)
    if digits.length = 2 * size ∧ digits.all (fun c => (Text.hexValue? c).isSome) then some ()
    else none
  check.isSome

/-! ## Blocks -/

/-- What the name of a block says that it holds. -/
inductive BlockKind where
  | certificate
  /-- A certificate with what it is trusted for. -/
  | trusted
  | revocations
  /-- A private key, whose kind may be named. -/
  | key (label : String)
  /-- A private key that is encrypted as a whole. -/
  | lockedKey
  /-- Something that is not looked at. -/
  | unknown
deriving DecidableEq, Repr

/-- The kind of a block by its name. -/
def BlockKind.ofName (name : List Char) : BlockKind :=
  match String.ofList name with
  | "CERTIFICATE" | "X509 CERTIFICATE" => .certificate
  | "TRUSTED CERTIFICATE" => .trusted
  | "X509 CRL" => .revocations
  | "PRIVATE KEY" => .key ""
  | "ENCRYPTED PRIVATE KEY" => .lockedKey
  | _ =>
      let ending := " PRIVATE KEY".toList
      if ending.isSuffixOf name then .key (String.ofList (name.take (name.length - ending.length)))
      else .unknown

/-- Whether a block makes its file a certificate file. -/
def BlockKind.counts : BlockKind → Bool
  | .certificate | .trusted | .revocations => true
  | _ => false

/-- Whether bytes start with a private key, of the kind that a label names if it names one. -/
def isKey (label : String) (bytes : List UInt8) : Bool :=
  match PrivateKey.kind? bytes with
  | some kind => kind.label == label || !PrivateKey.knownLabels.contains label
  | none => false

/-- Whether bytes are a certificate and what may follow it. -/
def isTrusted (bytes : List UInt8) : Bool :=
  match certificate bytes with
  | some [] => true
  | some rest => (trust rest).isSome
  | none => false

/-- Whether a block is what its name says. -/
def isSound (block : Pem.Block) : Bool :=
  match BlockKind.ofName block.name with
  | .certificate => block.header.isEmpty && (certificate block.bytes).isSome
  | .trusted => block.header.isEmpty && isTrusted block.bytes
  | .revocations => block.header.isEmpty && (revocations block.bytes).isSome
  | .key label =>
      if block.header.isEmpty then isKey label block.bytes else saysEncrypted block.header
  | .lockedKey => block.header.isEmpty || saysEncrypted block.header
  | .unknown => true

/-- Whether a file is a certificate file. -/
def holdsCertificate (content : List UInt8) : Bool :=
  match Pem.blocks? content with
  | none => false
  | some blocks =>
      blocks.all isSound && blocks.any fun block => (BlockKind.ofName block.name).counts

end SchemaStore.Certificate
