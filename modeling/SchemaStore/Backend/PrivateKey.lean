import SchemaStore.Backend.Der

/-!
# Private keys

Private keys may stand beside certificates in one file.  `PrivateKey.kind?`
tells which kind of key bytes hold: by themselves, or wrapped together with the
algorithm that they are for.
-/

namespace SchemaStore

/-- The kinds of private keys. -/
inductive PrivateKey where
  | rsa
  | ec
  | ed25519
  | x25519
  | ed448
  | x448
deriving DecidableEq, Repr

namespace PrivateKey

/-- The word for a kind of key in the name of a block. -/
def label : PrivateKey → String
  | .rsa => "RSA"
  | .ec => "EC"
  | .ed25519 => "ED25519"
  | .x25519 => "X25519"
  | .ed448 => "ED448"
  | .x448 => "X448"

/-- Words for kinds of keys; any other word in the name of a block leaves its kind open. -/
def knownLabels : List String :=
  ["RSA", "EC", "ED25519", "X25519", "ED448", "X448", "DSA", "DH", "X9.42 DH", "RSA-PSS", "SM2"]

/-- The algorithm of a kind of key, as the content of its identifier. -/
def algorithm : PrivateKey → List UInt8
  | .rsa => [0x2A, 0x86, 0x48, 0x86, 0xF7, 0x0D, 0x01, 0x01, 0x01]
  | .ec => [0x2A, 0x86, 0x48, 0xCE, 0x3D, 0x02, 0x01]
  | .x25519 => [0x2B, 0x65, 0x6E]
  | .x448 => [0x2B, 0x65, 0x6F]
  | .ed25519 => [0x2B, 0x65, 0x70]
  | .ed448 => [0x2B, 0x65, 0x71]

def all : List PrivateKey := [.rsa, .ec, .ed25519, .x25519, .ed448, .x448]

/-- The usual curves, as the contents of their identifiers, with the bytes of a coordinate. -/
def curves : List (List UInt8 × Nat) :=
  [ ([0x2A, 0x86, 0x48, 0xCE, 0x3D, 0x03, 0x01, 0x01], 24),
    ([0x2A, 0x86, 0x48, 0xCE, 0x3D, 0x03, 0x01, 0x07], 32),
    ([0x2B, 0x81, 0x04, 0x00, 0x0A], 32),
    ([0x2B, 0x81, 0x04, 0x00, 0x21], 28),
    ([0x2B, 0x81, 0x04, 0x00, 0x22], 48),
    ([0x2B, 0x81, 0x04, 0x00, 0x23], 66) ]

/-- The bytes of a coordinate on the curve that an element names. -/
def coordinateSize? (curve : List UInt8) : Option Nat := do
  let (tag, content, _) ← Der.readElement? curve
  if tag = 0x06 then (curves.find? (·.1 == content)).map (·.2) else none

/-- Whether a content is a point with coordinates of a size, after the count of unused bits. -/
def isPoint (size : Nat) : List UInt8 → Bool
  | 0 :: kind :: coordinates =>
      if kind = 0x04 then coordinates.length == 2 * size
      else (kind = 0x02 || kind = 0x03) && coordinates.length == size
  | _ => false

/-- Whether bytes start with an RSA key: a version and eight numbers. -/
def isRsa (bytes : List UInt8) : Bool :=
  (Der.Form.holding Der.sequenceTag
    (.element Der.integerTag (· == [0]) :: List.replicate 8 Der.integer) bytes).isSome

/-- Whether bytes start with a key on a curve: the one it names, or else the one it is for. -/
def isEc (curve : List UInt8) (bytes : List UInt8) : Bool :=
  let named : List UInt8 := (do
    let (_, content, _) ← Der.readElement? bytes
    let (_, _, afterVersion) ← Der.readElement? content
    let (_, _, afterSecret) ← Der.readElement? afterVersion
    let (tag, named, _) ← Der.readElement? afterSecret
    if tag = Der.partTag 0 then return named else none).getD curve
  match coordinateSize? named with
  | none => false
  | some size =>
      (Der.Form.holding Der.sequenceTag
        [ Der.integer, Der.octetString,
          .optional (Der.partTag 0) (.holding (Der.partTag 0) [Der.identifier]),
          .optional (Der.partTag 1) (.holding (Der.partTag 1)
            [.element Der.bitStringTag (isPoint size)]) ] bytes).isSome

/-- Whether bytes are a key of a kind whose algorithm has the given parameters. -/
def isWrapped (kind : PrivateKey) (parameters key : List UInt8) : Bool :=
  let secret (size : Nat) : Bool :=
    parameters.isEmpty &&
      (Der.Form.element Der.octetStringTag (·.length == size) key).isSome
  match kind with
  | .rsa => isRsa key
  | .ec => isEc parameters key
  | .ed25519 | .x25519 => secret 32
  | .ed448 => secret 57
  | .x448 => secret 56

/-- The kind of a key that is wrapped with its algorithm. -/
def wrappedKind? (bytes : List UInt8) : Option PrivateKey := do
  let _ ← Der.Form.holding Der.sequenceTag
    [ .element Der.integerTag (· == [0]), Der.algorithm, Der.octetString,
      .optional (Der.partTag 0) (.many (Der.partTag 0) Der.anything) ] bytes
  let (_, content, _) ← Der.readElement? bytes
  let (_, _, afterVersion) ← Der.readElement? content
  let (_, algorithm, afterAlgorithm) ← Der.readElement? afterVersion
  let (_, identifier, parameters) ← Der.readElement? algorithm
  let (_, key, _) ← Der.readElement? afterAlgorithm
  all.find? fun kind => kind.algorithm == identifier && kind.isWrapped parameters key

/-- The kind of the key that bytes start with. -/
def kind? (bytes : List UInt8) : Option PrivateKey :=
  if isRsa bytes then some .rsa
  else if isEc [] bytes then some .ec
  else wrappedKind? bytes

end PrivateKey
end SchemaStore
