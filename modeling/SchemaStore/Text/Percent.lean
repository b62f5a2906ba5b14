import SchemaStore.Text.Blank

/-!
# Percent encoding

`unescape` replaces `%XX` sequences by the characters whose UTF-8 bytes they
spell; bytes that spell nothing become the replacement character.  `queryPairs`
reads the `key=value` pairs of a query text.
-/

namespace SchemaStore.Text

/-- The value of a hexadecimal digit. -/
def hexValue? (c : Char) : Option Nat :=
  if c.isDigit then some (c.toNat - 0x30)
  else if 'a' ≤ c ∧ c ≤ 'f' then some (c.toNat - 0x57)
  else if 'A' ≤ c ∧ c ≤ 'F' then some (c.toNat - 0x37)
  else none

/-- The shape of a UTF-8 sequence by its first byte: how many bytes follow, the
bits of the first byte, and the range of the second byte. -/
def leadByte? (byte : Nat) : Option (Nat × Nat × Nat × Nat) :=
  if byte < 0x80 then some (0, byte, 0x80, 0xBF)
  else if 0xC2 ≤ byte ∧ byte ≤ 0xDF then some (1, byte - 0xC0, 0x80, 0xBF)
  else if byte = 0xE0 then some (2, 0, 0xA0, 0xBF)
  else if byte = 0xED then some (2, 0xD, 0x80, 0x9F)
  else if 0xE1 ≤ byte ∧ byte ≤ 0xEF then some (2, byte - 0xE0, 0x80, 0xBF)
  else if byte = 0xF0 then some (3, 0, 0x90, 0xBF)
  else if byte = 0xF4 then some (3, 4, 0x80, 0x8F)
  else if 0xF1 ≤ byte ∧ byte ≤ 0xF3 then some (3, byte - 0xF0, 0x80, 0xBF)
  else none

/-- Gather the bytes that follow a lead byte: the code point, or the number of bytes that fit. -/
def continuation : Nat → Nat → Nat → Nat → Nat → List Nat → Except Nat Nat
  | 0, code, _, _, _, _ => .ok code
  | _ + 1, _, _, _, taken, [] => .error taken
  | more + 1, code, low, high, taken, byte :: rest =>
      if low ≤ byte ∧ byte ≤ high then
        continuation more (code * 0x40 + (byte - 0x80)) 0x80 0xBF (taken + 1) rest
      else
        .error taken

/-- The characters that bytes spell; what spells none becomes U+FFFD, and is counted in `bad`. -/
def decodeBytes (bytes : List Nat) : List (Option Char) :=
  match bytes with
  | [] => []
  | byte :: rest =>
      match leadByte? byte with
      | none => none :: decodeBytes rest
      | some (more, bits, low, high) =>
          match continuation more bits low high 0 rest with
          | .ok code => some (Char.ofNat code) :: decodeBytes (rest.drop more)
          | .error taken => none :: decodeBytes (rest.drop taken)
termination_by bytes.length
decreasing_by
  all_goals
    simp only [List.length_cons, List.length_drop]
    omega

/-- The text that bytes spell, if all of them do. -/
def decodeUtf8? (bytes : List UInt8) : Option String :=
  let chars := decodeBytes (bytes.map UInt8.toNat)
  if chars.all Option.isSome then some (String.ofList (chars.filterMap id)) else none

/-- The bytes of a run of ASCII text in which `%XX` stands for a byte. -/
def unescapeRun : List Char → List Nat
  | [] => []
  | '%' :: a :: b :: rest =>
      match hexValue? a, hexValue? b with
      | some high, some low => (16 * high + low) :: unescapeRun rest
      | _, _ => '%'.toNat :: unescapeRun (a :: b :: rest)
  | c :: rest => c.toNat :: unescapeRun rest

/-- Replace the `%XX` sequences of each run of ASCII text. -/
def unescapeFrom (run : List Char) : List Char → List Char
  | [] => (decodeBytes (unescapeRun run.reverse)).map (·.getD '\uFFFD')
  | c :: rest =>
      if c.toNat < 0x80 then
        unescapeFrom (c :: run) rest
      else
        (decodeBytes (unescapeRun run.reverse)).map (·.getD '\uFFFD') ++ c :: unescapeFrom [] rest

/-- Replace the `%XX` sequences of a text. -/
def unescape (cs : List Char) : List Char :=
  unescapeFrom [] cs

/-- Cut a text at every occurrence of a character. -/
def splitAt (separator : Char) : List Char → List (List Char)
  | [] => [[]]
  | c :: rest =>
      if c = separator then
        [] :: splitAt separator rest
      else
        match splitAt separator rest with
        | [] => [[c]]
        | part :: parts => (c :: part) :: parts

/-- The text of a query part: a plus sign is a blank. -/
def unescapeQuery (cs : List Char) : String :=
  String.ofList (unescape (cs.map fun c => if c = '+' then ' ' else c))

/-- The pairs of a query text; a pair without a value is left out. -/
def queryPairs (cs : List Char) : List (String × String) :=
  (splitAt '&' cs).filterMap fun part =>
    match part.dropWhile (· != '=') with
    | _ :: value =>
        if value.isEmpty then none
        else some (unescapeQuery (part.takeWhile (· != '=')), unescapeQuery value)
    | [] => none

end SchemaStore.Text
