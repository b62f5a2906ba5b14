import SchemaStore.Number.Written
import SchemaStore.Text.Percent
import SchemaStore.Value

/-!
# Reading JSON

`Json.parse?` reads a JSON text as a value.  The entries of objects keep their
order; a repeated key keeps its place and takes the last value.
-/

namespace SchemaStore.Json

/-- Whether a character is white space. -/
def isBlank (c : Char) : Bool :=
  c == ' ' || c == '\n' || c == '\r' || c == '\t'

/-- The text without the white space before it. -/
def skipBlanks (cs : List Char) : List Char :=
  cs.dropWhile isBlank

/-- The number of four hexadecimal digits. -/
def readUnit? : List Char → Option (Nat × List Char)
  | a :: b :: c :: d :: rest => do
      let digits ← [a, b, c, d].mapM Text.hexValue?
      return (digits.foldl (fun n digit => 16 * n + digit) 0, rest)
  | _ => none

/-- The character that two units of a pair stand for. -/
def pairedChar (high low : Nat) : Char :=
  Char.ofNat (0x10000 + (high - 0xD800) * 0x400 + (low - 0xDC00))

/-- The character after a backslash, and the text after it.  A unit that belongs to no pair is
replaced. -/
def readEscape? : List Char → Option (Char × List Char)
  | 'n' :: rest => some ('\n', rest)
  | 't' :: rest => some ('\t', rest)
  | 'r' :: rest => some ('\r', rest)
  | 'b' :: rest => some ('\x08', rest)
  | 'f' :: rest => some ('\x0c', rest)
  | 'u' :: rest => do
      let (high, afterHigh) ← readUnit? rest
      if 0xD800 ≤ high ∧ high < 0xE000 then
        match afterHigh with
        | '\\' :: 'u' :: second => do
            let (low, afterLow) ← readUnit? second
            if high < 0xDC00 ∧ 0xDC00 ≤ low ∧ low < 0xE000 then
              return (pairedChar high low, afterLow)
            else
              return ('\uFFFD', afterHigh)
        | _ => return ('\uFFFD', afterHigh)
      else
        return (Char.ofNat high, afterHigh)
  | c :: rest => some (c, rest)
  | [] => none

/-- The rest of a string after the characters in `acc`, last one first, and the text after it.
Every step reads a character, so `fuel` need not exceed the length of the text. -/
def readString? (acc : List Char) (fuel : Nat) (cs : List Char) :
    Option (String × List Char) :=
  match fuel, cs with
  | _, '\x22' :: rest => some (String.ofList acc.reverse, rest)
  | fuel + 1, '\\' :: rest =>
      match readEscape? rest with
      | some (c, rest) => readString? (c :: acc) fuel rest
      | none => none
  | fuel + 1, c :: rest => readString? (c :: acc) fuel rest
  | _, _ => none

/-- A number; one with a fraction or an exponent is not an integer. -/
def readNumber? (cs : List Char) : Option (Scalar × List Char) := do
  let isPart (c : Char) : Bool := c.isDigit || ['-', '+', '.', 'e', 'E'].contains c
  let isFractional (c : Char) : Bool := ['.', 'e', 'E'].contains c
  let part := cs.takeWhile isPart
  let rest := cs.dropWhile isPart
  if part.any isFractional then
    let (negative, digits, exponent) ← Text.readDecimal? part
    return (.real (.ofDecimal negative digits exponent), rest)
  else
    let (negative, digits) := Text.splitSign part
    if digits.isEmpty || !digits.all Char.isDigit then none
    else return (.int (Text.signed negative (Text.asciiDigitsValue digits)), rest)

mutual

/-- A value and the text after it. -/
def readValue? : Nat → List Char → Option (Value × List Char)
  | 0, _ => none
  | fuel + 1, cs =>
      match skipBlanks cs with
      | 'n' :: 'u' :: 'l' :: 'l' :: rest => some (.null, rest)
      | 't' :: 'r' :: 'u' :: 'e' :: rest => some (.bool true, rest)
      | 'f' :: 'a' :: 'l' :: 's' :: 'e' :: rest => some (.bool false, rest)
      | 'N' :: 'a' :: 'N' :: rest => some (.scalar (.real .notANumber), rest)
      | 'I' :: 'n' :: 'f' :: 'i' :: 'n' :: 'i' :: 't' :: 'y' :: rest =>
          some (.scalar (.real (.infinity false)), rest)
      | '-' :: 'I' :: 'n' :: 'f' :: 'i' :: 'n' :: 'i' :: 't' :: 'y' :: rest =>
          some (.scalar (.real (.infinity true)), rest)
      | '\x22' :: rest => do
          let (s, rest) ← readString? [] fuel rest
          return (.text s, rest)
      | '[' :: rest =>
          match skipBlanks rest with
          | ']' :: rest => some (.list [], rest)
          | _ => do
              let (items, rest) ← readItems? fuel rest
              return (.list items, rest)
      | '\x7b' :: rest =>
          match skipBlanks rest with
          | '\x7d' :: rest => some (.object [], rest)
          | _ => do
              let (entries, rest) ← readEntries? fuel rest
              return (.object (Record.putAll [] entries), rest)
      | other => do
          let (number, rest) ← readNumber? other
          return (.scalar number, rest)

/-- The items of a list after its opening bracket, and the text after it. -/
def readItems? : Nat → List Char → Option (List Value × List Char)
  | 0, _ => none
  | fuel + 1, cs => do
      let (item, rest) ← readValue? fuel cs
      match skipBlanks rest with
      | ',' :: rest =>
          let (items, rest) ← readItems? fuel rest
          return (item :: items, rest)
      | ']' :: rest => return ([item], rest)
      | _ => none

/-- The entries of an object after its opening brace, and the text after it. -/
def readEntries? : Nat → List Char → Option (List (String × Value) × List Char)
  | 0, _ => none
  | fuel + 1, cs => do
      match skipBlanks cs with
      | '\x22' :: rest =>
          let (key, rest) ← readString? [] fuel rest
          match skipBlanks rest with
          | ':' :: rest =>
              let (value, rest) ← readValue? fuel rest
              let entry := (key, value)
              match skipBlanks rest with
              | ',' :: rest =>
                  let (entries, rest) ← readEntries? fuel rest
                  return (entry :: entries, rest)
              | '\x7d' :: rest => return ([entry], rest)
              | _ => none
          | _ => none
      | _ => none

end

/-- Read a JSON text.  Nested values and their lists take at most two steps for each character. -/
def parse? (text : String) : Option Value := do
  let cs := text.toList
  let (value, rest) ← readValue? (2 * cs.length + 1) cs
  if (skipBlanks rest).isEmpty then some value else none

end SchemaStore.Json
