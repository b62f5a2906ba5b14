import SchemaStore.Text.Blank
import SchemaStore.Text.Class

/-!
# Numbers in text

`readInteger` reads an integer in the liberal form: white space around it, a
sign, decimal digits of any script and single underscores between digits.
`readPlainInteger` reads the form of an input value, which takes ASCII digits
only and allows a fraction of zeros.  Both refuse to read numbers that are too
long.  `readDecimal?` reads a number with a fraction and an exponent.
-/

namespace SchemaStore.Text

/-- Why a text is not read as an integer. -/
inductive NumeralDefect where
  | malformed
  /-- It has more digits than are read. -/
  | oversized (digits : Nat)
deriving DecidableEq, Repr

/-- The greatest number of digits that an integer is read with. -/
def maxDigits : Nat := 4300

/-- The value of a row of digits, most significant first. -/
def digitsValue (digits : List Nat) : Nat :=
  digits.foldl (fun value digit => 10 * value + digit) 0

/-- The digits of a row in which single underscores may stand between digits. -/
def readDigits? (value? : Char → Option Nat) : List Char → Option (List Nat)
  | [] => none
  | [c] => (value? c).map ([·])
  | c :: '_' :: rest =>
      match value? c, readDigits? value? rest with
      | some digit, some digits => some (digit :: digits)
      | _, _ => none
  | c :: rest =>
      match value? c, readDigits? value? rest with
      | some digit, some digits => some (digit :: digits)
      | _, _ => none

/-- A sign and the rest of the text. -/
def splitSign : List Char → Bool × List Char
  | '-' :: rest => (true, rest)
  | '+' :: rest => (false, rest)
  | cs => (false, cs)

/-- The integer with the given sign and magnitude. -/
def signed (negative : Bool) (magnitude : Nat) : Int :=
  if negative then -(magnitude : Int) else magnitude

/-- Read an integer in the liberal form. -/
def readInteger (s : String) : Except NumeralDefect Int :=
  let (negative, body) := splitSign (trimWhile isPlainBlank s.toList)
  match readDigits? digitValue? body with
  | none => .error .malformed
  | some digits =>
      if digits.length > maxDigits then .error (.oversized digits.length)
      else .ok (signed negative (digitsValue digits))

def asciiDigit? (c : Char) : Option Nat :=
  if c.isDigit then some (c.toNat - 0x30) else none

def asciiDigitsValue (digits : List Char) : Nat :=
  digitsValue (digits.filterMap asciiDigit?)

/-- What is left of a number after zeros and underscores at its start, of which
the last one is given. -/
def afterZeros? (last : Char) : List Char → Option (List Char)
  | [] => some [last]
  | c :: rest =>
      if c = '0' ∨ c = '_' then afterZeros? c rest
      else if c = '.' then some (last :: c :: rest)
      else if c.isDigit ∨ c = '-' then some (c :: rest)
      else none

/-- A number without the zeros at its start. -/
def dropLeadingZeros? : List Char → Option (List Char)
  | '0' :: rest => afterZeros? '0' rest
  | c :: rest => if c.isDigit ∨ c = '-' then some (c :: rest) else none
  | [] => none

/-- A number without its fraction, which has to consist of zeros. -/
def dropZeroFraction? (cs : List Char) : Option (List Char) :=
  match cs.dropWhile (· != '.') with
  | [] => some cs
  | _ :: fraction =>
      if !fraction.isEmpty && fraction.all (· == '0') then some (cs.takeWhile (· != '.'))
      else none

/-- A number without underscores, if none stands at an end or next to another one. -/
def dropUnderscores (cs : List Char) : List Char :=
  if cs.head? = some '_' ∨ cs.getLast? = some '_' ∨ occursIn ['_', '_'] cs then cs
  else cs.filter (· != '_')

/-- Read an integer that is written in the only possible way: no zeros at its start. -/
def readCanonical (cs : List Char) : Except NumeralDefect Int :=
  let negative := cs.head? == some '-'
  let body := if negative then cs.drop 1 else cs
  let digits := if body.head? == some '0' then ['0'] else body.takeWhile Char.isDigit
  let length := digits.length + if negative then 1 else 0
  if digits.isEmpty then .error .malformed
  else if length > maxDigits then .error (.oversized length)
  else if digits.length < body.length then .error .malformed
  else .ok (signed negative (asciiDigitsValue digits))

/-- Read an integer in the form of an input value. -/
def readPlainInteger (s : String) : Except NumeralDefect Int :=
  let unsigned? := match trimWhile isPlainBlank s.toList with
    | '+' :: '-' :: _ => none
    | '+' :: rest => some rest
    | cs => some cs
  match unsigned?.bind fun cs => (dropLeadingZeros? cs).bind dropZeroFraction? with
  | none => .error .malformed
  | some cs => readCanonical (dropUnderscores cs)

/-- Sign, digits and exponent of a decimal text. -/
def readDecimal? (cs : List Char) : Option (Bool × Nat × Int) :=
  let (negative, body) := splitSign cs
  let isMark (c : Char) : Bool := c == 'e' || c == 'E'
  let mantissa := body.takeWhile (!isMark ·)
  let whole := mantissa.takeWhile (· != '.')
  let fraction := (mantissa.dropWhile (· != '.')).drop 1
  let digits := whole ++ fraction
  if digits.isEmpty || !digits.all Char.isDigit then
    none
  else
    let value := asciiDigitsValue digits
    match body.dropWhile (!isMark ·) with
    | [] => some (negative, value, -(fraction.length : Int))
    | _ :: exponentText =>
        let (below, exponentDigits) := splitSign exponentText
        if exponentDigits.isEmpty || !exponentDigits.all Char.isDigit then none
        else
          some (negative, value,
            signed below (asciiDigitsValue exponentDigits) - fraction.length)

end SchemaStore.Text
