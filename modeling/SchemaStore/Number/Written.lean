import SchemaStore.Number.Binary64
import SchemaStore.Text.Numeral

/-!
# Doubles in text

`Binary64.ofBare?` reads the bare form of a number: a sign, then digits with a
fraction and an exponent, or a word for infinity or no number.  `ofText?` and
`ofPlainText?` read the two forms that are built on it: the liberal one takes
digits of any script and single underscores between them, the one of input
values ignores where underscores stand inside the number.
-/

namespace SchemaStore.Binary64

/-- An infinite number. -/
def infinity (negative : Bool) : Binary64 :=
  ⟨UInt64.ofNat (2047 * pow2 52 + if negative then pow2 63 else 0)⟩

/-- What is no number. -/
def notANumber : Binary64 :=
  ⟨UInt64.ofNat (2047 * pow2 52 + pow2 51)⟩

/-- Whether the number is neither infinite nor none at all. -/
def isFinite (x : Binary64) : Bool :=
  match x.parts with
  | .finite .. => true
  | _ => false

/-- Read the bare form of a number. -/
def ofBare? (cs : List Char) : Option Binary64 :=
  let (negative, body) := Text.splitSign cs
  let word := String.ofList (body.map Char.toLower)
  if word = "inf" ∨ word = "infinity" then some (infinity negative)
  else if word = "nan" then some notANumber
  else
    (Text.readDecimal? cs).map fun (negative, digits, exponent) =>
      ofDecimal negative digits exponent

/-- A decimal digit of any script as the ASCII digit of its value. -/
def plainDigit (c : Char) : Char :=
  match Text.digitValue? c with
  | some value => Char.ofNat (0x30 + value)
  | none => c

/-- A number without its underscores, each of which has to stand between digits. -/
def dropInnerUnderscores? (before : Char) : List Char → Option (List Char)
  | [] => if before = '_' then none else some []
  | c :: rest =>
      if c = '_' then
        if before.isDigit then dropInnerUnderscores? c rest else none
      else if before = '_' ∧ !c.isDigit then none
      else (c :: ·) <$> dropInnerUnderscores? c rest

/-- Read a number in the liberal form. -/
def ofText? (s : String) : Option Binary64 :=
  let cs := (Text.trimWhile Text.isPlainBlank s.toList).map plainDigit
  (dropInnerUnderscores? ' ' cs).bind ofBare?

/-- Read a number in the form of an input value.  White space around a number
with underscores is not removed. -/
def ofPlainText? (s : String) : Option Binary64 :=
  match ofBare? (Text.trimWhile Text.isPlainBlank s.toList) with
  | some x => some x
  | none => if s.contains '_' then ofBare? (Text.dropUnderscores s.toList) else none

end SchemaStore.Binary64
