import SchemaStore.Number.Decimal
import SchemaStore.Record
import SchemaStore.Text.Blank
import SchemaStore.Text.Quoted

/-!
# Dynamic values

Filters, data and rows carry values whose type is known only when they are
read.  A `Scalar` is one cell; a `Value` may also be a sequence or an object.
`Value.display` is the text of a value in messages, and `Value.literal` its text
inside a larger value.
-/

namespace SchemaStore

/-- A date and a time of day, perhaps with its offset from universal time. -/
structure Moment where
  year : Nat
  month : Nat
  day : Nat
  hour : Nat := 0
  minute : Nat := 0
  second : Nat := 0
  microsecond : Nat := 0
  /-- The offset in microseconds. -/
  offset : Option Int := none
deriving DecidableEq, Repr

/-- A single value. -/
inductive Scalar where
  | null
  | bool (b : Bool)
  | int (n : Int)
  | real (x : Binary64)
  | text (s : String)
  | bytes (octets : List UInt8)
  | moment (m : Moment)
deriving DecidableEq, Repr, Inhabited

inductive SequenceKind where
  | list
  | tuple
  | set
deriving DecidableEq, Repr

/-- A value of any shape. -/
inductive Value where
  | scalar (s : Scalar)
  | sequence (kind : SequenceKind) (items : List Value)
  | object (entries : List (String × Value))
deriving Repr, Inhabited

/-- A row of a result: values by column label. -/
abbrev Row := Record Value

/-- Decimal digits of a number, at least `width` of them. -/
def padDigits (width n : Nat) : String :=
  let digits := Nat.toDigits 10 n
  String.ofList (List.replicate (width - digits.length) '0' ++ digits)

namespace Moment

/-- The date, as `YYYY-MM-DD`. -/
def dateText (m : Moment) : String :=
  padDigits 4 m.year ++ "-" ++ padDigits 2 m.month ++ "-" ++ padDigits 2 m.day

/-- The time of day, with microseconds when asked for. -/
def timeText (m : Moment) (micros : Bool) : String :=
  let base := padDigits 2 m.hour ++ ":" ++ padDigits 2 m.minute ++ ":" ++ padDigits 2 m.second
  if micros then base ++ "." ++ padDigits 6 m.microsecond else base

/-- The text of an offset; seconds and microseconds only when there are any. -/
def offsetText (offset : Int) : String :=
  let micros := offset.natAbs % 1000000
  let seconds := offset.natAbs / 1000000
  let sign := if offset < 0 then "-" else "+"
  let tail :=
    if micros != 0 then ":" ++ padDigits 2 (seconds % 60) ++ "." ++ padDigits 6 micros
    else if seconds % 60 != 0 then ":" ++ padDigits 2 (seconds % 60)
    else ""
  sign ++ padDigits 2 (seconds / 3600) ++ ":" ++ padDigits 2 (seconds / 60 % 60) ++ tail

/-- Date and time with the given separator; microseconds only when there are any. -/
def display (m : Moment) (separator : String) : String :=
  m.dateText ++ separator ++ m.timeText (m.microsecond != 0) ++
    (m.offset.map offsetText).getD ""

/-- Date and time with microseconds, in the stored form. -/
def stored (m : Moment) : String :=
  m.dateText ++ " " ++ m.timeText true

/-- The components without the trailing ones that are left out when zero. -/
def components (m : Moment) : List Nat :=
  let tail :=
    if m.microsecond != 0 then [m.second, m.microsecond]
    else if m.second != 0 then [m.second]
    else []
  [m.year, m.month, m.day, m.hour, m.minute] ++ tail

end Moment

namespace Scalar

/-- Whether a scalar counts as true. -/
def truthy : Scalar → Bool
  | .null => false
  | .bool b => b
  | .int n => n != 0
  | .real x => !x.isZero
  | .text s => !s.isEmpty
  | .bytes octets => !octets.isEmpty
  | .moment _ => true

def typeName : Scalar → String
  | .null => "NoneType"
  | .bool _ => "bool"
  | .int _ => "int"
  | .real _ => "float"
  | .text _ => "str"
  | .bytes _ => "bytes"
  | .moment _ => "datetime"

/-- One byte inside a byte text between the given quotes. -/
def escapeByte (quote : Char) (octet : UInt8) : List Char :=
  let c := Char.ofNat octet.toNat
  if octet.toNat < 0x80 then Text.escapeChar quote c
  else ['\\', 'x'] ++ Text.hexDigits 2 octet.toNat

/-- Bytes as a quoted text with a leading letter. -/
def bytesText (octets : List UInt8) : String :=
  let quote := Text.quoteFor (octets.map fun octet => Char.ofNat octet.toNat)
  String.ofList ('b' :: quote :: octets.flatMap (escapeByte quote) ++ [quote])

/-- The text of a scalar inside a larger value. -/
def literal : Scalar → String
  | .null => "None"
  | .bool true => "True"
  | .bool false => "False"
  | .int n => toString n
  | .real x => Decimal.shortest x
  | .text s => Text.quoted s
  | .bytes octets => bytesText octets
  | .moment m => "datetime.datetime(" ++ Text.joinWith ", " (m.components.map toString) ++ ")"

/-- The text of a scalar in messages. -/
def display : Scalar → String
  | .text s => s
  | .moment m => m.display " "
  | other => other.literal

end Scalar

namespace Value

instance : Coe Scalar Value := ⟨.scalar⟩

def null : Value := .scalar .null

def text (s : String) : Value := .scalar (.text s)

def int (n : Int) : Value := .scalar (.int n)

def bool (b : Bool) : Value := .scalar (.bool b)

def list (items : List Value) : Value := .sequence .list items

def texts (items : List String) : Value := list (items.map text)

/-- A value that may be missing. -/
def optional {α : Type} (value : α → Value) : Option α → Value
  | some a => value a
  | none => null

def optionalText : Option String → Value := optional text

/-- Whether a value is the missing one. -/
def isNull : Value → Bool
  | .scalar .null => true
  | _ => false

/-- Whether a value counts as true; containers do unless they are empty. -/
def truthy : Value → Bool
  | .scalar s => s.truthy
  | .sequence _ items => !items.isEmpty
  | .object entries => !entries.isEmpty

def typeName : Value → String
  | .scalar s => s.typeName
  | .sequence .list _ => "list"
  | .sequence .tuple _ => "tuple"
  | .sequence .set _ => "set"
  | .object _ => "dict"

/-- The items of a sequence of any kind; anything else has none. -/
def items : Value → List Value
  | .sequence _ items => items
  | _ => []

/-- The items of what is given as a sequence of names: a text gives its letters and an object
its keys. -/
def elements : Value → List Value
  | .sequence _ items => items
  | .object entries => entries.map fun entry => .text entry.1
  | .scalar (.text s) => s.toList.map fun c => .text c.toString
  | .scalar _ => []

/-- The entries of an object; anything else has none. -/
def entries : Value → Record Value
  | .object entries => entries
  | _ => []

def item? (value : Value) (key : String) : Option Value :=
  value.entries.get? key

/-- The value under a key of an object; a missing one is null. -/
def item (value : Value) (key : String) : Value :=
  (value.item? key).getD null

def text? : Value → Option String
  | .scalar (.text s) => some s
  | _ => none

mutual

/-- Whether a value can be looked up among names: a single value, or a tuple of such. -/
def isKey : Value → Bool
  | .scalar _ => true
  | .sequence .tuple items => areKeys items
  | _ => false

/-- Whether all of several values can be looked up among names. -/
def areKeys : List Value → Bool
  | [] => true
  | item :: rest => isKey item && areKeys rest

end

mutual

/-- The text of a value inside a larger one. -/
def literal : Value → String
  | .scalar s => s.literal
  | .sequence .list items => "[" ++ Text.joinWith ", " (literals items) ++ "]"
  | .sequence .tuple [item] => "(" ++ literal item ++ ",)"
  | .sequence .tuple items => "(" ++ Text.joinWith ", " (literals items) ++ ")"
  | .sequence .set [] => "set()"
  | .sequence .set items => "\x7b" ++ Text.joinWith ", " (literals items) ++ "\x7d"
  | .object entries => "\x7b" ++ Text.joinWith ", " (entryLiterals entries) ++ "\x7d"

/-- The texts of several values. -/
def literals : List Value → List String
  | [] => []
  | item :: rest => literal item :: literals rest

/-- The texts of the entries of an object. -/
def entryLiterals : List (String × Value) → List String
  | [] => []
  | (key, value) :: rest => (Text.quoted key ++ ": " ++ literal value) :: entryLiterals rest

end

/-- The text of a value in messages. -/
def display : Value → String
  | .scalar s => s.display
  | other => other.literal

end Value
end SchemaStore
