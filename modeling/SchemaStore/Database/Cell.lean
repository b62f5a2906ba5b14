import SchemaStore.Number.Decimal
import SchemaStore.Table

/-!
# Cells

A `Cell` is a stored value.  A column prefers texts or numbers: what is stored
in it or compared with it is converted if nothing is lost.  Cells are ordered by
their kind first, missing values before numbers before texts before bytes.
-/

namespace SchemaStore

/-- A stored value. -/
inductive Cell where
  | null
  | int (n : Int)
  | real (x : Binary64)
  | text (s : String)
  | blob (octets : List UInt8)
deriving DecidableEq, Repr, Inhabited

/-- What a column prefers to store. -/
inductive Affinity where
  | text
  | number
deriving DecidableEq, Repr

/-- The preference of a column type. -/
def ColumnType.affinity : ColumnType → Affinity
  | .varchar | .text => .text
  | .integer | .timestamp => .number

namespace Cell

/-- The place of a kind of value in the order of cells. -/
def rank : Cell → Nat
  | .null => 0
  | .int _ | .real _ => 1
  | .text _ => 2
  | .blob _ => 3

def compareBytes : List UInt8 → List UInt8 → Ordering
  | [], [] => .eq
  | [], _ => .lt
  | _, [] => .gt
  | a :: as, b :: bs => (Ord.compare a b).then (compareBytes as bs)

def compare : Cell → Cell → Ordering
  | .int a, .int b => Ord.compare a b
  | .int n, .real x => (x.compareInt n).swap
  | .real x, .int n => x.compareInt n
  | .real x, .real y => x.compare y
  | .text s, .text t => Ord.compare s t
  | .blob a, .blob b => compareBytes a b
  | a, b => Ord.compare a.rank b.rank

/-- The greatest magnitude of a stored integer, plus one. -/
def integerBound : Nat := pow2 63

/-- Whether an integer can be stored. -/
def isStorable (n : Int) : Bool :=
  -(integerBound : Int) ≤ n && n < integerBound

/-- An integer; one that cannot be stored is rounded. -/
def ofInt (n : Int) : Cell :=
  if isStorable n then .int n else .real (.ofInt n)

/-- A number with a fraction, as an integer if it is one. -/
def ofReal (x : Binary64) : Cell :=
  match x.toInt? with
  | some n => if n.natAbs < integerBound - 1 then .int n else .real x
  | none => .real x

/-- White space around a number. -/
def isBlank (c : Char) : Bool :=
  c == ' ' || (0x9 ≤ c.toNat && c.toNat ≤ 0xD)

/-- The number that a text is written as. -/
def readNumber? (s : String) : Option Cell :=
  let cs := Text.trimWhile isBlank s.toList
  let isPart (c : Char) : Bool := c.isDigit || ['+', '-', '.', 'e', 'E'].contains c
  let isFractional (c : Char) : Bool := ['.', 'e', 'E'].contains c
  if !cs.all isPart then none
  else
    (Text.readDecimal? cs).map fun (negative, digits, exponent) =>
      let n := Text.signed negative digits
      if !cs.any isFractional && isStorable n then .int n
      else ofReal (.ofDecimal negative digits exponent)

/-- A cell as a column prefers it. -/
def prefer : Affinity → Cell → Cell
  | .text, .int n => .text (toString n)
  | .text, .real x => .text (Decimal.rounded x)
  | .number, .real x => ofReal x
  | .number, .text s => (readNumber? s).getD (.text s)
  | _, cell => cell

/-- A cell of one column as it is compared with a column of another preference: a text is
compared with numbers as the number that it is written as. -/
def against (own other : Affinity) (cell : Cell) : Cell :=
  match own, other with
  | .text, .number => cell.prefer .number
  | _, _ => cell

end Cell
end SchemaStore
