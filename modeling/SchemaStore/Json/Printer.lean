import SchemaStore.Value

/-!
# Printing JSON

`Json.print` writes a value as a JSON text on one line.  The entries of objects
keep their order, and only the characters that have to be escaped are.
-/

namespace SchemaStore.Json

/-- One character inside a string. -/
def escapeChar (c : Char) : List Char :=
  match c with
  | '\x22' => ['\\', '\x22']
  | '\\' => ['\\', '\\']
  | '\n' => ['\\', 'n']
  | '\r' => ['\\', 'r']
  | '\t' => ['\\', 't']
  | '\x08' => ['\\', 'b']
  | '\x0c' => ['\\', 'f']
  | _ => if c.toNat < 0x20 then ['\\', 'u'] ++ Text.hexDigits 4 c.toNat else [c]

def printText (s : String) : String :=
  String.ofList ('\x22' :: s.toList.flatMap escapeChar ++ ['\x22'])

/-- A number with a fraction; an infinite one and none at all are written as words. -/
def printReal (x : Binary64) : String :=
  match x.parts with
  | .finite .. => Decimal.shortest x
  | .infinite negative => if negative then "-Infinity" else "Infinity"
  | .notANumber => "NaN"

/-- A single value.  Bytes and moments, which JSON lacks, are written as their texts. -/
def printScalar : Scalar → String
  | .null => "null"
  | .bool b => if b then "true" else "false"
  | .int n => toString n
  | .real x => printReal x
  | .text s => printText s
  | .bytes octets => printText (Scalar.bytesText octets)
  | .moment m => printText (m.display "T")

mutual

def print : Value → String
  | .scalar s => printScalar s
  | .sequence _ items => "[" ++ Text.joinWith ", " (printAll items) ++ "]"
  | .object entries => "\x7b" ++ Text.joinWith ", " (printEntries entries) ++ "\x7d"

/-- Several values. -/
def printAll : List Value → List String
  | [] => []
  | item :: rest => print item :: printAll rest

/-- The entries of an object. -/
def printEntries : List (String × Value) → List String
  | [] => []
  | (key, value) :: rest => (printText key ++ ": " ++ print value) :: printEntries rest

end

end SchemaStore.Json
