import SchemaStore.Schema.Input

/-!
# Pages

A `PageRequest` says in which order rows are given and which part of them is
taken, either by numbers or by a cursor.  A `Page` is a part of a result with
the cursor of the next one.
-/

namespace SchemaStore

inductive Direction where
  | ascending
  | descending
deriving DecidableEq, Repr

namespace Direction

def label : Direction → String
  | .ascending => "asc"
  | .descending => "desc"

def all : List Direction := [.ascending, .descending]

/-- Read a direction in any letter case. -/
def ofInput : Reader Direction
  | .scalar (.text s) => Reader.choice all label (.text (Text.lower s))
  | other => Reader.choice all label other

end Direction

/-- Which part of ordered rows is asked for. -/
structure PageRequest where
  orderBy : String := "id"
  direction : Direction := .ascending
  /-- The number of rows to leave out. -/
  skip : Option Nat := none
  /-- The greatest number of rows to give. -/
  take : Option Nat := none
  /-- Give only rows beyond this value of the ordering column. -/
  cursor : Value := .null
deriving Repr

namespace PageRequest

/-- Why a request makes no sense. -/
def exclusiveRule : InputDefect :=
  .rule "skip and cursor pagination are mutually exclusive"

/-- Read a request from a record. -/
def fieldsOfInput : Reader PageRequest := fun value => do
  let input ← Reader.entries "PageRequest" value
  let usual : PageRequest := {}
  let request : PageRequest := {
    orderBy := ← input.optional "order_by" usual.orderBy Reader.text
    direction := ← input.optional "direction" usual.direction Direction.ofInput
    skip := ← input.optional "skip" none (Reader.optional Reader.natural)
    take := ← input.optional "take" none (Reader.optional Reader.natural)
    cursor := ← input.optional "cursor" .null .ok }
  if !request.cursor.isNull && request.skip.isSome then
    .error exclusiveRule
  else
    return request

/-- Read a request from a record; what is wrong with it is bad input of the caller. -/
def ofInput (value : Value) : Except Failure PageRequest :=
  (fieldsOfInput value).mapError fun defect => .validation defect.message

end PageRequest

/-- A part of a result. -/
structure Page where
  items : List Row
  /-- The cursor of the next page. -/
  nextCursor : Value
  /-- The cursor that the page was asked for with. -/
  cursor : Value
  hasNext : Bool
  hasPrevious : Bool
  size : Nat
deriving Repr

end SchemaStore
