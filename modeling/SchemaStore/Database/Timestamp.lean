import SchemaStore.Database.Calendar
import SchemaStore.Text.Numeral
import SchemaStore.Value

/-!
# Stored moments

Columns of moments store texts.  `Moment.ofText?` reads one: a date, with or
without hyphens, by month or by week, then any separator and a time of day, with
or without colons, whose later parts may be missing, and perhaps an offset.
-/

namespace SchemaStore.Moment

/-- The number that a row of so many ASCII digits at the start of a text is, and the text after
it. -/
def readDigits? (count : Nat) (cs : List Char) : Option (Nat × List Char) :=
  let digits := cs.take count
  if digits.length = count ∧ digits.all Char.isDigit then
    some (Text.asciiDigitsValue digits, cs.drop count)
  else
    none

/-- Whether the parts of a moment are in range. -/
def isValid (m : Moment) : Bool :=
  1 ≤ m.year && m.year ≤ 9999 && 1 ≤ m.month && m.month ≤ 12 && 1 ≤ m.day &&
    m.day ≤ Calendar.daysIn m.year m.month && m.hour < 24 && m.minute < 60 && m.second < 60

/-! ## Dates -/

/-- The length of the date at the start of a text, which its fifth and sixth characters tell.
After a week, an odd number of digits up to the end of a row holds a weekday. -/
def dateLength (cs : List Char) : Nat :=
  if cs.length = 7 then 7
  else
    match cs.drop 4 with
    | '-' :: 'W' :: _ =>
        if cs[8]? != some '-' then 8
        else if cs[10]?.any Char.isDigit then 8
        else 10
    | '-' :: _ => 10
    | 'W' :: _ =>
        let digits := ((cs.drop 7).takeWhile Char.isDigit).length
        if digits < 2 then 7 + digits
        else if digits % 2 = 1 then 7
        else 8
    | _ => 8

/-- The text after the mark between two parts of a date, which has all of them or none. -/
def skipHyphen? (marked : Bool) (cs : List Char) : Option (List Char) :=
  match marked, cs with
  | true, '-' :: rest => some rest
  | true, _ => none
  | false, rest => some rest

/-- Year, month and day of a date. -/
def readDate? (cs : List Char) : Option (Nat × Nat × Nat) := do
  let (year, rest) ← readDigits? 4 cs
  let marked := rest.head? == some '-'
  match ← skipHyphen? marked rest with
  | 'W' :: rest =>
      let (week, rest) ← readDigits? 2 rest
      if rest.isEmpty then Calendar.dateOfWeek? year week 1
      else
        let (day, _) ← readDigits? 1 (← skipHyphen? marked rest)
        Calendar.dateOfWeek? year week day
  | rest =>
      let (month, rest) ← readDigits? 2 rest
      let (day, _) ← readDigits? 2 (← skipHyphen? marked rest)
      return (year, month, day)

/-! ## Times of day -/

/-- Hours, minutes, seconds and microseconds. -/
structure TimeParts where
  hour : Nat := 0
  minute : Nat := 0
  second : Nat := 0
  microsecond : Nat := 0

/-- The parts of a time from the given ones on. -/
def TimeParts.ofList (parts : List Nat) (microsecond : Nat) : TimeParts :=
  { hour := parts.getD 0 0, minute := parts.getD 1 0, second := parts.getD 2 0, microsecond }

/-- The microseconds of a fraction of a second, and the text after it; further digits are cut
off. -/
def readFraction? (cs : List Char) : Option (Nat × List Char) := do
  let count := min 6 cs.length
  let (digits, rest) ← readDigits? count cs
  return (digits * pow10 (6 - count), rest.dropWhile Char.isDigit)

/-- The parts of a time and the text after them; `parts` are those before, `room` is how many may
follow, and `marked` tells whether colons stand between them.  A point or a comma starts a
fraction. -/
def readParts? (parts : List Nat) (marked : Bool) : Nat → List Char → Option (TimeParts × List Char)
  | 0, cs => do
      let (fraction, rest) ← readFraction? cs
      return (.ofList parts fraction, rest)
  | room + 1, cs => do
      let (part, rest) ← readDigits? 2 cs
      let parts := parts ++ [part]
      match rest with
      | [] | [_] => return (.ofList parts 0, rest)
      | mark :: more =>
          let marked := if parts.length = 1 then mark == ':' else marked
          if marked && mark == ':' then readParts? parts marked room more
          else if mark == '.' || mark == ',' then readParts? parts marked 0 more
          else if marked then none
          else readParts? parts marked room rest
  termination_by room => room

/-- The offset of a time zone in microseconds, less than a day. -/
def readOffset? (negative : Bool) (cs : List Char) : Option Int := do
  let (parts, rest) ← readParts? [] true 3 cs
  let seconds := (parts.hour * 60 + parts.minute) * 60 + parts.second
  let offset := seconds * pow10 6 + parts.microsecond
  if rest.isEmpty ∧ offset < 86400 * pow10 6 then return Text.signed negative offset else none

/-- A time of day, and its offset if it has one. -/
def readTime? (cs : List Char) : Option (TimeParts × Option Int) := do
  let startsZone (c : Char) : Bool := c == '+' || c == '-' || c == 'Z'
  let (parts, rest) ← readParts? [] true 3 (cs.takeWhile (!startsZone ·))
  match cs.dropWhile (!startsZone ·) with
  | [] => if rest.isEmpty then return (parts, none) else none
  | ['Z'] => return (parts, some 0)
  | 'Z' :: _ => none
  | sign :: zone => return (parts, some (← readOffset? (sign == '-') zone))

/-! ## Moments -/

/-- The moment that a text is written as. -/
def ofText? (s : String) : Option Moment := do
  let cs := s.toList
  let (year, month, day) ← readDate? (cs.take (dateLength cs))
  let (time, offset) ←
    match cs.drop (dateLength cs) with
    | [] => some ({}, none)
    | _ :: time => readTime? time
  let m : Moment := {
    year, month, day, offset
    hour := time.hour
    minute := time.minute
    second := time.second
    microsecond := time.microsecond }
  if m.isValid then some m else none

end SchemaStore.Moment
