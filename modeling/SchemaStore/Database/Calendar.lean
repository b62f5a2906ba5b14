/-!
# Calendar

Dates are counted in the Gregorian calendar.  A date may also be given by its
week: the first week of a year is the one that holds its first Thursday.
-/

namespace SchemaStore.Calendar

def isLeap (year : Nat) : Bool :=
  (year % 4 == 0 && year % 100 != 0) || year % 400 == 0

def daysIn (year month : Nat) : Nat :=
  if month == 2 then (if isLeap year then 29 else 28)
  else if [4, 6, 9, 11].contains month then 30
  else 31

def daysOf (year : Nat) : Nat :=
  if isLeap year then 366 else 365

/-- The weekday of the first day of a year; Monday is zero. -/
def firstWeekday (year : Nat) : Nat :=
  let before := year - 1
  (365 * before + before / 4 - before / 100 + before / 400) % 7

/-- The month and the day of a day of a year, which is counted from the given months on. -/
def dayOfMonths (year : Nat) : List Nat → Nat → Nat × Nat
  | [], day => (12, day)
  | month :: months, day =>
      if day ≤ daysIn year month then (month, day)
      else dayOfMonths year months (day - daysIn year month)

/-- The date of a day that is counted from the start of a year, from one on; it may lie in a
neighbouring year. -/
def dateOfDay (year : Nat) (day : Int) : Nat × Nat × Nat :=
  let (year, day) :=
    if day < 1 then (year - 1, day + daysOf (year - 1))
    else if daysOf year < day then (year + 1, day - daysOf year)
    else (year, day)
  (year, dayOfMonths year (List.range' 1 12) day.toNat)

def hasWeek (year week : Nat) : Bool :=
  let weekday := firstWeekday year
  (1 ≤ week && week ≤ 52) ||
    (week == 53 && (weekday == 3 || (weekday == 2 && isLeap year)))

/-- The date of a day of a week; Monday is day one. -/
def dateOfWeek? (year week day : Nat) : Option (Nat × Nat × Nat) :=
  if year = 0 ∨ !hasWeek year week ∨ day = 0 ∨ 7 < day then none
  else
    let weekday := firstWeekday year
    let monday : Int := 1 - weekday + (if 3 < weekday then 7 else 0)
    some (dateOfDay year (monday + 7 * (week - 1 : Nat) + (day - 1 : Nat)))

end SchemaStore.Calendar
