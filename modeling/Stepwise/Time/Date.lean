import Stepwise.Number.Decimal

/-!
# Calendar dates

Dates of the Gregorian calendar, extended backwards to year 1. The ordinal of a date counts days
with 0001-01-01 as day one, so that dates are compared and shifted by whole numbers.
-/

namespace Stepwise

structure Date where
  year : Nat
  month : Nat
  day : Nat
  deriving DecidableEq, Repr, Inhabited

namespace Calendar

def leastYear : Nat := 1
def greatestYear : Nat := 9999

def isLeap (year : Nat) : Bool :=
  year % 4 = 0 && (year % 100 ≠ 0 || year % 400 = 0)

def daysInMonth (year month : Nat) : Nat :=
  match month with
  | 2 => if isLeap year then 29 else 28
  | 4 | 6 | 9 | 11 => 30
  | _ => 31

/-- Days of the complete years before a year. -/
def daysBeforeYear (year : Nat) : Nat :=
  let past := year - 1
  past * 365 + past / 4 - past / 100 + past / 400

/-- Days of the complete months of a year before a month. -/
def daysBeforeMonth (year month : Nat) : Nat :=
  (List.range (month - 1)).foldl (fun days before => days + daysInMonth year (before + 1)) 0

/-- The month, and the day in it, of a day of a year counted from zero. -/
def monthOfDay (year : Nat) : Nat → Nat → Nat → Nat × Nat
  | 0, month, rest => (month, rest + 1)
  | fuel + 1, month, rest =>
    let length := daysInMonth year month
    if rest < length then (month, rest + 1) else monthOfDay year fuel (month + 1) (rest - length)

end Calendar

namespace Date

open Calendar

/-- The count of days up to and including a date. -/
def ordinal (date : Date) : Nat :=
  daysBeforeYear date.year + daysBeforeMonth date.year date.month + date.day

/-- The date of an ordinal: whole cycles of 400, 100, 4 and 1 years are taken off in turn; the
last day of a cycle belongs to its last year. -/
def ofOrdinal (ordinal : Nat) : Date :=
  let rest := ordinal - 1
  let cycles := rest / 146097
  let rest := rest % 146097
  let centuries := min (rest / 36524) 3
  let rest := rest - centuries * 36524
  let quadrennia := rest / 1461
  let rest := rest % 1461
  let years := min (rest / 365) 3
  let rest := rest - years * 365
  let year := cycles * 400 + centuries * 100 + quadrennia * 4 + years + 1
  let (month, day) := monthOfDay year 11 1 rest
  ⟨year, month, day⟩

/-- The date exists in the calendar. -/
def isValid (date : Date) : Bool :=
  leastYear ≤ date.year && date.year ≤ greatestYear && 1 ≤ date.month && date.month ≤ 12 &&
    1 ≤ date.day && date.day ≤ daysInMonth date.year date.month

/-- Monday is day zero of the week. -/
def weekday (date : Date) : Nat := (date.ordinal + 6) % 7

/-- Year, month and day with hyphens between. -/
def chars (date : Date) : List Char :=
  Decimal.padded 4 date.year ++ '-' :: Decimal.padded 2 date.month ++
    '-' :: Decimal.padded 2 date.day

def text (date : Date) : String := String.ofList date.chars

end Date

end Stepwise
