import Stepwise.Time.Date

/-!
# Moments

A date with a time of day, either with an offset from universal time or without any. Moments of
the two sorts are incomparable; those with offsets are compared by the instant they name.
-/

namespace Stepwise

/-- The offset is in microseconds east of universal time. -/
structure Moment where
  date : Date
  hour : Nat
  minute : Nat
  second : Nat
  microsecond : Nat
  offset : Option Int
  deriving DecidableEq, Repr, Inhabited

namespace Moment

def microsecondsPerSecond : Nat := 1000000
def microsecondsPerDay : Nat := 86400000000

/-- Microseconds on the local clock since the start of the calendar. -/
def localCount (m : Moment) : Nat :=
  (((m.date.ordinal * 24 + m.hour) * 60 + m.minute) * 60 + m.second) * microsecondsPerSecond
    + m.microsecond

/-- Microseconds since the start of the calendar in universal time; a moment without offset is
read as universal time. -/
def instant (m : Moment) : Int := (m.localCount : Int) - m.offset.getD 0

def isZoned (m : Moment) : Bool := m.offset.isSome

/-- Both have an offset or neither has. -/
def comparable (m other : Moment) : Bool := m.isZoned == other.isZoned

/-- The moment with an offset at which the local clock has a count of microseconds; none outside
the calendar. -/
def ofLocalCount? (count : Int) (offset : Option Int) : Option Moment :=
  if count < (microsecondsPerDay : Int) then none
  else
    let n := count.toNat
    let date := Date.ofOrdinal (n / microsecondsPerDay)
    if Calendar.greatestYear < date.year then none
    else
      let rest := n % microsecondsPerDay
      let seconds := rest / microsecondsPerSecond
      some ⟨date, seconds / 3600, seconds / 60 % 60, seconds % 60, rest % microsecondsPerSecond,
        offset⟩

/-- The moment a span of microseconds later, on the same clock. -/
def later? (m : Moment) (span : Int) : Option Moment :=
  ofLocalCount? ((m.localCount : Int) + span) m.offset

def midnight (date : Date) : Moment := ⟨date, 0, 0, 0, 0, none⟩

/-- Every part is in its range and the offset is below a day. -/
def isValid (m : Moment) : Bool :=
  m.date.isValid && m.hour < 24 && m.minute < 60 && m.second < 60 &&
    m.microsecond < microsecondsPerSecond && (m.offset.all fun o => o.natAbs < microsecondsPerDay)

/-- Hours and minutes with a colon; seconds and their fraction only where they are not zero. -/
def offsetChars (offset : Int) : List Char :=
  let size := offset.natAbs
  let fraction := size % microsecondsPerSecond
  let seconds := size / microsecondsPerSecond
  let whole := (if offset < 0 then '-' else '+') :: Decimal.padded 2 (seconds / 3600) ++
    ':' :: Decimal.padded 2 (seconds / 60 % 60)
  if seconds % 60 = 0 ∧ fraction = 0 then whole
  else
    let whole := whole ++ ':' :: Decimal.padded 2 (seconds % 60)
    if fraction = 0 then whole else whole ++ '.' :: Decimal.padded 6 fraction

/-- The time of day, with the fraction of the second only where it is not zero. -/
def clockChars (m : Moment) : List Char :=
  let whole := Decimal.padded 2 m.hour ++ ':' :: Decimal.padded 2 m.minute ++
    ':' :: Decimal.padded 2 m.second
  if m.microsecond = 0 then whole else whole ++ '.' :: Decimal.padded 6 m.microsecond

/-- Date and time of day around a separator, and the offset if there is one. -/
def chars (separator : Char) (m : Moment) : List Char :=
  m.date.chars ++ separator :: m.clockChars ++
    match m.offset with
    | none => []
    | some offset => offsetChars offset

/-- The ISO form, in which records keep their times. -/
def iso (m : Moment) : String := String.ofList (m.chars 'T')

end Moment

end Stepwise
