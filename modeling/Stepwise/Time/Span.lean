import Stepwise.Number.Binary64
import Stepwise.Time.Moment

/-!
# Spans of time

The length of a time in microseconds. Messages and texts show it in whole days, which have the
sign, and in seconds and microseconds, which are never negative.
-/

namespace Stepwise

structure Span where
  microseconds : Int
  deriving DecidableEq, Repr, Inhabited

namespace Span

/-- Longer spans do not exist, in days. -/
def greatestDays : Nat := 999999999

def days (span : Span) : Int := span.microseconds.fdiv Moment.microsecondsPerDay

/-- Microseconds beyond the whole days. -/
def rest (span : Span) : Nat := (span.microseconds.fmod Moment.microsecondsPerDay).toNat

def seconds (span : Span) : Nat := span.rest / Moment.microsecondsPerSecond

def fraction (span : Span) : Nat := span.rest % Moment.microsecondsPerSecond

def ofDays (count : Int) : Span := ⟨count * Moment.microsecondsPerDay⟩

def least : Span := ofDays (-greatestDays)

/-- The last microsecond of the greatest number of days. -/
def greatest : Span := ⟨(greatestDays + 1) * Moment.microsecondsPerDay - 1⟩

def isInRange (span : Span) : Bool := span.days.natAbs ≤ greatestDays

/-- The whole number nearest to a whole one and a fraction, which is below one; of two equally
near ones the even. -/
def nearest (whole : Int) (part : Binary64) : Int :=
  match part with
  | .finite negative mantissa exponent =>
    let (numerator, denominator) := Binary64.ratio mantissa exponent
    let beyond := if negative then whole - 1 else whole + 1
    if 2 * numerator < denominator then whole
    else if denominator < 2 * numerator then beyond
    else if whole % 2 = 0 then whole
    else beyond
  | _ => whole

/-- The span of a number of units of a length. The units in its whole part are counted exactly, and
its fraction is multiplied out and rounded. -/
def ofUnits? (unit : Nat) (x : Binary64) : Option Span :=
  x.truncate?.map fun whole =>
    let rest := x.fraction.scale unit
    ⟨nearest (whole * unit + rest.truncate?.getD 0) rest.fraction⟩

/-- The time of day that the seconds make, behind the days if there are any. -/
def text (span : Span) : String :=
  let padded (width n : Nat) := String.ofList (Decimal.padded width n)
  let noun := if span.days.natAbs = 1 then "day" else "days"
  let whole := if span.days = 0 then "" else s!"{span.days} {noun}, "
  let minutes := span.seconds / 60
  let clock := s!"{minutes / 60}:" ++ padded 2 (minutes % 60) ++ ":" ++ padded 2 (span.seconds % 60)
  let fraction := if span.fraction = 0 then "" else "." ++ padded 6 span.fraction
  whole ++ clock ++ fraction

/-- How messages show a span; the parts that are zero are left out. -/
def shown (span : Span) : String :=
  let parts : List (String × Int) :=
    [("days", span.days), ("seconds", span.seconds), ("microseconds", span.fraction)]
  let named := parts.filterMap fun (name, n) => if n = 0 then none else some s!"{name}={n}"
  "datetime.timedelta(" ++ (if named.isEmpty then "0" else ", ".intercalate named) ++ ")"

end Span

end Stepwise
