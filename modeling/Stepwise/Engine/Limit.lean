import Stepwise.Value.Access

/-!
# Limits in time

Calls are given a number of seconds, and records a number of days, either of which the host may
have set to anything. A limit that is no number is refused when it is put to use.
-/

namespace Stepwise

/-- What a limit leaves to a call: nothing, for it has passed before the call begins; what the call
does without waiting for anything; or all. -/
inductive Allowance where
  | nothing
  | start
  | all
  deriving DecidableEq, Repr

/-- The greatest number of seconds in which nothing that a call waits for comes about. -/
def leastWait : Binary64 := .ofRatio false 1 100000

/-- What a limit in seconds leaves to a call; null is no limit. One that is not positive leaves
nothing. One of next to nothing, and one that is not a number, has passed once the call waits. -/
def Value.allowance : Value → Except Fault Allowance
  | .null => .ok .all
  | .bool b => .ok (if b then .all else .nothing)
  | .int n =>
    if n ≤ 0 then .ok .nothing
    else if (Binary64.ofInt n).isInfinite then
      .error (.overflowError "int too large to convert to float")
    else .ok .all
  | .float x =>
    .ok (if x.isAtMostZero then .nothing else if leastWait.less x then .all else .start)
  | other =>
    .error (.typeError s!"'<=' not supported between instances of '{other.fullKind}' and 'int'")

namespace Retention

/-- A span whose days are in range. -/
def inRange (span : Span) : Except Fault Span :=
  if span.isInRange then .ok span
  else .error (.overflowError s!"days={span.days}; must have magnitude <= {Span.greatestDays}")

/-- The span of a number of units of a length; there is none for a number that is not finite. -/
def ofUnits (unit : Nat) (x : Binary64) : Except Fault Span :=
  match Span.ofUnits? unit x with
  | some span => inRange span
  | none =>
    if x.isNaN then .error (.valueError "cannot convert float NaN to integer")
    else .error (.overflowError "cannot convert float infinity to integer")

/-- The span of a number of days. -/
def span (days : Value) : Except Fault Span :=
  match days.index? with
  | some n => inRange (.ofDays n)
  | none =>
    match days with
    | .float x => ofUnits Moment.microsecondsPerDay x
    | other =>
      .error (.typeError
        s!"unsupported type for timedelta days component: {other.fullKind}")

/-- The moment a number of days earlier. -/
def cutoff (now : Moment) (days : Value) : Except Fault Moment := do
  let earlier ← span days
  match now.later? (-earlier.microseconds) with
  | some m => return m
  | none => throw (.overflowError "date value out of range")

end Retention

end Stepwise
