import Stepwise.Execution.Basic
import Stepwise.Number.Binary64

/-!
# The order of listings

Listings give the executions that started last first. Start times are compared as seconds since
1970 in floating point, so times closer than its resolution count as equal; equal ones keep
their order, and executions without a start time come last.
-/

namespace Stepwise

namespace Moment

/-- Microseconds from the start of the calendar to 1970. -/
def epochCount : Int := 719163 * microsecondsPerDay

/-- Seconds since 1970. A moment without offset is read as universal time; the first day of the
calendar has no day before it to tell its offset from. -/
def timestamp (m : Moment) : Except Fault Binary64 :=
  match m.offset with
  | some _ =>
    let count := m.instant - epochCount
    .ok (Binary64.ofRatio (decide (count < 0)) count.natAbs microsecondsPerSecond)
  | none =>
    if m.date = ⟨1, 1, 1⟩ then .error (.valueError "year 0 is out of range")
    else
      let seconds := (m.localCount - epochCount).fdiv microsecondsPerSecond
      .ok (Binary64.add (Binary64.ofInt seconds)
        (Binary64.ofRatio false m.microsecond microsecondsPerSecond))

end Moment

namespace Listing

/-- What an execution is ordered by. -/
def key (execution : Execution) : Except Fault Binary64 :=
  match execution.startedAt with
  | some m => m.timestamp
  | none => .ok (.infinity true)

/-- How many executions a limit lets through; negative limits let none through. Only whole numbers
are limits, but below zero other numbers do no harm. -/
def limitOf (limit : Value) : Except Fault Nat :=
  match limit.index? with
  | some n => .ok n.toNat
  | none =>
    match limit with
    | .float x =>
      if x.less (Binary64.zero false) then .ok 0
      else .error (.typeError
        "slice indices must be integers or None or have an __index__ method")
    | other =>
      .error (.typeError
        s!"'>' not supported between instances of 'int' and '{other.fullKind}'")

/-- The executions that started last, first. -/
def sorted (executions : List Execution) : Except Fault (List Execution) := do
  let keyed ← executions.mapM fun execution => do
    let k ← key execution
    return (k, execution)
  return (keyed.mergeSort fun a b => !a.1.less b.1).map Prod.snd

/-- At most a limit of executions, those that started last first. -/
def newest (executions : List Execution) (limit : Value) : Except Fault (List Execution) := do
  let ordered ← sorted executions
  let count ← limitOf limit
  return ordered.take count

end Listing

end Stepwise
