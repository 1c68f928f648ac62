import Stepwise.Mark

/-!
# Binary floating point, exactly

A number of 53 significant bits is kept as sign, mantissa and exponent, so that every
operation is a statement about natural numbers. Rounding goes to the nearest representable
number and a tie goes to the even mantissa. All numbers built here are canonical: the mantissa
has 53 bits unless the exponent is the least one.
-/

namespace Stepwise

/-- A floating-point number. `finite` stands for `± mantissa · 2 ^ exponent`. Not-a-number has a
mark that tells it from others; what arithmetic makes of nothing has the default one. -/
inductive Binary64 where
  | nan (mark : Mark)
  | infinity (negative : Bool)
  | finite (negative : Bool) (mantissa : Nat) (exponent : Int)
  deriving DecidableEq, Repr, Inhabited

namespace Binary64

/-- The exponent of the least positive number, which is also that of zero. -/
def leastExponent : Int := -1074

/-- The exponent of the numbers just below overflow. -/
def greatestExponent : Int := 971

def zero (negative : Bool) : Binary64 := .finite negative 0 leastExponent

/-- The quotient rounded to the nearest whole number; a half goes to the even neighbour. -/
def roundedQuotient (numerator denominator : Nat) : Nat :=
  let quotient := numerator / denominator
  let twice := 2 * (numerator % denominator)
  if twice < denominator then quotient
  else if denominator < twice then quotient + 1
  else quotient + quotient % 2

/-- The greatest `k` with `2 ^ k ≤ numerator / denominator`, for a positive quotient. Comparing
the bit lengths leaves two candidates. -/
def binaryMagnitude (numerator denominator : Nat) : Int :=
  let guess : Int := (numerator.log2 : Int) - (denominator.log2 : Int)
  let reached :=
    if 0 ≤ guess then denominator * Nat.pow 2 guess.toNat ≤ numerator
    else denominator ≤ numerator * Nat.pow 2 (-guess).toNat
  if reached then guess else guess - 1

/-- The representable number nearest to `± numerator / denominator`. -/
def ofRatio (negative : Bool) (numerator denominator : Nat) : Binary64 :=
  if numerator = 0 then zero negative
  else
    let exponent := max (binaryMagnitude numerator denominator - 52) leastExponent
    let mantissa :=
      if 0 ≤ exponent then roundedQuotient numerator (denominator * Nat.pow 2 exponent.toNat)
      else roundedQuotient (numerator * Nat.pow 2 (-exponent).toNat) denominator
    -- Rounding up may carry into a 54th bit.
    let (mantissa, exponent) :=
      if mantissa = Nat.pow 2 53 then (Nat.pow 2 52, exponent + 1) else (mantissa, exponent)
    if mantissa = 0 then zero negative
    else if greatestExponent < exponent then .infinity negative
    else .finite negative mantissa exponent

/-- The magnitude of a finite number as a fraction of whole numbers. -/
def ratio (mantissa : Nat) (exponent : Int) : Nat × Nat :=
  if 0 ≤ exponent then (mantissa * Nat.pow 2 exponent.toNat, 1)
  else (mantissa, Nat.pow 2 (-exponent).toNat)

/-- The nearest number to a whole one; infinite when the whole number is out of range. -/
def ofInt (n : Int) : Binary64 := ofRatio (decide (n < 0)) n.natAbs 1

def isNaN : Binary64 → Bool
  | .nan _ => true
  | _ => false

def isInfinite : Binary64 → Bool
  | .infinity _ => true
  | _ => false

def isZero : Binary64 → Bool
  | .finite _ mantissa _ => mantissa = 0
  | _ => false

/-- Zero of either sign and the negative numbers; not-a-number is neither. -/
def isAtMostZero : Binary64 → Bool
  | .nan _ => false
  | .infinity negative => negative
  | .finite negative mantissa _ => negative || mantissa = 0

def negate : Binary64 → Binary64
  | .nan mark => .nan mark
  | .infinity negative => .infinity (!negative)
  | .finite negative mantissa exponent => .finite (!negative) mantissa exponent

/-- The whole part, toward zero, of a finite number. -/
def truncate? : Binary64 → Option Int
  | .finite negative mantissa exponent =>
    let (numerator, denominator) := ratio mantissa exponent
    let whole := numerator / denominator
    some (if negative then -(whole : Int) else whole)
  | _ => none

/-- The whole number that a finite number equals, if any. -/
def toInt? : Binary64 → Option Int
  | .finite negative mantissa exponent =>
    let (numerator, denominator) := ratio mantissa exponent
    if numerator % denominator = 0 then
      let whole := numerator / denominator
      some (if negative then -(whole : Int) else whole)
    else none
  | _ => none

/-- The part of a finite number after the point, with the number's sign; it needs no rounding. -/
def fraction : Binary64 → Binary64
  | .finite negative mantissa exponent =>
    let (numerator, denominator) := ratio mantissa exponent
    ofRatio negative (numerator % denominator) denominator
  | other => other

/-- The signed magnitude over a common denominator: `x ↦ (n, d)` with `x = n / d`. -/
def signedRatio (negative : Bool) (mantissa : Nat) (exponent : Int) : Int × Nat :=
  let (numerator, denominator) := ratio mantissa exponent
  (if negative then -(numerator : Int) else numerator, denominator)

/-- `x < y` as numbers; nothing is below or above not-a-number. -/
def less : Binary64 → Binary64 → Bool
  | .nan _, _ => false
  | _, .nan _ => false
  | .infinity negative, .infinity negative' => negative && !negative'
  | .infinity negative, .finite .. => negative
  | .finite .., .infinity negative => !negative
  | .finite s m e, .finite s' m' e' =>
    let (n, d) := signedRatio s m e
    let (n', d') := signedRatio s' m' e'
    n * d' < n' * d

/-- The rounded sum. Two zeros of different sign, and opposite numbers, sum to positive zero. -/
def add : Binary64 → Binary64 → Binary64
  | .nan mark, _ => .nan mark
  | _, .nan mark => .nan mark
  | .infinity negative, .infinity negative' =>
    if negative = negative' then .infinity negative else .nan default
  | .infinity negative, .finite .. => .infinity negative
  | .finite .., .infinity negative => .infinity negative
  | .finite s m e, .finite s' m' e' =>
    if m = 0 ∧ m' = 0 then zero (s && s')
    else
      let (n, d) := signedRatio s m e
      let (n', d') := signedRatio s' m' e'
      let sum := n * d' + n' * d
      ofRatio (decide (sum < 0)) sum.natAbs (d * d')

/-- The rounded product with a natural number. -/
def scale (factor : Nat) : Binary64 → Binary64
  | .finite negative mantissa exponent =>
    let (numerator, denominator) := ratio mantissa exponent
    ofRatio negative (numerator * factor) denominator
  | .infinity negative => if factor = 0 then .nan default else .infinity negative
  | .nan mark => .nan mark

/-- A natural number as it is after rounding. -/
def roundedNat (n : Nat) : Nat :=
  match (ofInt n).truncate? with
  | some whole => whole.toNat
  | none => n

end Binary64

end Stepwise
