import Stepwise.Number.Binary64

/-!
# Decimal numerals

Reading and writing of floating-point numbers. A number is written with the fewest digits that
read back as that number, and among those with the digits nearest to it. Reading rounds the
decimal value once, exactly.
-/

namespace Stepwise

namespace Decimal

/-- The value of a decimal digit of the basic Latin block. -/
def digit? (c : Char) : Option Nat :=
  if '0' ≤ c ∧ c ≤ '9' then some (c.toNat - '0'.toNat) else none

def isDigit (c : Char) : Bool := (digit? c).isSome

/-- Positional value of a run of digits; characters that are no digits count as zero. -/
def value (digits : List Char) : Nat :=
  digits.foldl (fun total c => 10 * total + (digit? c).getD 0) 0

/-- The digits of a natural number, most significant first. -/
def digits (n : Nat) : List Char := Nat.toDigits 10 n

/-- The digits of a number with zeros in front up to a width. -/
def padded (width n : Nat) : List Char :=
  let ds := digits n
  List.replicate (width - ds.length) '0' ++ ds

/-- The floating-point number nearest to `± significand · 10 ^ exponent`. Exponents far outside
the range are settled without forming the power. -/
def toBinary64 (negative : Bool) (significand : Nat) (exponent : Int) : Binary64 :=
  if significand = 0 then Binary64.zero negative
  else
    let reach : Int := exponent + (digits significand).length
    if 400 < reach then .infinity negative
    else if reach < -400 then Binary64.zero negative
    else if 0 ≤ exponent then Binary64.ofRatio negative (significand * Nat.pow 10 exponent.toNat) 1
    else Binary64.ofRatio negative significand (Nat.pow 10 (-exponent).toNat)

/-- The greatest `k` with `10 ^ k ≤ numerator / denominator`, for a positive quotient. The
binary magnitude gives it up to one. -/
def decimalMagnitude (numerator denominator : Nat) : Int :=
  let atLeast (k : Int) : Bool :=
    if 0 ≤ k then denominator * Nat.pow 10 k.toNat ≤ numerator
    else denominator ≤ numerator * Nat.pow 10 (-k).toNat
  let guess := Binary64.binaryMagnitude numerator denominator * 30103 / 100000
  if atLeast (guess + 1) then guess + 1
  else if atLeast guess then guess
  else guess - 1

/-- The digits of a positive number on the decimal grid of a given count, when one of the two
neighbours on that grid reads back; the nearer of two, and the even one of two equally near. -/
def onGrid? (numerator denominator : Nat) (itself : Binary64) (magnitude : Int) (count : Nat) :
    Option Nat :=
  let power : Int := magnitude + 1 - count
  let (n, d) :=
    if 0 ≤ power then (numerator, denominator * Nat.pow 10 power.toNat)
    else (numerator * Nat.pow 10 (-power).toNat, denominator)
  let below := n / d
  let readsBack (candidate : Nat) : Bool := toBinary64 false candidate power = itself
  let twice := 2 * (n % d)
  let belowNearer := twice < d || (twice = d && below % 2 = 0)
  match readsBack below, readsBack (below + 1) with
  | true, true => some (if belowNearer then below else below + 1)
  | true, false => some below
  | false, true => some (below + 1)
  | false, false => none

/-- The least digit count, from `count` on, at which a number is on the grid; after `fuel`
refusals the seventeen-digit neighbour is taken. -/
def shortestFrom (numerator denominator : Nat) (itself : Binary64) (magnitude : Int) :
    Nat → Nat → Nat × Nat
  | 0, count => (0, count)
  | fuel + 1, count =>
    match onGrid? numerator denominator itself magnitude count with
    | some found => (found, count)
    | none => shortestFrom numerator denominator itself magnitude fuel (count + 1)

/-- The shortest digits of a positive number and the place of its point: the value is
`0.digits · 10 ^ point`. -/
def shortest (mantissa : Nat) (exponent : Int) : List Char × Int :=
  let (numerator, denominator) := Binary64.ratio mantissa exponent
  let magnitude := decimalMagnitude numerator denominator
  let (found, count) :=
    shortestFrom numerator denominator (.finite false mantissa exponent) magnitude 17 1
  let ds := digits found
  -- A neighbour above may have one digit more than the grid, all but the first being zero.
  let point := magnitude + 1 + ((ds.length : Int) - count)
  let trimmed := (ds.reverse.dropWhile (· = '0')).reverse
  (if trimmed = [] then ['0'] else trimmed, point)

/-- Numbers from `10 ^ -4` up to `10 ^ 16` are written without an exponent. -/
def positional (point : Int) : Bool := -4 < point && point ≤ 16

/-- Lays digits out around the point. A whole number keeps `.0`; an exponent has a sign and at
least two digits. -/
def layout (ds : List Char) (point : Int) : List Char :=
  if positional point then
    if point ≤ 0 then '0' :: '.' :: List.replicate (-point).toNat '0' ++ ds
    else
      let whole := point.toNat
      if ds.length ≤ whole then ds ++ List.replicate (whole - ds.length) '0' ++ ['.', '0']
      else ds.take whole ++ '.' :: ds.drop whole
  else
    let exponent := point - 1
    let significand :=
      match ds with
      | [single] => [single]
      | first :: rest => first :: '.' :: rest
      | [] => []
    significand ++ ['e', if exponent < 0 then '-' else '+'] ++ padded 2 exponent.natAbs

/-- The written form of a floating-point number. -/
def write : Binary64 → List Char
  | .nan _ => "nan".toList
  | .infinity negative => if negative then "-inf".toList else "inf".toList
  | .finite negative mantissa exponent =>
    let magnitude :=
      if mantissa = 0 then "0.0".toList
      else
        let (ds, point) := shortest mantissa exponent
        layout ds point
    if negative then '-' :: magnitude else magnitude

/-- Takes a leading sign off: whether it is a minus, and the rest. -/
def splitSign : List Char → Bool × List Char
  | '-' :: rest => (true, rest)
  | '+' :: rest => (false, rest)
  | text => (false, text)

/-- The leading run of digits and the rest. -/
def splitDigits (text : List Char) : List Char × List Char := text.span isDigit

/-- The exponent part of a numeral, if the rest of the text is one. -/
def readExponent? : List Char → Option Int
  | [] => some 0
  | mark :: rest =>
    if mark = 'e' ∨ mark = 'E' then
      let (negative, ds) := splitSign rest
      if ds ≠ [] ∧ ds.all isDigit then
        some (if negative then -(value ds : Int) else value ds)
      else none
    else none

/-- Reads digits with an optional point and an optional exponent; at least one digit stands
before the exponent. -/
def readUnsigned? (negative : Bool) (text : List Char) : Option Binary64 :=
  let (whole, rest) := splitDigits text
  let (fractional, rest) :=
    match rest with
    | '.' :: more => splitDigits more
    | _ => ([], rest)
  if whole = [] ∧ fractional = [] then none
  else do
    let exponent ← readExponent? rest
    return toBinary64 negative (value (whole ++ fractional)) (exponent - fractional.length)

/-- The words for infinity and not-a-number, in any mix of case. -/
def readWord? (negative : Bool) (text : List Char) : Option Binary64 :=
  let word := String.ofList (text.map Char.toLower)
  if word = "inf" ∨ word = "infinity" then some (.infinity negative)
  else if word = "nan" then some (.nan default)
  else none

/-- Reads a numeral of basic Latin digits with an optional sign. -/
def read? (text : List Char) : Option Binary64 :=
  let (negative, rest) := splitSign text
  (readWord? negative rest).or (readUnsigned? negative rest)

end Decimal

namespace Binary64

/-- The written form of a floating-point number, as text. -/
def text (x : Binary64) : String := String.ofList (Decimal.write x)

end Binary64

end Stepwise
