import Stepwise.Number.Decimal
import Stepwise.Text.Blank
import Stepwise.Text.Digit

/-!
# Numerals written by people

Settings and list positions are given as text. Such a numeral may have blanks around it, digits
of any script, and single underscores between digits. Reading brings it to basic Latin digits
first; a text that is no numeral has no value.
-/

namespace Stepwise

namespace Numeral

/-- The longest run of digits that is converted to or from a whole number. -/
def digitLimit : Nat := 4300

/-- Blanks that may surround a numeral; of the ASCII ones the separator controls are excluded. -/
def isPadding (c : Char) : Bool :=
  if c.toNat < 128 then c = ' ' || (9 ≤ c.toNat && c.toNat ≤ 13) else isBlank c

/-- Basic Latin spelling: digits of other scripts by value; ASCII is left alone. -/
def latin (text : List Char) : List Char :=
  text.map fun c => if c.toNat < 128 then c else Digit.latin c

/-- Drops the underscores of a text in which each one stands between two digits. -/
def dropUnderscores? : Option Char → List Char → Option (List Char)
  | _, [] => some []
  | before, '_' :: rest =>
    if (before.map Decimal.isDigit).getD false && (rest.head?.map Decimal.isDigit).getD false then
      dropUnderscores? (some '_') rest
    else none
  | _, c :: rest => (dropUnderscores? (some c) rest).map (c :: ·)

/-- The padding and the underscores taken off, in basic Latin digits. -/
def plain? (text : List Char) : Option (List Char) :=
  let core := ((text.dropWhile isPadding).reverse.dropWhile isPadding).reverse
  dropUnderscores? none (latin core)

/-- Reads a whole number: an optional sign and at least one digit. -/
def readInt? (text : List Char) : Option Int := do
  let core ← plain? text
  let (negative, ds) := Decimal.splitSign core
  if ds ≠ [] ∧ ds.all Decimal.isDigit ∧ ds.length ≤ digitLimit then
    let magnitude : Int := Decimal.value ds
    return if negative then -magnitude else magnitude
  else none

/-- The value of a digit to a base of at most sixteen. -/
def baseDigit? (base : Nat) (c : Char) : Option Nat :=
  let v :=
    if '0' ≤ c ∧ c ≤ '9' then c.toNat - 48
    else if 'a' ≤ c ∧ c ≤ 'f' then c.toNat - 87
    else if 'A' ≤ c ∧ c ≤ 'F' then c.toNat - 55
    else base
  if v < base then some v else none

/-- Reads a whole number to a base, with an optional sign and the letter of the base behind a
leading zero. -/
def readBase? (base : Nat) (letter : Char) (text : List Char) : Option Int := do
  let core ← plain? text
  let (negative, ds) := Decimal.splitSign core
  let ds :=
    match ds with
    | '0' :: c :: rest => if c = letter ∨ c = letter.toUpper then rest else ds
    | ds => ds
  if ds = [] then none
  else
    let magnitude ← ds.foldl
      (fun total c => total.bind fun t => (baseDigit? base c).map (base * t + ·)) (some 0)
    return if negative then -(magnitude : Int) else magnitude

/-- Reads a floating-point number. -/
def readBinary64? (text : List Char) : Option Binary64 := do
  let core ← plain? text
  Decimal.read? core

end Numeral

end Stepwise
