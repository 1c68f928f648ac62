import Stepwise.Number.Decimal
import Stepwise.Number.Numeral
import Stepwise.Text.Blank
import Stepwise.Text.Utf8
import Stepwise.Value.Basic

/-!
# Reading the values of settings

Values are read generously: a number may be given as another kind of number, as text or as the
bytes of a text, as long as nothing is lost. What cannot be read is described by a code and a
message. Numerals are spelled in ASCII here.
-/

namespace Stepwise

/-- Why the value of a setting is not accepted. -/
inductive Rejection where
  | notText
  | notUtf8
  | notWhole
  | unreadableWhole
  | fractional
  | notFinite
  | tooLarge
  | notNumber
  | unreadableNumber
  | notAbove (bound : Nat)
  | notAtLeast (bound : Nat)
  | notAmong (name : String) (choices : List String)
  deriving DecidableEq, Repr

namespace Rejection

def code : Rejection → String
  | notText => "string_type"
  | notUtf8 => "string_unicode"
  | notWhole => "int_type"
  | unreadableWhole => "int_parsing"
  | fractional => "int_from_float"
  | notFinite => "finite_number"
  | tooLarge => "int_parsing_size"
  | notNumber => "float_type"
  | unreadableNumber => "float_parsing"
  | notAbove _ => "greater_than"
  | notAtLeast _ => "greater_than_equal"
  | notAmong _ _ => "value_error"

def message : Rejection → String
  | notText => "Input should be a valid string"
  | notUtf8 => "Input should be a valid string, unable to parse raw data as a unicode string"
  | notWhole => "Input should be a valid integer"
  | unreadableWhole => "Input should be a valid integer, unable to parse string as an integer"
  | fractional => "Input should be a valid integer, got a number with a fractional part"
  | notFinite => "Input should be a finite number"
  | tooLarge => "Unable to parse input string as an integer, exceeded maximum size"
  | notNumber => "Input should be a valid number"
  | unreadableNumber => "Input should be a valid number, unable to parse string as a number"
  | notAbove bound => s!"Input should be greater than {bound}"
  | notAtLeast bound => s!"Input should be greater than or equal to {bound}"
  | notAmong name choices => s!"Value error, {name} must be one of: " ++ ", ".intercalate choices

end Rejection

namespace Reading

/-- Blanks around a numeral: all but the separator controls. -/
def isSpace (c : Char) : Bool := isBlank c && !(0x1c ≤ c.toNat && c.toNat ≤ 0x1f)

/-- A text without the spaces at its ends. -/
def strip (text : List Char) : List Char :=
  ((text.dropWhile isSpace).reverse.dropWhile isSpace).reverse

/-- Takes off single underscores inside a text; none if there are no such. -/
def withoutUnderscores? (text : List Char) : Option (List Char) :=
  let doubled := (text.zip text.tail).any fun (c, d) => c = '_' && d = '_'
  if text.head? = some '_' || text.getLast? = some '_' || !text.contains '_' || doubled then none
  else some (text.filter (· ≠ '_'))

/-- Takes off a fraction of zeros, of which there has to be one. -/
def withoutZeroFraction (text : List Char) : List Char :=
  let whole := text.takeWhile (· ≠ '.')
  let fraction := text.drop (whole.length + 1)
  if fraction ≠ [] && fraction.all (· = '0') then whole else text

/-- What follows zeros and underscores, of which the last is kept where nothing or a point
follows. -/
def afterZeros (last : Char) : List Char → Option (List Char)
  | [] => some [last]
  | c :: rest =>
    if c = '0' || c = '_' then afterZeros c rest
    else if Decimal.isDigit c || c = '-' then some (c :: rest)
    else if c = '.' then some (last :: c :: rest)
    else none

/-- Takes off leading zeros, and underscores among them. A text that does not start with a digit
is no numeral. -/
def withoutLeadingZeros? : List Char → Option (List Char)
  | [] => none
  | c :: rest =>
    if c = '0' then afterZeros c rest
    else if Decimal.isDigit c then some (c :: rest)
    else none

/-- Takes off a plus sign, which no minus sign may follow. -/
def withoutPlus? : List Char → Option (List Char)
  | '+' :: '-' :: _ => none
  | '+' :: rest => some rest
  | text => some text

/-- The plain form of a numeral that is written with spaces, a plus sign, leading zeros, a fraction
of zeros or underscores. A minus sign in front is set aside meanwhile. -/
def plainForm? (text : List Char) : Option (List Char) := do
  let text ← withoutPlus? (strip text)
  let plain (text : List Char) : Option (List Char) := do
    let numeral := withoutZeroFraction (← withoutLeadingZeros? text)
    return (withoutUnderscores? numeral).getD numeral
  match text with
  | '-' :: rest => (plain rest).map ('-' :: ·)
  | text => plain text

/-- The whole number of digits without leading zeros, with a minus sign or none. A number that is
too long is so whatever follows it. -/
def plainWhole (text : List Char) : Except Rejection Int :=
  let (negative, body) :=
    match text with
    | '-' :: rest => (true, rest)
    | _ => (false, text)
  let digits := body.takeWhile Decimal.isDigit
  if digits.head? = some '0' && 1 < digits.length then .error .unreadableWhole
  else if Numeral.digitLimit < digits.length then .error .tooLarge
  else if digits = [] || digits.length < body.length then .error .unreadableWhole
  else
    let magnitude : Int := Decimal.value digits
    .ok (if negative then -magnitude else magnitude)

/-- The whole number that a text spells, as it stands or in its plain form. Only a text that is too
long as it stands is called so. -/
def wholeOfText (text : List Char) : Except Rejection Int :=
  match plainWhole text with
  | .ok n => .ok n
  | .error .tooLarge => .error .tooLarge
  | .error _ =>
    match (plainForm? text).map plainWhole with
    | some (.ok n) => .ok n
    | _ => .error .unreadableWhole

/-- The number that a text spells, with spaces around it or with underscores in it. -/
def numberOfText (text : List Char) : Except Rejection Binary64 :=
  match (Decimal.read? (strip text)).or ((withoutUnderscores? text).bind Decimal.read?) with
  | some x => .ok x
  | none => .error .unreadableNumber

/-- Whole numbers of this magnitude are not made from floating-point ones. -/
def wholeLimit : Int := Int.pow 2 63

def text (v : Value) : Except Rejection String :=
  match v with
  | .str s => .ok s
  | .bytes content =>
    match Utf8.decode content with
    | .ok chars => .ok (String.ofList chars)
    | .error _ => .error .notUtf8
  | _ => .error .notText

def whole (v : Value) : Except Rejection Int :=
  match v with
  | .bool b => .ok (if b then 1 else 0)
  | .int n => .ok n
  | .float x =>
    match x.truncate? with
    | none => .error .notFinite
    | some n =>
      if x.toInt?.isNone then .error .fractional
      else if -wholeLimit < n ∧ n < wholeLimit then .ok n
      else .error .tooLarge
  | .str s => wholeOfText s.toList
  | .bytes content =>
    match Utf8.decode content with
    | .ok chars => wholeOfText chars
    | .error _ => .error .unreadableWhole
  | _ => .error .notWhole

def number (v : Value) : Except Rejection Binary64 :=
  match v with
  | .bool b => .ok (Binary64.ofInt (if b then 1 else 0))
  | .int n =>
    let x := Binary64.ofInt n
    if x.isInfinite then .error .notNumber else .ok x
  | .float x => .ok x
  | .str s => numberOfText s.toList
  | .bytes content =>
    match Utf8.decode content with
    | .ok chars => numberOfText chars
    | .error _ => .error .unreadableNumber
  | _ => .error .notNumber

/-- A reading that null passes. -/
def optional {α : Type} (read : Value → Except Rejection α) (v : Value) :
    Except Rejection (Option α) :=
  if v.isNull then .ok none else (read v).map some

/-- The ASCII capital that a letter is the small form of; the dotless i has one too. -/
def capital (c : Char) : Char :=
  if c = 'ı' then 'I' else if c = 'ſ' then 'S' else c.toUpper

/-- The ASCII small letter of a letter; the sign of the kelvin has one too. -/
def small (c : Char) : Char := if c.toNat = 0x212a then 'k' else c.toLower

/-- The member of a closed list whose name a text is, up to case. -/
def among {α : Type} (setting : String) (fold : Char → Char) (members : List α)
    (name : α → String) (v : Value) : Except Rejection α := do
  let given ← text v
  match members.find? fun member => (name member).toList = given.toList.map fold with
  | some member => return member
  | none => throw (.notAmong setting (members.map name))

end Reading

end Stepwise
