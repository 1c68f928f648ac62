import Stepwise.Number.Decimal
import Stepwise.Yaml.Cursor
import Stepwise.Yaml.Node

/-!
# The kinds of plain scalars

A plain scalar without a tag is a text unless it has the form of another kind. The forms are those
of version 1.1: words for truth values and null, whole numbers to the bases 2, 8, 10, 16 and 60,
floating-point numbers with a point, dates and times. No text has two of these forms.
-/

namespace Stepwise

namespace Yaml

namespace PlainTag

def nullWords : List String := ["~", "null", "Null", "NULL", ""]

def boolWords : List String :=
  ["yes", "Yes", "YES", "no", "No", "NO", "true", "True", "TRUE", "false", "False", "FALSE",
   "on", "On", "ON", "off", "Off", "OFF"]

/-- Behind a sign, if there is one. -/
def unsigned (text : List Char) : List Char := (Decimal.splitSign text).2

def isDigitMark (c : Char) : Bool := Decimal.isDigit c || c = '_'

def isOctalMark (c : Char) : Bool := ('0' ≤ c && c ≤ '7') || c = '_'

def isHexMark (c : Char) : Bool :=
  Decimal.isDigit c || ('a' ≤ c && c ≤ 'f') || ('A' ≤ c && c ≤ 'F') || c = '_'

/-- At least one character, all of a class. -/
def filled (kind : Char → Bool) (text : List Char) : Bool := text ≠ [] && text.all kind

/-- Parts of a number to base sixty, each a colon and one or two digits below sixty, and what
follows them. -/
def sexagesimals : Nat → List Char → Nat × List Char
  | 0, text => (0, text)
  | fuel + 1, text =>
    match text with
    | ':' :: high :: low :: rest =>
      if '0' ≤ high && high ≤ '5' && Decimal.isDigit low then
        let (count, rest) := sexagesimals fuel rest
        (count + 1, rest)
      else if Decimal.isDigit high then
        let (count, rest) := sexagesimals fuel (low :: rest)
        (count + 1, rest)
      else (0, text)
    | [':', last] => if Decimal.isDigit last then (1, []) else (0, text)
    | _ => (0, text)

/-- Digits that do not start with a zero, or with any digit, and what follows them. -/
def isIntForm (text : List Char) : Bool :=
  match unsigned text with
  | ['0'] => true
  | '0' :: 'b' :: rest => filled (fun c => c = '0' || c = '1' || c = '_') rest
  | '0' :: 'x' :: rest => filled isHexMark rest
  | '0' :: rest => filled isOctalMark rest
  | c :: rest =>
    if Decimal.isDigit c then
      let after := rest.dropWhile isDigitMark
      if after = [] then true
      else
        let (count, after) := sexagesimals after.length after
        0 < count && after = []
    else false
  | [] => false

/-- An exponent with its sign, or nothing. -/
def isExponentForm : List Char → Bool
  | [] => true
  | mark :: sign :: ds =>
    (mark = 'e' || mark = 'E') && (sign = '+' || sign = '-') && filled Decimal.isDigit ds
  | _ => false

/-- A fraction behind the point, with an optional exponent. -/
def isFractionForm (text : List Char) : Bool := isExponentForm (text.dropWhile isDigitMark)

def isFloatForm (text : List Char) : Bool :=
  let body := unsigned text
  if [".inf", ".Inf", ".INF"].any (·.toList = body) then true
  else if [".nan", ".NaN", ".NAN"].any (·.toList = text) then true
  else
    match text with
    | '.' :: c :: rest => Decimal.isDigit c && isFractionForm rest
    | _ =>
      match body with
      | c :: rest =>
        if Decimal.isDigit c then
          match rest.dropWhile isDigitMark with
          | '.' :: fraction => isFractionForm fraction
          | after =>
            let (count, after) := sexagesimals after.length after
            match after with
            | '.' :: fraction => 0 < count && fraction.all isDigitMark
            | _ => false
        else false
      | [] => false

/-- The digits of a number of one or two digits, and what follows. -/
def shortDigits? (text : List Char) : Option (List Char × List Char) :=
  match text with
  | a :: b :: rest =>
    if Decimal.isDigit a then
      if Decimal.isDigit b then some ([a, b], rest) else some ([a], b :: rest)
    else none
  | [a] => if Decimal.isDigit a then some ([a], []) else none
  | [] => none

/-- Exactly a number of digits, and what follows. -/
def exactDigits? (count : Nat) (text : List Char) : Option (List Char × List Char) :=
  let ds := text.take count
  if ds.length = count && ds.all Decimal.isDigit then some (ds, text.drop count) else none

/-- The parts of a time as written. The offset is its sign, hours and minutes, or nothing for
universal time. -/
structure TimeParts where
  year : List Char
  month : List Char
  day : List Char
  clock : Option (List Char × List Char × List Char × List Char)
  zone : Option (Option (Bool × List Char × List Char))

/-- Drops an expected character. -/
def drop? (mark : Char) : List Char → Option (List Char)
  | c :: rest => if c = mark then some rest else none
  | [] => none

/-- The offset that ends a time. -/
def zoneParts? (text : List Char) : Option (Option (Option (Bool × List Char × List Char))) :=
  match text.dropWhile isSpacing with
  | [] => if text = [] then some none else none
  | ['Z'] => some (some none)
  | sign :: rest => do
    if sign = '+' || sign = '-' then
      let (hours, rest) ← shortDigits? rest
      if rest = [] then return some (some (sign = '-', hours, []))
      let rest ← drop? ':' rest
      let (minutes, rest) ← exactDigits? 2 rest
      if rest = [] then return some (some (sign = '-', hours, minutes))
      none
    else none

/-- The parts of a date or a time. -/
def timeParts? (text : List Char) : Option TimeParts := do
  let (year, rest) ← exactDigits? 4 text
  let rest ← drop? '-' rest
  let (month, rest) ← shortDigits? rest
  let rest ← drop? '-' rest
  let (day, rest) ← shortDigits? rest
  if rest = [] then return ⟨year, month, day, none, none⟩
  let rest ←
    match rest with
    | c :: more =>
      if c = 'T' || c = 't' then some more
      else if isSpacing c then some (more.dropWhile isSpacing)
      else none
    | [] => none
  let (hour, rest) ← shortDigits? rest
  let rest ← drop? ':' rest
  let (minute, rest) ← exactDigits? 2 rest
  let rest ← drop? ':' rest
  let (second, rest) ← exactDigits? 2 rest
  let (fraction, rest) :=
    match rest with
    | '.' :: more => more.span Decimal.isDigit
    | rest => ([], rest)
  let zone ← zoneParts? rest
  return ⟨year, month, day, some (hour, minute, second, fraction), zone⟩

/-- A date alone has two digits each for month and day. -/
def isTimeForm (text : List Char) : Bool :=
  match timeParts? text with
  | none => false
  | some parts => parts.clock.isSome || (parts.month.length = 2 && parts.day.length = 2)

/-- A text without one line feed at its end, unless it is nothing else. -/
def withoutLineEnd (text : List Char) : List Char :=
  if text.getLast? = some '\n' && text ≠ ['\n'] then text.dropLast else text

/-- The kind of a plain scalar. One line feed at the end does not count. -/
def ofText (given : List Char) : Tag :=
  let text := withoutLineEnd given
  if nullWords.any (·.toList = text) then .null
  else if boolWords.any (·.toList = text) then .bool
  else if isIntForm text then .int
  else if isFloatForm text then .float
  else if isTimeForm text then .timestamp
  else if text = ['<', '<'] then .merge
  else if text = ['='] then .default
  else if text = ['!'] || text = ['&'] || text = ['*'] then .other
  else .str

end PlainTag

end Yaml

end Stepwise
