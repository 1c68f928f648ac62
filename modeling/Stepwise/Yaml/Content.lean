import Stepwise.Json.Reader
import Stepwise.Text.Lowercase
import Stepwise.Time.Iso
import Stepwise.Value.Access
import Stepwise.Yaml.PlainTag

/-!
# The content of YAML scalars

Scalars of a kind are read by the rules of that kind. The kind may have been given to any text, so
every reading says what is wrong with a text that it cannot read.
-/

namespace Stepwise

namespace Yaml

namespace Content

/-- A fault in a number's or a time's text. -/
def valueProblem {α : Type} (message : String) : Except Problem α :=
  .error (.fault (.valueError message))

/-- The text is shown up to a width. -/
def invalidLiteral {α : Type} (base : Nat) (text : List Char) : Except Problem α :=
  let shown := String.ofList ((Stepwise.Quoted.chars text).take 200)
  valueProblem s!"invalid literal for int() with base {base}: {shown}"

/-- A whole number to a base with a letter. -/
def based (base : Nat) (letter : Char) (text : List Char) : Except Problem Int :=
  match Numeral.readBase? base letter text with
  | some n => .ok n
  | none => invalidLiteral base text

/-- The number of digits that a numeral starts with. -/
def digitCount (text : List Char) : Nat :=
  match Numeral.plain? text with
  | none => 0
  | some core => ((Decimal.splitSign core).2.takeWhile Decimal.isDigit).length

/-- A decimal whole number. Too many digits are refused before what follows them is looked at. -/
def decimal (text : List Char) : Except Problem Int :=
  let count := digitCount text
  if Numeral.digitLimit < count then valueProblem (Json.Reason.tooManyDigits count).text
  else
    match Numeral.readInt? text with
    | some n => .ok n
    | none => invalidLiteral 10 text

/-- The sum of parts to base sixty, the last one being the units. -/
def sexagesimal (parts : List Int) : Int := parts.foldl (fun total part => 60 * total + part) 0

/-- Splits a number's text into sign and rest; underscores do not count. -/
def signed (text : List Char) : Except Problem (Bool × List Char) :=
  match text.filter (· ≠ '_') with
  | [] => .error (.fault (.machinery "IndexError" "string index out of range"))
  | cs => .ok (Decimal.splitSign cs)

def int (text : List Char) : Except Problem Value := do
  let (negative, body) ← signed text
  let magnitude ←
    match body with
    | ['0'] => pure 0
    | '0' :: 'b' :: rest => based 2 'b' rest
    | '0' :: 'x' :: rest => based 16 'x' rest
    | '0' :: _ => based 8 'o' body
    | [] => .error (.fault (.machinery "IndexError" "string index out of range"))
    | _ =>
      if body.contains ':' then do
        let parts ← (Text.splitAt ':' body).mapM decimal
        pure (sexagesimal parts)
      else decimal body
  return .int (if negative then -magnitude else magnitude)

/-- A floating-point number of decimal digits. -/
def pointed (text : List Char) : Except Problem Binary64 :=
  match Numeral.readBinary64? text with
  | some x => .ok x
  | none => valueProblem s!"could not convert string to float: {quoted (String.ofList text)}"

/-- The rounded sum of rounded multiples, from the units on. Every part has a power of sixty, which
must be in range. -/
def sexagesimalSum (parts : List Binary64) : Except Problem Binary64 := do
  let (sum, _) ← parts.reverse.foldlM
    (fun (total, base) part => do
      if (Binary64.ofInt base).isInfinite then
        throw (.fault (.overflowError "int too large to convert to float"))
      return (Binary64.add total (part.scale (Binary64.roundedNat base)), 60 * base))
    (Binary64.zero false, (1 : Nat))
  return sum

/-- A floating-point number. The word for not-a-number stands for one and the same; otherwise it is
the one of the node. -/
def float (mark : Mark) (text : List Char) : Except Problem Value := do
  let (negative, body) ← signed (lowercase (text.filter (· ≠ '_')))
  if body = ".nan".toList then return .float (.nan .yaml)
  let magnitude ←
    if body = ".inf".toList then pure (.infinity false)
    else if body.contains ':' then do
      let parts ← (Text.splitAt ':' body).mapM pointed
      sexagesimalSum parts
    else pointed body
  if magnitude.isNaN then return .float (.nan mark)
  return .float (if negative then magnitude.negate else magnitude)

def boolWords : List (String × Bool) :=
  [("yes", true), ("no", false), ("true", true), ("false", false), ("on", true), ("off", false)]

def bool (text : List Char) : Except Problem Value :=
  let word := String.ofList (lowercase text)
  match boolWords.lookup word with
  | some b => .ok (.bool b)
  | none => .error (.fault (.keyError (.str word)))

/-- A date alone, or a moment. Further digits of a fraction than six do not count. -/
def timestamp (text : List Char) : Except Problem Value :=
  match PlainTag.timeParts? (PlainTag.withoutLineEnd text) with
  | none =>
    .error (.fault (.attributeError "a text that is no time has no parts"))
  | some parts =>
    let date : Date :=
      ⟨Decimal.value parts.year, Decimal.value parts.month, Decimal.value parts.day⟩
    let read (m : Moment) : Except Problem Moment :=
      match Iso.checked m with
      | .ok m => .ok m
      | .error problem => valueProblem (problem.text "")
    match parts.clock with
    | none => (read (.midnight date)).map fun m => .date m.date
    | some (hour, minute, second, fraction) =>
      let digits := (fraction ++ List.replicate 6 '0').take 6
      let offset : Option Int := parts.zone.map fun zone =>
        match zone with
        | none => 0
        | some (negative, hours, minutes) =>
          let span : Int := ((Decimal.value hours * 60 + Decimal.value minutes) * 60 : Nat) *
            Moment.microsecondsPerSecond
          if negative then -span else span
      (read ⟨date, Decimal.value hour, Decimal.value minute, Decimal.value second,
        Decimal.value digits, offset⟩).map .moment

/-- The six bits that a character carries in binary content. -/
def sixBits? (c : Char) : Option Nat :=
  "ABCDEFGHIJKLMNOPQRSTUVWXYZabcdefghijklmnopqrstuvwxyz0123456789+/".toList.idxOf? c

/-- Decodes groups of four characters to three bytes. `filled` counts the characters of the group
begun and `held` has their bits not yet put out; `pads` counts the padding since the last of them.
Other characters do not count; a group that is begun must be completed. -/
def base64 : List Char → Nat → Nat → Nat → Option (List UInt8)
  | [], filled, _, _ => if filled = 0 then some [] else none
  | c :: rest, filled, held, pads =>
    if c = '=' then
      if 2 ≤ filled then
        if 4 ≤ filled + (pads + 1) then some [] else base64 rest filled held (pads + 1)
      else base64 rest filled held pads
    else
      match sixBits? c with
      | none => base64 rest filled held pads
      | some bits =>
        let emit (byte left : Nat) (filled : Nat) : Option (List UInt8) :=
          (base64 rest filled left 0).map (UInt8.ofNat byte :: ·)
        match filled with
        | 0 => base64 rest 1 bits 0
        | 1 => emit (held * 4 + bits / 16) (bits % 16) 2
        | 2 => emit (held * 16 + bits / 4) (bits % 4) 3
        | _ => emit (held * 64 + bits) 0 0

def binary (text : List Char) : Except Problem Value :=
  if text.any fun c => 128 ≤ c.toNat then .error .malformed
  else
    match base64 text 0 0 0 with
    | some content => .ok (.bytes content)
    | none => .error .malformed

/-- Kinds whose content is read from a text. -/
def isScalarTag (tag : Tag) : Bool :=
  [Tag.null, .bool, .int, .float, .str, .binary, .timestamp].contains tag

/-- The content of a scalar with a mark. Other kinds than those of scalars have none. -/
def scalar (mark : Mark) (tag : Tag) (text : List Char) : Except Problem Value :=
  match tag with
  | .null => .ok .null
  | .bool => bool text
  | .int => int text
  | .float => float mark text
  | .str => .ok (.str (String.ofList text))
  | .binary => binary text
  | .timestamp => timestamp text
  | .sequence | .mapping | .set | .ordered | .pairs | .merge | .default | .other =>
    .error .malformed

end Content

end Yaml

end Stepwise
