import Stepwise.Fault.Basic
import Stepwise.Number.Numeral
import Stepwise.Text.Quoted
import Stepwise.Time.Span

/-!
# The text of values

A value has two texts: the quoted one, which shows its structure and quotes what it holds, and
the plain one, which differs for a text itself, for times and for host objects. Neither exists
for a faulty value, nor for a whole number with too many digits.
-/

namespace Stepwise

namespace Value

/-- A whole number has too many digits to be written. -/
def tooManyDigits : Fault :=
  .valueError ("Exceeds the limit (4300 digits) for integer string conversion; " ++
    "use sys.set_int_max_str_digits() to increase the limit")

/-- The digits of a whole number, if there are not too many of them. -/
def wholeText (n : Int) : Except Fault String :=
  if n.natAbs < Nat.pow 10 Numeral.digitLimit then .ok (toString n) else .error tooManyDigits

/-- The offset of a moment as messages show it. -/
def zoneText (offset : Int) : String :=
  if offset = 0 then "datetime.timezone.utc"
  else "datetime.timezone(" ++ Span.shown ⟨offset⟩ ++ ")"

def momentText (m : Moment) : String :=
  let parts := [m.date.year, m.date.month, m.date.day, m.hour, m.minute] ++
    (if m.microsecond ≠ 0 then [m.second, m.microsecond]
     else if m.second ≠ 0 then [m.second] else [])
  let shown := parts.map toString ++
    match m.offset with
    | none => []
    | some offset => ["tzinfo=" ++ zoneText offset]
  "datetime.datetime(" ++ ", ".intercalate shown ++ ")"

mutual

/-- The quoted text of a value. -/
def shown : Value → Except Fault String
  | null => .ok "None"
  | bool b => .ok (if b then "True" else "False")
  | int n => wholeText n
  | float x => .ok x.text
  | str text => .ok (quoted text)
  | bytes content => .ok (String.ofList (Quoted.bytes content))
  | list items => do
    let parts ← shownItems items
    return "[" ++ ", ".intercalate parts ++ "]"
  | tuple items => do
    let parts ← shownItems items
    match parts with
    | [single] => return "(" ++ single ++ ",)"
    | _ => return "(" ++ ", ".intercalate parts ++ ")"
  | map entries => do
    let parts ← shownEntries entries
    return "\x7b" ++ ", ".intercalate parts ++ "\x7d"
  | set items => do
    let parts ← shownItems items
    return if parts.isEmpty then "set()" else "\x7b" ++ ", ".intercalate parts ++ "\x7d"
  | date d => .ok s!"datetime.date({d.year}, {d.month}, {d.day})"
  | moment m => .ok (momentText m)
  | object _ text _ => .ok text
  | callable => .ok "<function>"
  | faulty _ message => .error (.machinery "RuntimeError" message)
  | endless text _ => .ok text.get

def shownItems : List Value → Except Fault (List String)
  | [] => .ok []
  | item :: rest => do
    let first ← shown item
    let others ← shownItems rest
    return first :: others

def shownEntries : List (Value × Value) → Except Fault (List String)
  | [] => .ok []
  | (key, content) :: rest => do
    let left ← shown key
    let right ← shown content
    let others ← shownEntries rest
    return (left ++ ": " ++ right) :: others

end

/-- The plain text of a value. -/
def text : Value → Except Fault String
  | str text => .ok text
  | date d => .ok d.text
  | moment m => .ok (String.ofList (m.chars ' '))
  | v => v.shown

end Value

end Stepwise
