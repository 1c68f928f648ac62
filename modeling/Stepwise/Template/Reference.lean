import Stepwise.Number.Numeral
import Stepwise.Time.Span
import Stepwise.Value.Access

/-!
# References

A reference names a value by a dotted path. The first segment is looked for among the outputs of
earlier steps and then in the input of the run; the others lead into the value: to the entry of a
map, the item of a sequence, or the attribute of an object or a time. A reference to null, or
through null, has no value.
-/

namespace Stepwise

namespace Template

/-- The segments of a dotted path, each without blanks at its ends. -/
def segments (path : List Char) : List String :=
  (Text.splitAt '.' path).map fun part => String.ofList (trim part)

/-- What a reference meets on its way: a value, the zone of a moment by its offset, or a span of
time. -/
inductive Part where
  | value (v : Value)
  | zone (offset : Int)
  | span (length : Span)

namespace Part

/-- An offset by name: universal time, or the distance from it. -/
def zoneName (offset : Int) : String :=
  if offset = 0 then "UTC" else "UTC" ++ String.ofList (Moment.offsetChars offset)

/-- The greatest offset of the zones that zones know of, in microseconds; the least is opposite. -/
def greatestOffset : Int := (23 * 60 + 59) * 60 * Moment.microsecondsPerSecond

/-- A part as a value. Zones and spans are objects that show their text. -/
def toValue : Part → Value
  | value v => v
  | zone offset => .object default (zoneName offset) []
  | span length => .object default length.text []

def int (n : Int) : Part := value (.int n)

def dateAttribute? (d : Date) : String → Option Part
  | "year" => some (int d.year)
  | "month" => some (int d.month)
  | "day" => some (int d.day)
  | "min" => some (value (.date ⟨1, 1, 1⟩))
  | "max" => some (value (.date ⟨9999, 12, 31⟩))
  | "resolution" => some (span (.ofDays 1))
  | _ => none

/-- The attributes of a moment; one without offset has no zone. -/
def momentAttribute? (m : Moment) : String → Option Part
  | "hour" => some (int m.hour)
  | "minute" => some (int m.minute)
  | "second" => some (int m.second)
  | "microsecond" => some (int m.microsecond)
  | "fold" => some (int 0)
  | "tzinfo" => m.offset.map zone
  | "min" => some (value (.moment (.midnight ⟨1, 1, 1⟩)))
  | "max" => some (value (.moment ⟨⟨9999, 12, 31⟩, 23, 59, 59, 999999, none⟩))
  | "resolution" => some (span ⟨1⟩)
  | name => dateAttribute? m.date name

def zoneAttribute? : String → Option Part
  | "utc" => some (zone 0)
  | "min" => some (zone (-greatestOffset))
  | "max" => some (zone greatestOffset)
  | _ => none

def spanAttribute? (length : Span) : String → Option Part
  | "days" => some (int length.days)
  | "seconds" => some (int length.seconds)
  | "microseconds" => some (int length.fraction)
  | "min" => some (span .least)
  | "max" => some (span .greatest)
  | "resolution" => some (span ⟨1⟩)
  | _ => none

/-- The attribute of a part that has attributes; the last of equal names counts. -/
def attribute? (part : Part) (name : String) : Option Part :=
  match part with
  | value (.date d) => dateAttribute? d name
  | value (.moment m) => momentAttribute? m name
  | value (.object _ _ attributes) =>
    (attributes.reverse.find? fun entry => entry.1 = name).map fun entry => value entry.2
  | value _ => none
  | zone _ => zoneAttribute? name
  | span length => spanAttribute? length name

/-- An attribute that is data: names that start with an underscore are private, and functions
are not values of references. -/
def dataAttribute? (part : Part) (name : String) : Option Part :=
  if name.toList.head? = some '_' then none
  else
    match part.attribute? name with
    | some (value .callable) => none
    | found => found

/-- The item at a position given as a numeral; negative positions count from the end. -/
def itemAt? (items : List Value) (numeral : String) : Option Value := do
  let index ← Numeral.readInt? numeral.toList
  let place ← Value.position? items.length index
  items[place]?

/-- The part of a part that a segment names. -/
def stepInto (part : Part) (segment : String) : Option Part :=
  match part with
  | value (.map entries) => (Value.get? segment entries).map value
  | value (.list items) => (itemAt? items segment).map value
  | value (.tuple items) => (itemAt? items segment).map value
  | other => other.dataAttribute? segment

/-- A part that a reference can have. -/
def present : Option Part → Option Part
  | some (value .null) => none
  | found => found

/-- Follows segments into a part. -/
def follow (part : Part) : List String → Option Part
  | [] => present (some part)
  | segment :: rest =>
    match present (part.stepInto segment) with
    | some next => follow next rest
    | none => none

end Part

/-- The entry of a map; anything else has none. -/
def boundIn? (v : Value) (name : String) : Option Value :=
  match v with
  | .map entries => Value.get? name entries
  | _ => none

/-- The value bound to a name: outputs hide the input, even when they bind null. -/
def binding? (outputs input : Value) (name : String) : Option Value :=
  (boundIn? outputs name).or (boundIn? input name)

/-- The value a path refers to. A path without a first segment refers to nothing. -/
def lookup (path : List Char) (outputs input : Value) : Option Value :=
  match segments path with
  | [] => none
  | head :: rest =>
    if head = "" then none
    else
      match Part.present ((binding? outputs input head).map Part.value) with
      | some part => (part.follow rest).map Part.toValue
      | none => none

end Template

end Stepwise
