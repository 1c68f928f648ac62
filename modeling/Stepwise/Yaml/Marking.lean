import Stepwise.Json.Reader
import Stepwise.Text.Utf8
import Stepwise.Yaml.Cursor
import Stepwise.Yaml.Token

/-!
# Directives, tags and anchors

The words of a YAML text that are not content: instructions about a document, the kinds that
nodes are given, and the names by which nodes are referred to again.
-/

namespace Stepwise

namespace Yaml

def isWordChar (c : Char) : Bool := c.isAlphanum || c = '-' || c = '_'

def isUriChar (c : Char) : Bool :=
  c.isAlphanum || "-;/?:@&=+$,_.!~*'()[]%".toList.contains c

/-- The word here; there has to be one. -/
def word (place : Cursor) : Except Problem (List Char × Cursor) :=
  match place.run isWordChar with
  | ([], _) => .error .malformed
  | found => .ok found

/-- The name of an anchor or alias, from its mark on. -/
def anchorName (place : Cursor) : Except Problem (List Char × Cursor) := do
  let (name, place) ← word place.next
  let ends := endsWord place.peek || place.peek.any fun c => "?:,]\x7d%@`".toList.contains c
  if ends then return (name, place) else .error .malformed

/-- The handle of a tag: an exclamation mark, or a word between two. -/
def handle (place : Cursor) : Except Problem (List Char × Cursor) :=
  if place.peek ≠ some '!' then .error .malformed
  else if place.peekAt 1 = some ' ' then .ok (['!'], place.next)
  else
    let (name, behind) := place.next.run isWordChar
    if behind.peek = some '!' then .ok ('!' :: name ++ ['!'], behind.next) else .error .malformed

/-- The bytes of a run of percent escapes. -/
def escapedBytes : Nat → Cursor → Except Problem (List UInt8 × Cursor)
  | 0, place => .ok ([], place)
  | fuel + 1, place =>
    match place.rest with
    | '%' :: high :: low :: _ =>
      match Json.hexValue? high, Json.hexValue? low with
      | some h, some l => do
        let (others, place) ← escapedBytes fuel (place.skip 3)
        return (UInt8.ofNat (16 * h + l) :: others, place)
      | _, _ => .error .malformed
    | '%' :: _ => .error .malformed
    | _ => .ok ([], place)

/-- The characters of a tag's name, with percent escapes decoded. -/
def uriChars : Nat → Cursor → Except Problem (List Char × Cursor)
  | 0, place => .ok ([], place)
  | fuel + 1, place =>
    match place.peek with
    | some c =>
      if c = '%' then do
        let (content, place) ← escapedBytes (fuel + 1) place
        match Utf8.decode content with
        | .error _ => .error .malformed
        | .ok chars =>
          let (others, place) ← uriChars fuel place
          return (chars ++ others, place)
      else if isUriChar c then do
        let (others, place) ← uriChars fuel place.next
        return (c :: others, place)
      else .ok ([], place)
    | none => .ok ([], place)

/-- The name of a tag; there has to be one. -/
def uri (place : Cursor) : Except Problem (List Char × Cursor) :=
  if place.peek.any isUriChar then uriChars (place.rest.length + 1) place else .error .malformed

/-- The characters of a tag up to a blank hold a second mark. -/
def hasHandle (place : Cursor) : Bool :=
  ((place.rest.drop 1).takeWhile fun c => !(isBreak c || c = ' ')).contains '!'

/-- The tag here, which a blank or the end of the line has to follow. -/
def tag (place : Cursor) : Except Problem (Token × Cursor) := do
  let (token, place) ←
    if place.peekAt 1 = some '<' then do
      let (name, place) ← uri (place.skip 2)
      if place.peek = some '>' then pure (Token.tag none name, place.next)
      else .error Problem.malformed
    else if endsWord (place.peekAt 1) then pure (Token.tag none ['!'], place.next)
    else do
      let (handle, place) ←
        if hasHandle place then handle place else pure (['!'], place.next)
      let (suffix, place) ← uri place
      pure (Token.tag (some handle) suffix, place)
  if endsField place.peek then return (token, place) else .error .malformed

/-- The number here; there has to be one, and not one of too many digits. -/
def number (place : Cursor) : Except Problem (Nat × Cursor) :=
  let (digits, place) := place.run Decimal.isDigit
  if digits = [] then .error .malformed
  else if Numeral.digitLimit < digits.length then
    .error (.fault (.valueError (Json.Reason.tooManyDigits digits.length).text))
  else .ok (Decimal.value digits, place)

/-- The instruction here, from its mark to the end of its line. -/
def directive (place : Cursor) : Except Problem (Directive × Cursor) := do
  let (name, place) ← word place.next
  if !endsField place.peek then .error .malformed
  else if name = "YAML".toList then
    let (major, place) ← number (place.pass (· = ' '))
    if place.peek ≠ some '.' then .error .malformed
    else
      let (_, place) ← number place.next
      if !endsField place.peek then .error .malformed
      else
        let place ← place.endLine
        return (.version major, place)
  else if name = "TAG".toList then
    let (name, place) ← handle (place.pass (· = ' '))
    if place.peek ≠ some ' ' then .error .malformed
    else
      let (stands, place) ← uri (place.pass (· = ' '))
      if !endsField place.peek then .error .malformed
      else
        let place ← place.endLine
        return (.handle name stands, place)
  else
    let place ← (place.pass (!isBreak ·)).endLine
    return (.other, place)

end Yaml

end Stepwise
