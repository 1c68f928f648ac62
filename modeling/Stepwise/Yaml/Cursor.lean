import Stepwise.Fault.Basic

/-!
# Reading positions in YAML

A cursor holds the characters not yet read and where they stand. Lines and columns matter in
YAML: a column counts the characters of a line before the cursor, byte order marks aside.
-/

namespace Stepwise

namespace Yaml

/-- Why a text has no content: it is not well formed, or reading it met a fault. -/
inductive Problem where
  | malformed
  | fault (met : Fault)

structure Cursor where
  rest : List Char
  index : Nat
  line : Nat
  column : Nat

/-- The characters that end lines. -/
def isBreak (c : Char) : Bool :=
  c = '\n' || c = '\r' || c = '\x85' || c = '\u2028' || c = '\u2029'

def isSpacing (c : Char) : Bool := c = ' ' || c = '\t'

/-- Characters that may occur in a YAML text. -/
def isAllowed (c : Char) : Bool :=
  let n := c.toNat
  n = 0x9 || n = 0xa || n = 0xd || (0x20 ≤ n && n ≤ 0x7e) || n = 0x85 ||
    (0xa0 ≤ n && n ≤ 0xd7ff) || (0xe000 ≤ n && n ≤ 0xfffd) || 0x10000 ≤ n

/-- The text or the line ends here. -/
def endsLine : Option Char → Bool
  | none => true
  | some c => isBreak c

/-- The text, the line or a word before a blank ends here. -/
def endsField : Option Char → Bool
  | none => true
  | some c => isBreak c || c = ' '

/-- The text, the line or a word before a blank or a tab ends here. -/
def endsWord : Option Char → Bool
  | none => true
  | some c => isBreak c || isSpacing c

namespace Cursor

def start (text : List Char) : Cursor := ⟨text, 0, 0, 0⟩

def peek (place : Cursor) : Option Char := place.rest.head?

def peekAt (place : Cursor) (k : Nat) : Option Char := place.rest[k]?

/-- The cursor behind the next character. A carriage return before a line feed does not end the
line yet. -/
def next (place : Cursor) : Cursor :=
  match place.rest with
  | [] => place
  | c :: rest =>
    if isBreak c && !(c = '\r' && rest.head? = some '\n') then
      ⟨rest, place.index + 1, place.line + 1, 0⟩
    else if c = '\ufeff' then ⟨rest, place.index + 1, place.line, place.column⟩
    else ⟨rest, place.index + 1, place.line, place.column + 1⟩

/-- The cursor a number of characters further. -/
def skip : Nat → Cursor → Cursor
  | 0, place => place
  | count + 1, place => skip count place.next

/-- The longest run of characters of a class, and the cursor behind it. -/
def run (kind : Char → Bool) (place : Cursor) : List Char × Cursor :=
  let taken := place.rest.takeWhile kind
  (taken, place.skip taken.length)

/-- The cursor behind a run of characters of a class. -/
def pass (kind : Char → Bool) (place : Cursor) : Cursor := (place.run kind).2

/-- The line break here, as it counts in texts, and the cursor behind it. -/
def lineBreak? (place : Cursor) : Option (Char × Cursor) :=
  match place.rest with
  | [] => none
  | c :: rest =>
    if c = '\r' && rest.head? = some '\n' then some ('\n', place.skip 2)
    else if c = '\u2028' || c = '\u2029' then some (c, place.next)
    else if isBreak c then some ('\n', place.next)
    else none

/-- Behind the line break here, if there is one. -/
def passBreak (place : Cursor) : Cursor :=
  match place.lineBreak? with
  | some (_, behind) => behind
  | none => place

/-- Behind the comment here, if there is one. -/
def passComment (place : Cursor) : Cursor :=
  if place.peek = some '#' then place.pass (!isBreak ·) else place

/-- Three given marks start here and end a word. -/
def marks (mark : Char) (place : Cursor) : Bool :=
  place.rest.take 3 = [mark, mark, mark] && endsWord (place.peekAt 3)

/-- A mark between documents starts here. -/
def separates (place : Cursor) : Bool := place.marks '-' || place.marks '.'

/-- Nothing but blanks and a comment is left on the line; the cursor behind its end. -/
def endLine (place : Cursor) : Except Problem Cursor :=
  let place := (place.pass (· = ' ')).passComment
  if endsLine place.peek then .ok place.passBreak else .error .malformed

end Cursor

end Yaml

end Stepwise
