import Stepwise.Json.Reader
import Stepwise.Yaml.Cursor

/-!
# The texts of YAML scalars

A scalar is written plain, between quotes, or as a block of lines. Line breaks inside plain and
quoted scalars are folded: one is a blank, and of several the first is dropped. A block keeps
its breaks, or folds those between lines that do not start with a blank.
-/

namespace Stepwise

namespace Yaml

/-- What a line break and the empty lines after it come to when folded. -/
def folded (first : Char) (others : List Char) : List Char :=
  if first ≠ '\n' then first :: others
  else if others = [] then [' ']
  else others

namespace Quoted

/-- The empty lines inside a quoted scalar; no document may end there. -/
def breaks : Nat → Cursor → Except Problem (List Char × Cursor)
  | 0, place => .ok ([], place)
  | fuel + 1, place =>
    if place.separates then .error .malformed
    else
      let place := place.pass isSpacing
      match place.lineBreak? with
      | some (c, place) => do
        let (others, place) ← breaks fuel place
        return (c :: others, place)
      | none => .ok ([], place)

/-- Blanks and line breaks inside a quoted scalar. -/
def spaces (fuel : Nat) (place : Cursor) : Except Problem (List Char × Cursor) :=
  let (blanks, place) := place.run isSpacing
  match place.lineBreak? with
  | some (first, place) => do
    let (others, place) ← breaks fuel place
    return (folded first others, place)
  | none => if place.rest = [] then .error .malformed else .ok (blanks, place)

/-- The characters that one-letter escapes stand for. -/
def escapes : List (Char × Char) :=
  [('0', '\x00'), ('a', '\x07'), ('b', '\x08'), ('t', '\t'), ('\t', '\t'), ('n', '\n'),
   ('v', '\x0b'), ('f', '\x0c'), ('r', '\r'), ('e', '\x1b'), (' ', ' '), ('"', '"'),
   ('\\', '\\'), ('/', '/'), ('N', '\x85'), ('_', '\xa0'), ('L', '\u2028'), ('P', '\u2029')]

/-- How many hexadecimal digits follow the letter of a numeric escape. -/
def codeLength? (c : Char) : Option Nat :=
  if c = 'x' then some 2 else if c = 'u' then some 4 else if c = 'U' then some 8 else none

/-- The number of hexadecimal digits, if all are. -/
def hexadecimal? (ds : List Char) : Option Nat :=
  ds.foldl (fun total c => total.bind fun t => (Json.hexValue? c).map (16 * t + ·)) (some 0)

/-- The character of a code point; beyond the last one there is none. -/
def charOfCode (code : Nat) : Except Problem Char :=
  if 0x80000000 ≤ code then
    .error (.fault (.overflowError "code point too large"))
  else if 0x10ffff < code then
    .error (.fault (.valueError "chr() arg not in range(0x110000)"))
  else .ok (Json.charOfCode code)

/-- An escape, from behind its backslash on. -/
def escape (fuel : Nat) (place : Cursor) : Except Problem (List Char × Cursor) :=
  match place.peek with
  | none => .error .malformed
  | some letter =>
    match escapes.lookup letter, codeLength? letter with
    | some c, _ => .ok ([c], place.next)
    | none, some length =>
      let ds := place.next.rest.take length
      match if ds.length = length then hexadecimal? ds else none with
      | none => .error .malformed
      | some code => do
        let c ← charOfCode code
        return ([c], place.next.skip length)
    | none, none =>
      if isBreak letter then breaks fuel place.passBreak else .error .malformed

/-- The rest of a quoted scalar and its closing quote. -/
def body (double : Bool) : Nat → Cursor → Except Problem (List Char × Cursor)
  | 0, _ => .error .malformed
  | fuel + 1, place => do
    let append (piece : List Char) (place : Cursor) : Except Problem (List Char × Cursor) := do
      let (others, place) ← body double fuel place
      return (piece ++ others, place)
    match place.peek with
    | none => .error .malformed
    | some c =>
      if double && c = '"' then return ([], place.next)
      else if !double && c = '\'' then
        if place.peekAt 1 = some '\'' then append ['\''] (place.skip 2)
        else return ([], place.next)
      else if double && c = '\\' then
        let (piece, place) ← escape (fuel + 1) place.next
        append piece place
      else if isSpacing c || isBreak c then
        let (piece, place) ← spaces (fuel + 1) place
        append piece place
      else append [c] place.next

/-- The quoted scalar here, from its opening quote on. -/
def read (double : Bool) (place : Cursor) : Except Problem (List Char × Cursor) :=
  body double (place.rest.length + 1) place.next

end Quoted

namespace Plain

/-- Blanks and empty lines between the lines of a plain scalar; none at a mark between
documents. -/
def breaks : Nat → Cursor → Option (List Char) × Cursor
  | 0, place => (some [], place)
  | fuel + 1, place =>
    if place.peek = some ' ' then breaks fuel place.next
    else
      match place.lineBreak? with
      | none => (some [], place)
      | some (c, place) =>
        if place.separates then (none, place)
        else
          let (others, place) := breaks fuel place
          (others.map (c :: ·), place)

/-- What stands between two words of a plain scalar, which is nothing when the scalar ends, and
whether a line break was passed. -/
def spaces (place : Cursor) : List Char × Bool × Cursor :=
  let (blanks, place) := place.run (· = ' ')
  match place.lineBreak? with
  | none => (blanks, false, place)
  | some (first, place) =>
    if place.separates then ([], true, place)
    else
      match breaks (place.rest.length + 1) place with
      | (none, place) => ([], true, place)
      | (some others, place) => (folded first others, true, place)

/-- Characters that set off the parts of flow collections. -/
def isFlowMark (c : Char) : Bool :=
  c = ',' || c = '?' || c = '[' || c = ']' || c = '\x7b' || c = '\x7d'

/-- A plain scalar's word ends at a blank, at a colon before a blank and, in flow collections, at
their marks. -/
def endsWith (flow : Bool) (c : Char) (following : Option Char) : Bool :=
  isBreak c || isSpacing c ||
    (c = ':' && (endsWord following || (flow && following.any fun d =>
      d = ',' || d = '[' || d = ']' || d = '\x7b' || d = '\x7d'))) ||
    (flow && isFlowMark c)

/-- The leading characters of a text that belong to a word. -/
def word (flow : Bool) : List Char → List Char
  | [] => []
  | c :: rest => if endsWith flow c rest.head? then [] else c :: word flow rest

/-- The words of a plain scalar that stand at least at a column, with what is between them, and
whether the scalar ends behind a line break. -/
def words (flow : Bool) (indent : Int) :
    Nat → List Char → Bool → Cursor → List Char × Bool × Cursor
  | 0, _, broken, place => ([], broken, place)
  | fuel + 1, before, broken, place =>
    if place.peek = some '#' then ([], broken, place)
    else
      let taken := word flow place.rest
      if taken = [] then ([], broken, place)
      else
        let (between, broken, place) := spaces (place.skip taken.length)
        if between = [] || place.peek = some '#' || (!flow && (place.column : Int) < indent) then
          (before ++ taken, broken, place)
        else
          let (others, broken, place) := words flow indent fuel between broken place
          (before ++ taken ++ others, broken, place)

/-- The plain scalar here, and whether a line break was passed behind its last word. -/
def read (flow : Bool) (indent : Int) (place : Cursor) : List Char × Bool × Cursor :=
  words flow indent (place.rest.length + 1) [] false place

end Plain

namespace Block

/-- What becomes of the line breaks that end a block. -/
inductive Chomping where
  | clip
  | strip
  | keep
  deriving DecidableEq

def chomping? (c : Char) : Option Chomping :=
  if c = '+' then some .keep else if c = '-' then some .strip else none

/-- The indentation that a digit asks for; zero is none. -/
def increment? (c : Char) : Option Nat := Decimal.digit? c

/-- The signs behind the mark of a block, in either order. -/
def header (place : Cursor) : Except Problem (Chomping × Option Nat × Cursor) := do
  let (chomping, increment, place) :=
    match place.peek.bind chomping? with
    | some chomping =>
      match place.next.peek.bind increment? with
      | some n => (chomping, some n, place.skip 2)
      | none => (chomping, none, place.next)
    | none =>
      match place.peek.bind increment? with
      | some n =>
        match place.next.peek.bind chomping? with
        | some chomping => (chomping, some n, place.skip 2)
        | none => (.clip, some n, place.next)
      | none => (.clip, none, place)
  if increment = some 0 || !endsField place.peek then .error .malformed
  else
    let place ← place.endLine
    return (chomping, increment, place)

/-- The empty lines at the start of a block and the widest indentation among them and of the
first line with text. -/
def lead : Nat → Nat → Cursor → List Char × Nat × Cursor
  | 0, widest, place => ([], widest, place)
  | fuel + 1, widest, place =>
    if place.peek = some ' ' then lead fuel (max widest place.next.column) place.next
    else
      match place.lineBreak? with
      | none => ([], widest, place)
      | some (c, place) =>
        let (others, widest, place) := lead fuel widest place
        (c :: others, widest, place)

/-- Passes blanks up to a column. -/
def toColumn (column : Nat) (place : Cursor) : Cursor :=
  place.skip (min (column - place.column) (place.rest.takeWhile (· = ' ')).length)

/-- The empty lines between lines of a block. -/
def breaks (indent : Nat) : Nat → Cursor → List Char × Cursor
  | 0, place => ([], place)
  | fuel + 1, place =>
    let place := toColumn indent place
    match place.lineBreak? with
    | none => ([], place)
    | some (c, place) =>
      let (others, place) := breaks indent fuel place
      (c :: others, place)

/-- A line of the block starts here. -/
def continues (indent : Nat) (place : Cursor) : Bool :=
  place.column = indent && place.rest ≠ []

/-- The lines of a block joined, the break of its last line, the empty lines after that, and the
cursor behind them. -/
def lines (fold : Bool) (indent : Nat) :
    Nat → Cursor → List Char × List Char × List Char × Cursor
  | 0, place => ([], [], [], place)
  | fuel + 1, place =>
    let starts := place.peek
    let (line, place) := place.run (!isBreak ·)
    let (last, place) :=
      match place.lineBreak? with
      | some (c, place) => ([c], place)
      | none => ([], place)
    let (empty, place) := breaks indent (place.rest.length + 1) place
    if continues indent place then
      let folds := fold && last = ['\n'] && !starts.any isSpacing && !place.peek.any isSpacing
      let between := if folds then (if empty = [] then [' '] else []) else last
      let (others, final, trailing, place) := lines fold indent fuel place
      (line ++ between ++ empty ++ others, final, trailing, place)
    else (line, last, empty, place)

/-- The block scalar here, inside a block of the given indentation. -/
def read (fold : Bool) (outer : Int) (place : Cursor) : Except Problem (List Char × Cursor) := do
  let (chomping, increment, place) ← header place.next
  let least := max (outer + 1) 1 |>.toNat
  let fuel := place.rest.length + 1
  let (indent, empty, place) :=
    match increment with
    | some n =>
      let indent := least + n - 1
      let (empty, place) := breaks indent fuel place
      (indent, empty, place)
    | none =>
      let (empty, widest, place) := lead fuel 0 place
      (max least widest, empty, place)
  let (text, last, trailing, place) :=
    if continues indent place then
      let (text, last, trailing, place) := lines fold indent fuel place
      (empty ++ text, last, trailing, place)
    else ([], [], empty, place)
  let ending :=
    match chomping with
    | .strip => []
    | .clip => last
    | .keep => last ++ trailing
  return (text ++ ending, place)

end Block

end Yaml

end Stepwise
