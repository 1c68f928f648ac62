import Stepwise.Value.Equality
import Stepwise.Value.Text

/-!
# Writing JSON

Values as JSON texts of ASCII characters. Two layouts are in use: the compact one inside
templates and the indented one of files. A value that JSON has no form for is handed to a
fallback, which may offer a text in its place. A map is written entry by entry in its order;
its keys have to be texts, numbers, truth values or null.
-/

namespace Stepwise

namespace Json

/-- How parts are set out: the blanks per level, or none for a single line, and what stands
between items and after a key. -/
structure Layout where
  indent : Option Nat
  itemMark : List Char
  keyMark : List Char

def compact : Layout := ⟨none, [','], [':']⟩

def indented : Layout := ⟨some 2, [','], [':', ' ']⟩

/-- The start of a line at a level; nothing when all is on one line. -/
def Layout.newline (layout : Layout) (level : Nat) : List Char :=
  match layout.indent with
  | none => []
  | some width => '\n' :: List.replicate (width * level) ' '

/-- A code unit of sixteen bits as an escape. -/
def escapedUnit (n : Nat) : List Char := '\\' :: 'u' :: Quoted.hex 4 n

/-- One character inside a string. Characters outside the basic plane become two units. -/
def escapedChar (c : Char) : List Char :=
  if c = '"' then ['\\', '"']
  else if c = '\\' then ['\\', '\\']
  else if c = '\n' then ['\\', 'n']
  else if c = '\r' then ['\\', 'r']
  else if c = '\t' then ['\\', 't']
  else if c = '\x0c' then ['\\', 'f']
  else if c = '\x08' then ['\\', 'b']
  else if 0x20 ≤ c.toNat ∧ c.toNat < 0x7f then [c]
  else if c.toNat < 0x10000 then escapedUnit c.toNat
  else
    let rest := c.toNat - 0x10000
    escapedUnit (0xd800 + rest / 0x400) ++ escapedUnit (0xdc00 + rest % 0x400)

def writeString (text : List Char) : List Char := '"' :: text.flatMap escapedChar ++ ['"']

/-- Floating-point numbers, with the words for those that JSON proper lacks. -/
def writeFloat : Binary64 → List Char
  | .nan _ => "NaN".toList
  | .infinity negative => if negative then "-Infinity".toList else "Infinity".toList
  | x => Decimal.write x

def writeWhole (n : Int) : Except Fault (List Char) := (Value.wholeText n).map String.toList

/-- The text of a key. -/
def writeKey : Value → Except Fault (List Char)
  | .str text => .ok text.toList
  | .float x => .ok (writeFloat x)
  | .bool b => .ok (if b then "true".toList else "false".toList)
  | .null => .ok "null".toList
  | .int n => writeWhole n
  | other =>
    .error (.typeError s!"keys must be str, int, float, bool or None, not {other.kind}")

/-- What is written for a value that JSON has no form for. -/
abbrev Fallback := Value → Except Fault String

/-- Refuses every value without a form. -/
def noFallback : Fallback := fun v =>
  .error (.typeError s!"Object of type {v.kind} is not JSON serializable")

mutual

/-- The JSON text of a value at a level of nesting. -/
def write (layout : Layout) (fallback : Fallback) (level : Nat) : Value → Except Fault (List Char)
  | .null => .ok "null".toList
  | .bool b => .ok (if b then "true".toList else "false".toList)
  | .int n => writeWhole n
  | .float x => .ok (writeFloat x)
  | .str text => .ok (writeString text.toList)
  | .list items => writeList layout fallback level items
  | .tuple items => writeList layout fallback level items
  | .map entries =>
    match entries with
    | [] => .ok ['\x7b', '\x7d']
    | entries => do
      let parts ← writeEntries layout fallback (level + 1) entries
      return '\x7b' :: layout.newline (level + 1) ++
        (layout.itemMark ++ layout.newline (level + 1)).intercalate parts ++
        layout.newline level ++ ['\x7d']
  | .bytes content => fallbackText fallback (.bytes content)
  | .set items => fallbackText fallback (.set items)
  | .date d => fallbackText fallback (.date d)
  | .moment m => fallbackText fallback (.moment m)
  | .object identity text attributes => fallbackText fallback (.object identity text attributes)
  | .callable => fallbackText fallback .callable
  | .faulty identity message => fallbackText fallback (.faulty identity message)
  | .endless _ _ => .error (.valueError "Circular reference detected")
where
  /-- The string that stands for a value without a form. -/
  fallbackText (fallback : Fallback) (v : Value) : Except Fault (List Char) := do
    let text ← fallback v
    return writeString text.toList

/-- Items between brackets. -/
def writeList (layout : Layout) (fallback : Fallback) (level : Nat) :
    List Value → Except Fault (List Char)
  | [] => .ok ['[', ']']
  | item :: rest => do
    let first ← write layout fallback (level + 1) item
    let others ← writeItems layout fallback (level + 1) rest
    return '[' :: layout.newline (level + 1) ++
      (layout.itemMark ++ layout.newline (level + 1)).intercalate (first :: others) ++
      layout.newline level ++ [']']

def writeItems (layout : Layout) (fallback : Fallback) (level : Nat) :
    List Value → Except Fault (List (List Char))
  | [] => .ok []
  | item :: rest => do
    let first ← write layout fallback level item
    let others ← writeItems layout fallback level rest
    return first :: others

def writeEntries (layout : Layout) (fallback : Fallback) (level : Nat) :
    List (Value × Value) → Except Fault (List (List Char))
  | [] => .ok []
  | (key, content) :: rest => do
    let name ← writeKey key
    let body ← write layout fallback level content
    let others ← writeEntries layout fallback level rest
    return (writeString name ++ layout.keyMark ++ body) :: others

end

/-- The text of a file that holds a value; values without a form are refused. -/
def document (v : Value) : Except Fault (List Char) := write indented noFallback 0 v

end Json

end Stepwise
