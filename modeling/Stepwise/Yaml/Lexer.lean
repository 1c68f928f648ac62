import Stepwise.Yaml.Marking
import Stepwise.Yaml.Scalar

/-!
# Cutting YAML into tokens

Outside flow collections, indentation opens and closes collections. A key may be recognised only
by the colon after it: until then its place is remembered, for one place per level of flow, and
its token is held back. Such a place goes stale at the end of its line or after 1024 characters.
-/

namespace Stepwise

namespace Yaml

/-- A place where a key may have started. The token there has a number; a key that starts a line
of a block mapping is required. -/
structure KeyPlace where
  number : Nat
  required : Bool
  index : Nat
  line : Nat
  column : Nat

/-- How far a text has been cut. `queue` holds the tokens not yet given out, and `given` counts
those that were. `keys` has the places of possible keys with their levels of flow. -/
structure Lexer where
  place : Cursor
  flow : Nat
  indent : Int
  outer : List Int
  keyAllowed : Bool
  keys : List (Nat × KeyPlace)
  given : Nat
  queue : List Token
  finished : Bool

namespace Lexer

def start (text : List Char) : Lexer :=
  ⟨.start text, 0, -1, [], true, [], 0, [], false⟩

def push (token : Token) (lexer : Lexer) : Lexer := { lexer with queue := lexer.queue ++ [token] }

/-- Puts a token in front of the one with a number. -/
def insertAt (number : Nat) (token : Token) (lexer : Lexer) : Lexer :=
  let k := number - lexer.given
  { lexer with queue := lexer.queue.take k ++ token :: lexer.queue.drop k }

def inBlock (lexer : Lexer) : Bool := lexer.flow = 0

def KeyPlace.stale (lexer : Lexer) (key : KeyPlace) : Bool :=
  key.line ≠ lexer.place.line || key.index + 1024 < lexer.place.index

/-- Gives stale places up; a required key must not be among them. -/
def dropStale (lexer : Lexer) : Except Problem Lexer :=
  if lexer.keys.any fun (_, key) => KeyPlace.stale lexer key && key.required then
    .error .malformed
  else .ok { lexer with keys := lexer.keys.filter fun (_, key) => !KeyPlace.stale lexer key }

/-- Gives up the place of this level of flow, unless its key is required. -/
def dropKey (lexer : Lexer) : Except Problem Lexer :=
  match lexer.keys.lookup lexer.flow with
  | none => .ok lexer
  | some key =>
    if key.required then .error .malformed
    else .ok { lexer with keys := lexer.keys.filter fun (level, _) => level ≠ lexer.flow }

/-- Remembers this place as the start of a possible key, where keys are allowed. -/
def saveKey (lexer : Lexer) : Except Problem Lexer := do
  if lexer.keyAllowed then
    let place := lexer.place
    let required := lexer.inBlock && lexer.indent = place.column
    let number := lexer.given + lexer.queue.length
    let lexer ← lexer.dropKey
    let key : KeyPlace := ⟨number, required, place.index, place.line, place.column⟩
    return { lexer with keys := lexer.keys ++ [(lexer.flow, key)] }
  else return lexer

/-- Closes the blocks indented beyond a column. -/
def closeBeyond (column : Int) (lexer : Lexer) : Lexer :=
  if !lexer.inBlock then lexer
  else close lexer.outer lexer
where
  close : List Int → Lexer → Lexer
    | [], lexer => lexer
    | outer :: rest, lexer =>
      if column < lexer.indent then
        close rest (({ lexer with indent := outer, outer := rest }).push .blockEnd)
      else lexer

/-- Opens a block at a column, unless one is open there. -/
def openAt (column : Nat) (lexer : Lexer) : Option Lexer :=
  if lexer.indent < column then
    some { lexer with indent := column, outer := lexer.indent :: lexer.outer }
  else none

/-- Moves to the next token: past blanks, comments and line breaks. -/
def toToken : Nat → Lexer → Lexer
  | 0, lexer => lexer
  | fuel + 1, lexer =>
    let place := (lexer.place.pass (· = ' ')).passComment
    match place.lineBreak? with
    | none => { lexer with place }
    | some (_, place) =>
      toToken fuel { lexer with place, keyAllowed := lexer.keyAllowed || lexer.inBlock }

/-- Passes a number of characters as one token. -/
def take (count : Nat) (token : Token) (lexer : Lexer) : Lexer :=
  ({ lexer with place := lexer.place.skip count }).push token

def fetchEnd (lexer : Lexer) : Except Problem Lexer := do
  let lexer ← (lexer.closeBeyond (-1)).dropKey
  return ({ lexer with keyAllowed := false, keys := [], finished := true }).push .streamEnd

def fetchDirective (lexer : Lexer) : Except Problem Lexer := do
  let lexer ← (lexer.closeBeyond (-1)).dropKey
  let (content, place) ← directive lexer.place
  return ({ lexer with keyAllowed := false, place }).push (.directive content)

def fetchSeparator (token : Token) (lexer : Lexer) : Except Problem Lexer := do
  let lexer ← (lexer.closeBeyond (-1)).dropKey
  return ({ lexer with keyAllowed := false }).take 3 token

def fetchFlowStart (token : Token) (lexer : Lexer) : Except Problem Lexer := do
  let lexer ← lexer.saveKey
  return ({ lexer with flow := lexer.flow + 1, keyAllowed := true }).take 1 token

/-- The end of a flow collection. One that was never opened ends the cutting, for nothing can
follow it. -/
def fetchFlowEnd (token : Token) (lexer : Lexer) : Except Problem Lexer := do
  let lexer ← lexer.dropKey
  let lexer := { lexer with flow := lexer.flow - 1, keyAllowed := false, finished := lexer.inBlock }
  return lexer.take 1 token

def fetchFlowEntry (lexer : Lexer) : Except Problem Lexer := do
  let lexer ← lexer.dropKey
  return ({ lexer with keyAllowed := true }).take 1 .flowEntry

def fetchBlockEntry (lexer : Lexer) : Except Problem Lexer := do
  if lexer.inBlock && !lexer.keyAllowed then .error .malformed
  else
    let lexer :=
      if lexer.inBlock then
        match lexer.openAt lexer.place.column with
        | some opened => opened.push .blockSequence
        | none => lexer
      else lexer
    let lexer ← lexer.dropKey
    return ({ lexer with keyAllowed := true }).take 1 .blockEntry

/-- The mark of a key, or of content that no key was seen for. -/
def fetchMark (token : Token) (lexer : Lexer) : Except Problem Lexer := do
  if lexer.inBlock && !lexer.keyAllowed then .error .malformed
  else
    let lexer :=
      if lexer.inBlock then
        match lexer.openAt lexer.place.column with
        | some opened => opened.push .blockMapping
        | none => lexer
      else lexer
    let lexer ← lexer.dropKey
    return ({ lexer with keyAllowed := lexer.inBlock }).take 1 token

/-- The mark of content. A place remembered at this level was the start of its key. -/
def fetchContent (lexer : Lexer) : Except Problem Lexer :=
  match lexer.keys.lookup lexer.flow with
  | none => lexer.fetchMark .content
  | some key =>
    let lexer := { lexer with keys := lexer.keys.filter fun (level, _) => level ≠ lexer.flow }
    let lexer := lexer.insertAt key.number .key
    let lexer :=
      if lexer.inBlock then
        match lexer.openAt key.column with
        | some opened => opened.insertAt key.number .blockMapping
        | none => lexer
      else lexer
    .ok (({ lexer with keyAllowed := false }).take 1 .content)

/-- A token that may start a key, read by `read`. -/
def fetchNode (read : Cursor → Except Problem (Token × Cursor)) (lexer : Lexer) :
    Except Problem Lexer := do
  let lexer ← lexer.saveKey
  let (token, place) ← read lexer.place
  return ({ lexer with keyAllowed := false, place }).push token

def fetchBlockScalar (fold : Bool) (lexer : Lexer) : Except Problem Lexer := do
  let lexer ← lexer.dropKey
  let (text, place) ← Block.read fold lexer.indent lexer.place
  return ({ lexer with keyAllowed := true, place }).push (.scalar false text)

def fetchPlain (lexer : Lexer) : Except Problem Lexer := do
  let lexer ← lexer.saveKey
  let (text, broken, place) := Plain.read (!lexer.inBlock) (lexer.indent + 1) lexer.place
  return ({ lexer with keyAllowed := broken, place }).push (.scalar true text)

/-- Marks that start no plain scalar, whatever follows. -/
def isIndicator (c : Char) : Bool := ",[]\x7b\x7d#&*!|>'\"%@`".toList.contains c

/-- A plain scalar may start here. A dash, and outside flow collections a question mark or a
colon, starts one only before a character that is no blank. -/
def plainStarts (lexer : Lexer) (c : Char) : Bool :=
  if isBreak c || isSpacing c || isIndicator c then false
  else if c = '-' then !endsWord (lexer.place.peekAt 1)
  else if c = '?' || c = ':' then lexer.inBlock && !endsWord (lexer.place.peekAt 1)
  else true

/-- Adds the next tokens, of which there is at least one. -/
def fetch (lexer : Lexer) : Except Problem Lexer := do
  let lexer ← (lexer.toToken (lexer.place.rest.length + 1)).dropStale
  let lexer := lexer.closeBeyond lexer.place.column
  let place := lexer.place
  let markHolds := !lexer.inBlock || endsWord (place.peekAt 1)
  match place.peek with
  | none => lexer.fetchEnd
  | some c =>
    if c = '%' && place.column = 0 then lexer.fetchDirective
    else if place.column = 0 && place.marks '-' then lexer.fetchSeparator .documentStart
    else if place.column = 0 && place.marks '.' then lexer.fetchSeparator .documentEnd
    else if c = '[' then lexer.fetchFlowStart .flowSequence
    else if c = '\x7b' then lexer.fetchFlowStart .flowMapping
    else if c = ']' then lexer.fetchFlowEnd .flowSequenceEnd
    else if c = '\x7d' then lexer.fetchFlowEnd .flowMappingEnd
    else if c = ',' then lexer.fetchFlowEntry
    else if c = '-' && endsWord (place.peekAt 1) then lexer.fetchBlockEntry
    else if c = '?' && markHolds then lexer.fetchMark .key
    else if c = ':' && markHolds then lexer.fetchContent
    else if c = '*' then
      lexer.fetchNode fun place => return ((← anchorName place).map .alias id)
    else if c = '&' then
      lexer.fetchNode fun place => return ((← anchorName place).map .anchor id)
    else if c = '!' then lexer.fetchNode tag
    else if c = '|' && lexer.inBlock then lexer.fetchBlockScalar false
    else if c = '>' && lexer.inBlock then lexer.fetchBlockScalar true
    else if c = '\'' || c = '"' then
      lexer.fetchNode fun place => return ((← Quoted.read (c = '"') place).map (.scalar false) id)
    else if lexer.plainStarts c then lexer.fetchPlain
    else .error .malformed

/-- The number of tokens that no possible key holds back. -/
def ready (lexer : Lexer) : Nat :=
  lexer.keys.foldl (fun least (_, key) => min least (key.number - lexer.given)) lexer.queue.length

/-- Gives out the tokens that are ready. -/
def release (lexer : Lexer) : List Token × Lexer :=
  let count := lexer.ready
  (lexer.queue.take count,
    { lexer with given := lexer.given + count, queue := lexer.queue.drop count })

/-- The tokens from here on, and the problem that ended the cutting early. -/
def run : Nat → Lexer → List Token × Option Problem
  | 0, _ => ([], some .malformed)
  | fuel + 1, lexer =>
    if lexer.finished then (lexer.queue, none)
    else
      match lexer.dropStale with
      | .error problem => ([], some problem)
      | .ok lexer =>
        let (given, lexer) := lexer.release
        match lexer.fetch with
        | .error problem => (given, some problem)
        | .ok lexer =>
          let (others, problem) := run fuel lexer
          (given ++ others, problem)

end Lexer

/-- The tokens of a text, and the problem that ended the cutting early. A byte order mark may
start the text. -/
def tokens (text : List Char) : List Token × Option Problem :=
  let text := if text.head? = some '\ufeff' then text.drop 1 else text
  Lexer.run (text.length + 2) (.start text)

end Yaml

end Stepwise
