import Stepwise.Value.Copy
import Stepwise.Value.Equality
import Stepwise.Fault.Text

/-!
# Access to the parts of values

Subscripts, assignments, membership and iteration on values whose kind is not known beforehand,
with the fault that each kind answers when it does not support the access.
-/

namespace Stepwise

namespace Value

/-- Refuses a value that cannot be a key. -/
def hashable (v : Value) : Except Fault Unit :=
  match v.unhashable? with
  | none => .ok ()
  | some kind => .error (.typeError s!"unhashable type: '{kind}'")

/-- The position meant by a whole number in a sequence; negative numbers count from the end. -/
def position? (length : Nat) (index : Int) : Option Nat :=
  let shifted := if index < 0 then index + length else index
  if 0 ≤ shifted ∧ shifted < length then some shifted.toNat else none

/-- A whole number, truth values counting as one and zero. -/
def index? : Value → Option Int
  | bool b => some (if b then 1 else 0)
  | int n => some n
  | _ => none

/-- Whether a whole number has the size of a position on the machine. -/
def isPlaceSized (n : Int) : Bool := decide (-Int.pow 2 63 ≤ n ∧ n < Int.pow 2 63)

/-- The item of a sequence at a subscript, with the faults for a subscript of the wrong kind, for
one that no sequence reaches, and for one out of range. -/
def itemAt (items : List Value) (subscript : Value) (wrongKind outOfRange : String) :
    Except Fault Value :=
  match subscript.index? with
  | none => .error (.typeError wrongKind)
  | some index =>
    match (position? items.length index).bind (items[·]?) with
    | some item => .ok item
    | none =>
      let message :=
        if isPlaceSized index then outOfRange
        else s!"cannot fit '{subscript.fullKind}' into an index-sized integer"
      .error (.machinery "IndexError" message)

/-- The part of a value at a subscript. -/
def subscript (v key : Value) : Except Fault Value :=
  match v.opened with
  | map entries => do
    key.hashable
    match Table.find? key entries with
    | some content => return content
    | none => throw (.keyError key)
  | list items =>
    itemAt items key s!"list indices must be integers or slices, not {key.fullKind}"
      "list index out of range"
  | tuple items =>
    itemAt items key s!"tuple indices must be integers or slices, not {key.fullKind}"
      "tuple index out of range"
  | str text =>
    itemAt (text.toList.map fun c => str (String.ofList [c])) key
      s!"string indices must be integers, not '{key.fullKind}'" "string index out of range"
  | bytes content =>
    itemAt (content.map fun b => int b.toNat) key
      s!"byte indices must be integers or slices, not {key.fullKind}" "index out of range"
  | other => .error (.typeError s!"'{other.fullKind}' object is not subscriptable")

/-- The value with new content at a subscript. -/
def assign (v key content : Value) : Except Fault Value :=
  match v with
  | map entries => do
    key.hashable
    return map (Table.insert key content entries)
  | list items =>
    match key.index? with
    | none => .error (.typeError s!"list indices must be integers or slices, not {key.fullKind}")
    | some index =>
      match position? items.length index with
      | some k => .ok (list (items.set k content))
      | none => .error (.machinery "IndexError" "list assignment index out of range")
  | other => .error (.typeError s!"'{other.fullKind}' object does not support item assignment")

/-- A value is asked for what only maps answer. An object may have an attribute of that name, but
it does not answer either. -/
def unanswered (v : Value) (request : String) : Fault :=
  match v with
  | object _ _ attributes =>
    match attributes.lookup request with
    | some held => .notCallable held
    | none => .attributeError s!"'{v.fullKind}' object has no attribute '{request}'"
  | _ => .attributeError s!"'{v.fullKind}' object has no attribute '{request}'"

/-- The content of a document at a key, or a default when it has none; only maps can be asked. -/
def getOr (document : Value) (key : String) (fallback : Value) : Except Fault Value :=
  match document.opened with
  | map entries => .ok ((get? key entries).getD fallback)
  | other => .error (other.unanswered "get")

/-- Whether a run of characters occurs inside another. -/
def occursIn (part : List Char) : List Char → Bool
  | [] => part.isEmpty
  | c :: rest => part.isPrefixOf (c :: rest) || occursIn part rest

/-- Whether a text occurs in a value: as a key, as an item or as a part of a text. -/
def includes (v : Value) (text : String) : Except Fault Bool :=
  match v.opened with
  | map entries => .ok (Table.contains (str text) entries)
  | list items | tuple items | set items => .ok (items.any (·.isStr text))
  | str whole => .ok (occursIn text.toList whole.toList)
  | bytes _ => .error (.typeError "a bytes-like object is required, not 'str'")
  | other => .error (.typeError s!"argument of type '{other.fullKind}' is not iterable")

/-- The items that iterating over a value gives. -/
def items (v : Value) : Except Fault (List Value) :=
  match v.opened with
  | list items | tuple items | set items => .ok items
  | map entries => .ok (Table.keys entries)
  | str text => .ok (text.toList.map fun c => str (String.ofList [c]))
  | bytes content => .ok (content.map fun b => int b.toNat)
  | other => .error (.typeError s!"'{other.fullKind}' object is not iterable")

end Value

end Stepwise
