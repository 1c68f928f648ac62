import Stepwise.Yaml.Graph
import Stepwise.Yaml.Part

/-!
# Reading YAML

A text is taken in as a whole before any of its content is formed, so a text that is not well
formed is refused whatever else is wrong with it. The parts of a document are then put together to
one value. Parts that contain themselves are unrolled for a few levels and keep their text, in which
what is already open is left out.
-/

namespace Stepwise

namespace Yaml

namespace Parts

def part? (parts : Parts) (id : NodeId) : Option Part := parts.getD id none

/-- The value of a part whose own parts have values. -/
def valueOf? (valued : NodeId → Option Value) : Part → Option Value
  | .leaf v => some v
  | .set members => some (.set members)
  | .list items => (items.mapM valued).map .list
  | .map entries =>
    let entry? : Value × NodeId → Option (Value × Value) := fun (key, content) =>
      (valued content).map (key, ·)
    (entries.mapM entry?).map .map
  | .pairs entries =>
    let pair? : NodeId × NodeId → Option Value := fun (key, content) => do
      return .tuple [← valued key, ← valued content]
    (entries.mapM pair?).map .list

/-- One round of giving values to parts, those of later nodes first. -/
def settleOnce (parts : Parts) (values : Array (Option Value)) : Array (Option Value) :=
  (List.range parts.size).reverse.foldl
    (fun values id =>
      if (values.getD id none).isSome then values
      else
        match parts.part? id with
        | some part =>
          let v := valueOf? (fun other => values.getD other none) part
          values.set! id v
        | none => values)
    values

/-- Rounds until nothing more gets a value. -/
def settle (parts : Parts) : Nat → Array (Option Value) → Array (Option Value)
  | 0, values => values
  | rounds + 1, values =>
    let settled := parts.settleOnce values
    let count (values : Array (Option Value)) : Nat := values.countP Option.isSome
    if count settled = count values then values else settle parts rounds settled

/-- The values of all parts that have an end. -/
def finite (parts : Parts) : Array (Option Value) :=
  parts.settle (parts.size + 1) (Array.replicate parts.size none)

/-! ## Parts without an end -/

/-- What is open while a text is formed: the collection of a node, or one of its pairs. -/
abbrev Opened := NodeId × Option Nat

/-- The text around what is inside a collection, or left out of it. -/
def enclosed (part : Part) (inside : String) : String :=
  match part with
  | .map _ => "\x7b" ++ inside ++ "\x7d"
  | _ => "[" ++ inside ++ "]"

mutual

/-- The text of what a node gives. -/
def shown (parts : Parts) (finite : Array (Option Value)) :
    Nat → List Opened → NodeId → String
  | 0, _, _ => ""
  | fuel + 1, opened, id =>
    match finite.getD id none, parts.part? id with
    | some v, _ => v.shown.toOption.getD ""
    | none, none => ""
    | none, some part =>
      if opened.contains (id, none) then enclosed part "..."
      else
        let opened := (id, none) :: opened
        let items :=
          match part with
          | .list items => items.map (shown parts finite fuel opened)
          | .map entries => entries.map fun (key, content) =>
            key.shown.toOption.getD "" ++ ": " ++ shown parts finite fuel opened content
          | .pairs entries => entries.zipIdx.map fun (entry, index) =>
            shownPair parts finite fuel opened id index entry
          | _ => []
        enclosed part (", ".intercalate items)

/-- The text of a pair in the collection of a node. -/
def shownPair (parts : Parts) (finite : Array (Option Value)) :
    Nat → List Opened → NodeId → Nat → NodeId × NodeId → String
  | 0, _, _, _, _ => ""
  | fuel + 1, opened, id, index, (key, content) =>
    if opened.contains (id, some index) then "(...)"
    else
      let opened := (id, some index) :: opened
      "(" ++ shown parts finite fuel opened key ++ ", " ++
        shown parts finite fuel opened content ++ ")"

end

/-- As many parts are open at most. -/
def mostOpen (parts : Parts) : Nat :=
  parts.foldl
    (fun count part =>
      match part with
      | some (.pairs entries) => count + entries.length + 1
      | _ => count + 1)
    1

/-- How often parts without an end are unrolled; definitions are not looked into more deeply. -/
def levels : Nat := 6

/-- The values of all parts, unrolled so many times. -/
def unrolled (parts : Parts) (finite : Array (Option Value)) : Nat → Array Value
  | 0 => parts.mapIdx fun id part =>
    match finite.getD id none, part with
    | some v, _ => v
    | none, some (.map _) => .endless (text id) (.map [])
    | none, _ => .endless (text id) (.list [])
  | count + 1 =>
    let inner := unrolled parts finite count
    let valued (id : NodeId) : Value := inner.getD id .null
    parts.mapIdx fun id part =>
      match finite.getD id none, part with
      | some v, _ => v
      | none, some (.list items) => .endless (text id) (.list (items.map valued))
      | none, some (.map entries) =>
        .endless (text id) (.map (entries.map fun (key, content) => (key, valued content)))
      | none, some (.pairs entries) =>
        .endless (text id) (.list (entries.zipIdx.map fun ((key, content), index) =>
          let pair : Value := .tuple [valued key, valued content]
          if pair.isEndless then .endless (pairText id index (key, content)) pair else pair))
      | none, _ => .null
where
  text (id : NodeId) : Thunk String := Thunk.mk fun _ => parts.shown finite parts.mostOpen [] id
  pairText (id : NodeId) (index : Nat) (entry : NodeId × NodeId) : Thunk String :=
    Thunk.mk fun _ => parts.shownPair finite parts.mostOpen [] id index entry

/-- The value of a node. -/
def value (parts : Parts) (id : NodeId) : Value :=
  let finite := parts.finite
  match finite.getD id none with
  | some v => v
  | none => (parts.unrolled finite levels).getD id .null

end Parts

/-- The content of a text; null for a text without a document. -/
def read (text : List Char) : Except Problem Value := do
  match ← graph text with
  | none => return .null
  | some (root, graph) =>
    let parts ← graph.parts root
    return parts.value root

end Yaml

end Stepwise
