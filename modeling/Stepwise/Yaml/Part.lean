import Stepwise.Yaml.Content
import Stepwise.Yaml.Merge

/-!
# The parts of a YAML document

What the nodes of a graph give: values without parts, and collections of what other nodes give. Only
nodes that are met on the way from the root give anything. Collections are begun empty when they are
met and filled in the order in which they were met, so a collection may come to hold itself; of two
mishaps the one that this order comes to first is met.
-/

namespace Stepwise

namespace Yaml

/-- What a node gives. Keys and members are values without parts, for others may change. -/
inductive Part where
  | leaf (v : Value)
  | list (items : List NodeId)
  | pairs (entries : List (NodeId × NodeId))
  | map (entries : Table NodeId)
  | set (members : List Value)

/-- The parts by node. -/
abbrev Parts := Array (Option Part)

/-- The graph, the parts so far, and the collections still to be filled, those met last first. -/
structure Building where
  graph : Graph
  parts : Parts
  waiting : List NodeId

abbrev Build (α : Type) := StateT Building (Except Problem) α

namespace Build

def put (id : NodeId) (part : Part) : Build Unit :=
  modify fun building => { building with parts := building.parts.set! id (some part) }

/-- Begins a collection. -/
def beginCollection (id : NodeId) (part : Part) : Build Unit := do
  put id part
  modify fun building => { building with waiting := id :: building.waiting }

/-- The value of a scalar, which is marked as one of the first text. A time has to be one: a mapping
that stands for its default entry is none, whatever that is. -/
def scalar (id : NodeId) : Build Value := do
  let graph := (← get).graph
  let text ← graph.scalarText (graph.size + 1) id
  match graph.node id with
  | .mapping .timestamp _ => throw (.fault (.typeError "expected string or bytes-like object"))
  | node => Content.scalar (.node 0 id) node.tag text

/-- Makes what a node gives, unless that was done before. -/
def make (id : NodeId) : Build Unit := do
  let building ← get
  if (building.parts.getD id none).isSome then return
  match building.graph.tag id with
  | .sequence => beginCollection id (.list [])
  | .ordered | .pairs => beginCollection id (.pairs [])
  | .mapping => beginCollection id (.map [])
  | .set => beginCollection id (.set [])
  | .merge | .default | .other => throw .malformed
  | .null | .bool | .int | .float | .str | .binary | .timestamp =>
    let v ← scalar id
    put id (.leaf v)

/-- Makes a key. What may change is no key. -/
def makeKey (id : NodeId) : Build Value := do
  make id
  match (← get).parts.getD id none with
  | some (.leaf v) => return v
  | _ => throw .malformed

def makeEach : List NodeId → Build Unit
  | [] => return
  | item :: rest => do
    make item
    makeEach rest

/-- The entries of mappings of one entry each. -/
def makePairs : List NodeId → Build (List (NodeId × NodeId))
  | [] => return []
  | item :: rest => do
    match (← get).graph.node item with
    | .mapping _ [(key, content)] =>
      make key
      make content
      let others ← makePairs rest
      return (key, content) :: others
    | _ => throw .malformed

/-- Adds entries to a table: of equal keys the first is kept, with the last content. -/
def makeEntries (table : Table NodeId) : List (NodeId × NodeId) → Build (Table NodeId)
  | [] => return table
  | (key, content) :: rest => do
    let k ← makeKey key
    make content
    makeEntries (table.insert k content) rest

/-- The entries of a mapping with those it takes over. -/
def makeMapping (id : NodeId) : Build (Table NodeId) := do
  let building ← get
  match building.graph.node id with
  | .mapping _ _ =>
    let graph ← building.graph.flatten id
    set { building with graph }
    makeEntries [] (graph.entries id)
  | _ => throw .malformed

/-- The items of a sequence. -/
def itemsOf (id : NodeId) : Build (List NodeId) := do
  match (← get).graph.node id with
  | .sequence _ items => return items
  | _ => throw .malformed

/-- Fills a collection that was begun. -/
def fill (id : NodeId) : Build Unit := do
  match (← get).parts.getD id none with
  | some (.list _) =>
    let items ← itemsOf id
    makeEach items
    put id (.list items)
  | some (.pairs _) =>
    let entries ← makePairs (← itemsOf id)
    put id (.pairs entries)
  | some (.map _) =>
    let entries ← makeMapping id
    put id (.map entries)
  | some (.set _) =>
    let entries ← makeMapping id
    put id (.set entries.keys)
  | _ => return

/-- Fills the collections that were begun, and those that are begun meanwhile. A collection is begun
once, so there are no more rounds than nodes. -/
def fillAll : Nat → Build Unit
  | 0 => return
  | rounds + 1 => do
    let waiting := (← get).waiting.reverse
    if waiting = [] then return
    modify fun building => { building with waiting := [] }
    waiting.forM fill
    fillAll rounds

end Build

/-- The parts of a graph from its root on. -/
def Graph.parts (graph : Graph) (root : NodeId) : Except Problem Parts := do
  let build : Build Unit := do
    Build.make root
    Build.fillAll (graph.size + 1)
  let ((), building) ← build.run ⟨graph, Array.replicate graph.size none, []⟩
  return building.parts

end Yaml

end Stepwise
