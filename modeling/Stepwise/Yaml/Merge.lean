import Stepwise.Yaml.Cursor
import Stepwise.Yaml.Node

/-!
# Merge keys

A mapping takes over the entries of the mappings under its merge keys. They come before its own, and
those of mappings listed earlier after those listed later, so that of equal keys the mapping's own
entry counts, and then the one listed earliest. A mapping is changed by this for good, wherever else
it stands; merge keys are gone from it, and its default key is a text from then on.
-/

namespace Stepwise

namespace Yaml

/-- A change of a graph, which may be impossible. -/
abbrev Change (α : Type) := StateT Graph (Except Problem) α

namespace Change

mutual

/-- Takes the entries under the merge keys of a mapping over into it. The fuel bounds how far
mappings lead to each other. -/
def flatten : Nat → NodeId → Change Unit
  | 0, _ => throw (.fault .tooDeep)
  | fuel + 1, id => do
    let taken ← takenFrom fuel id 0
    modify fun graph => graph.setEntries id (taken ++ graph.entries id)

/-- The entries to be taken over for the merge keys from a position on, which are removed. -/
def takenFrom : Nat → NodeId → Nat → Change (List (NodeId × NodeId))
  | 0, _, _ => throw (.fault .tooDeep)
  | fuel + 1, id, position => do
    let graph ← get
    match (graph.entries id)[position]? with
    | none => return []
    | some (key, content) =>
      if graph.tag key = .merge then
        set (graph.setEntries id ((graph.entries id).eraseIdx position))
        let taken ← offered fuel content
        let others ← takenFrom fuel id position
        return taken ++ others
      else
        if graph.tag key = .default then set (graph.retag key .str)
        takenFrom fuel id (position + 1)

/-- The entries of a mapping under a merge key, or those of a sequence of mappings. -/
def offered : Nat → NodeId → Change (List (NodeId × NodeId))
  | 0, _ => throw (.fault .tooDeep)
  | fuel + 1, id => do
    match (← get).node id with
    | .scalar _ _ => throw .malformed
    | .mapping _ _ =>
      flatten fuel id
      return (← get).entries id
    | .sequence _ items => offeredBy fuel items

/-- The entries of mappings, those listed later first. -/
def offeredBy : Nat → List NodeId → Change (List (NodeId × NodeId))
  | 0, _ => throw (.fault .tooDeep)
  | _, [] => return []
  | fuel + 1, item :: rest => do
    match (← get).node item with
    | .mapping _ _ =>
      flatten fuel item
      let own := (← get).entries item
      let others ← offeredBy fuel rest
      return others ++ own
    | _ => throw .malformed

end

end Change

namespace Graph

/-- The graph with the entries under the merge keys of a mapping taken over. -/
def flatten (graph : Graph) (id : NodeId) : Except Problem Graph := do
  let ((), changed) ← (Change.flatten (Nat.pow (graph.size + 2) 4) id).run graph
  return changed

/-- The text a node has where a scalar is wanted: a mapping stands for its default entry. -/
def scalarText (graph : Graph) : Nat → NodeId → Except Problem (List Char)
  | 0, _ => .error (.fault .tooDeep)
  | fuel + 1, id =>
    match graph.node id with
    | .scalar _ text => .ok text
    | .sequence _ _ => .error .malformed
    | .mapping _ entries =>
      match entries.find? fun (key, _) => graph.tag key = .default with
      | some (_, content) => scalarText graph fuel content
      | none => .error .malformed

end Graph

end Yaml

end Stepwise
