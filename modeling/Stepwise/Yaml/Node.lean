/-!
# YAML nodes

What a YAML text describes: scalars, sequences and mappings, each tagged with the kind of content
it stands for. Nodes refer to each other by number, for a node may stand in several places and even
within itself.
-/

namespace Stepwise

namespace Yaml

/-- What a node stands for. `merge` and `default` are the kinds of the two keys with a meaning of
their own; `other` covers all kinds without content. -/
inductive Tag where
  | null
  | bool
  | int
  | float
  | str
  | binary
  | timestamp
  | sequence
  | mapping
  | set
  | ordered
  | pairs
  | merge
  | default
  | other
  deriving DecidableEq, Repr

/-- The number of a node, in the order in which nodes begin. -/
abbrev NodeId := Nat

inductive Node where
  | scalar (tag : Tag) (text : List Char)
  | sequence (tag : Tag) (items : List NodeId)
  | mapping (tag : Tag) (entries : List (NodeId × NodeId))

instance : Inhabited Node := ⟨.scalar .null []⟩

/-- The nodes of a text by number. -/
abbrev Graph := Array Node

/-- What the tags of standard kinds start with. -/
def standard : String := "tag:yaml.org,2002:"

/-- The standard kinds by name. -/
def Tag.names : List (String × Tag) :=
  [("null", .null), ("bool", .bool), ("int", .int), ("float", .float), ("str", .str),
   ("binary", .binary), ("timestamp", .timestamp), ("seq", .sequence), ("map", .mapping),
   ("set", .set), ("omap", .ordered), ("pairs", .pairs), ("merge", .merge), ("value", .default)]

/-- The kind that a full tag names. -/
def Tag.ofName (name : List Char) : Tag :=
  let start := standard.toList
  if start.isPrefixOf name then
    (Tag.names.lookup (String.ofList (name.drop start.length))).getD .other
  else .other

namespace Node

def tag : Node → Tag
  | scalar tag _ => tag
  | sequence tag _ => tag
  | mapping tag _ => tag

/-- The node with another tag. -/
def withTag (tag : Tag) : Node → Node
  | scalar _ text => scalar tag text
  | sequence _ items => sequence tag items
  | mapping _ entries => mapping tag entries

end Node

namespace Graph

def node (graph : Graph) (id : NodeId) : Node := graph.getD id default

def tag (graph : Graph) (id : NodeId) : Tag := (graph.node id).tag

/-- The entries of a mapping; other nodes have none. -/
def entries (graph : Graph) (id : NodeId) : List (NodeId × NodeId) :=
  match graph.node id with
  | .mapping _ entries => entries
  | _ => []

/-- Gives a node another tag. -/
def retag (id : NodeId) (tag : Tag) (graph : Graph) : Graph :=
  graph.modify id fun node => node.withTag tag

/-- Gives a mapping other entries. -/
def setEntries (id : NodeId) (entries : List (NodeId × NodeId)) (graph : Graph) : Graph :=
  graph.modify id fun node => .mapping node.tag entries

end Graph

end Yaml

end Stepwise
