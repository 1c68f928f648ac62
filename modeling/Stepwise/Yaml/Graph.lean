import Stepwise.Yaml.Lexer
import Stepwise.Yaml.PlainTag

/-!
# The graph of a YAML text

Tokens are read as the nodes they describe. A text holds at most one document. A node may be given
a tag and a name; an alias stands for the node of its name, which must have been given before,
once. A node has its name from its beginning on, so that it may stand within itself.
-/

namespace Stepwise

namespace Yaml

/-- Where reading stands: the tokens left, the problem behind them, what the handles of tags stand
for, the nodes so far, those that have a name, and how many collections are open. -/
structure Reading where
  left : List Token
  stop : Problem
  handles : List (List Char × List Char)
  graph : Graph
  named : List (List Char × NodeId)
  depth : Nat

abbrev Read (α : Type) := StateT Reading (Except Problem) α

namespace Read

/-- The next token, which stays. -/
def peek : Read Token := do
  let reading ← get
  match reading.left with
  | [] => throw reading.stop
  | token :: _ => return token

/-- Passes the next token. -/
def pass : Read Unit := do
  let reading ← get
  match reading.left with
  | [] => throw reading.stop
  | _ :: rest => set { reading with left := rest }

def malformed {α : Type} : Read α := throw .malformed

/-- Begins a node, whose name must be new if it has one. -/
def begin (anchor : Option (List Char)) (node : Node) : Read NodeId := do
  let reading ← get
  let id := reading.graph.size
  let named ←
    match anchor with
    | none => pure reading.named
    | some anchor =>
      if (reading.named.lookup anchor).isSome then malformed
      else pure ((anchor, id) :: reading.named)
  set { reading with graph := reading.graph.push node, named }
  return id

/-- The node that an alias stands for. -/
def nodeNamed (name : List Char) : Read NodeId := do
  match (← get).named.lookup name with
  | some id => return id
  | none => malformed

/-- As many collections may be open at once. -/
def deepest : Nat := 485

/-- Reads what is inside a collection. -/
def inside {α : Type} (read : Read α) : Read α := do
  if deepest ≤ (← get).depth then throw (.fault .tooDeep)
  modify fun reading => { reading with depth := reading.depth + 1 }
  let found ← read
  modify fun reading => { reading with depth := reading.depth - 1 }
  return found

/-- The full tag of a handle and a suffix. -/
def fullTag (handle : Option (List Char)) (suffix : List Char) : Read (List Char) := do
  match handle with
  | none => return suffix
  | some handle =>
    match (← get).handles.lookup handle with
    | some stands => return stands ++ suffix
    | none => malformed

/-- A name and a tag in front of a node, in either order. -/
def properties : Read (Option (List Char) × Option (List Char)) := do
  match ← peek with
  | .anchor anchor =>
    pass
    match ← peek with
    | .tag handle suffix =>
      pass
      return (some anchor, some (← fullTag handle suffix))
    | _ => return (some anchor, none)
  | .tag handle suffix =>
    pass
    match ← peek with
    | .anchor anchor =>
      pass
      return (some anchor, some (← fullTag handle suffix))
    | _ => return (none, some (← fullTag handle suffix))
  | _ => return (none, none)

/-- Whether a tag leaves the kind to the form of a node. -/
def isOpen (tag : Option (List Char)) : Bool := tag.isNone || tag = some ['!']

/-- The kind of a collection. -/
def collectionTag (tag : Option (List Char)) (usual : Tag) : Tag :=
  if isOpen tag then usual else Tag.ofName (tag.getD [])

/-- The kind of a scalar; one without tag between quotes is a text. -/
def scalarTag (tag : Option (List Char)) (plain : Bool) (text : List Char) : Tag :=
  match tag with
  | none => if plain then PlainTag.ofText text else .str
  | some name => if name = ['!'] then PlainTag.ofText text else Tag.ofName name

/-- A scalar. -/
def scalar (anchor tag : Option (List Char)) (plain : Bool) (text : List Char) : Read NodeId :=
  begin anchor (.scalar (scalarTag tag plain text) text)

/-- A sequence of the items that are read. -/
def sequence (anchor tag : Option (List Char)) (items : Read (List NodeId)) : Read NodeId := do
  let tag := collectionTag tag .sequence
  let id ← begin anchor (.sequence tag [])
  let items ← inside items
  modify fun reading => { reading with graph := reading.graph.set! id (.sequence tag items) }
  return id

/-- A mapping with the entries that are read. -/
def mapping (anchor tag : Option (List Char)) (entries : Read (List (NodeId × NodeId))) :
    Read NodeId := do
  let tag := collectionTag tag .mapping
  let id ← begin anchor (.mapping tag [])
  let entries ← inside entries
  modify fun reading => { reading with graph := reading.graph.set! id (.mapping tag entries) }
  return id

/-- The node of nothing. -/
def empty : Read NodeId := begin none (.scalar .null [])

/-- Ends of items in a block. -/
def endsItem : Token → Bool
  | .blockEntry | .blockEnd => true
  | _ => false

def endsIndentless : Token → Bool
  | .blockEntry | .key | .content | .blockEnd => true
  | _ => false

/-- Ends of the key or the content of an entry in a block. -/
def endsEntry : Token → Bool
  | .key | .content | .blockEnd => true
  | _ => false

mutual

/-- A node. Block collections are allowed in blocks only; a sequence that is not indented only as
the key or content of a block mapping. -/
def node : Nat → Bool → Bool → Read NodeId
  | 0, _, _ => malformed
  | fuel + 1, inBlock, indentless => do
    match ← peek with
    | .alias anchor =>
      pass
      nodeNamed anchor
    | _ =>
      let (anchor, tag) ← properties
      match ← peek with
      | .blockEntry =>
        if indentless then sequence anchor tag (indentlessItems fuel) else emptyNode anchor tag
      | .scalar plain text =>
        pass
        scalar anchor tag plain text
      | .flowSequence =>
        pass
        sequence anchor tag (flowItems fuel true)
      | .flowMapping =>
        pass
        mapping anchor tag (flowEntries fuel true)
      | .blockSequence =>
        if inBlock then
          pass
          sequence anchor tag (blockItems fuel)
        else emptyNode anchor tag
      | .blockMapping =>
        if inBlock then
          pass
          mapping anchor tag (blockEntries fuel)
        else emptyNode anchor tag
      | _ => emptyNode anchor tag
where
  /-- An empty scalar, which needs a name or a tag to be seen. -/
  emptyNode (anchor tag : Option (List Char)) : Read NodeId :=
    if anchor.isNone && tag.isNone then malformed else scalar anchor tag true []

/-- A node, or nothing before a token that ends its place. -/
def nodeUnless : Nat → (Token → Bool) → Bool → Bool → Read NodeId
  | 0, _, _, _ => malformed
  | fuel + 1, ends, inBlock, indentless => do
    if ends (← peek) then empty else node fuel inBlock indentless

/-- The items of a block sequence up to its end. -/
def blockItems : Nat → Read (List NodeId)
  | 0 => malformed
  | fuel + 1 => do
    match ← peek with
    | .blockEntry =>
      pass
      let item ← nodeUnless fuel endsItem true false
      return item :: (← blockItems fuel)
    | .blockEnd =>
      pass
      return []
    | _ => malformed

/-- The items of a sequence that is not indented. -/
def indentlessItems : Nat → Read (List NodeId)
  | 0 => malformed
  | fuel + 1 => do
    match ← peek with
    | .blockEntry =>
      pass
      let item ← nodeUnless fuel endsIndentless true false
      return item :: (← indentlessItems fuel)
    | _ => return []

/-- The content of an entry, or nothing without its mark. -/
def contentUnless : Nat → (Token → Bool) → Bool → Read NodeId
  | 0, _, _ => malformed
  | fuel + 1, ends, inBlock => do
    match ← peek with
    | .content =>
      pass
      nodeUnless fuel ends inBlock inBlock
    | _ => empty

/-- The entries of a block mapping up to its end. -/
def blockEntries : Nat → Read (List (NodeId × NodeId))
  | 0 => malformed
  | fuel + 1 => do
    match ← peek with
    | .key =>
      pass
      let key ← nodeUnless fuel endsEntry true true
      let content ← contentUnless fuel endsEntry true
      return (key, content) :: (← blockEntries fuel)
    | .blockEnd =>
      pass
      return []
    | _ => malformed

/-- The items of a flow sequence up to its end. An item with a mark of a key is a mapping of one
entry. -/
def flowItems : Nat → Bool → Read (List NodeId)
  | 0, _ => malformed
  | fuel + 1, first => do
    match ← peek with
    | .flowSequenceEnd =>
      pass
      return []
    | token =>
      if !first then
        match token with
        | .flowEntry => pass
        | _ => malformed
      match ← peek with
      | .key =>
        pass
        let item ← mapping none none do
          let key ← nodeUnless fuel endsKey false false
          let content ← contentUnless fuel endsContent false
          return [(key, content)]
        return item :: (← flowItems fuel false)
      | .flowSequenceEnd =>
        pass
        return []
      | _ =>
        let item ← node fuel false false
        return item :: (← flowItems fuel false)
where
  endsContent : Token → Bool
    | .flowEntry | .flowSequenceEnd => true
    | _ => false
  endsKey : Token → Bool
    | .content | .flowEntry | .flowSequenceEnd => true
    | _ => false

/-- The entries of a flow mapping up to its end. A node without a mark is a key of nothing. -/
def flowEntries : Nat → Bool → Read (List (NodeId × NodeId))
  | 0, _ => malformed
  | fuel + 1, first => do
    match ← peek with
    | .flowMappingEnd =>
      pass
      return []
    | token =>
      if !first then
        match token with
        | .flowEntry => pass
        | _ => malformed
      match ← peek with
      | .key =>
        pass
        let key ← nodeUnless fuel endsKey false false
        let content ← contentUnless fuel endsContent false
        return (key, content) :: (← flowEntries fuel false)
      | .flowMappingEnd =>
        pass
        return []
      | _ =>
        let key ← node fuel false false
        let content ← empty
        return (key, content) :: (← flowEntries fuel false)
where
  endsContent : Token → Bool
    | .flowEntry | .flowMappingEnd => true
    | _ => false
  endsKey : Token → Bool
    | .content | .flowEntry | .flowMappingEnd => true
    | _ => false

end

/-- The directives in front of a document: one version, which has to be 1, and handles, each given
once. -/
def directives :
    Nat → Bool → List (List Char × List Char) → Read (List (List Char × List Char))
  | 0, _, _ => malformed
  | fuel + 1, versioned, handles => do
    match ← peek with
    | .directive (.version major) =>
      pass
      if versioned || major ≠ 1 then malformed else directives fuel true handles
    | .directive (.handle name stands) =>
      pass
      if (handles.lookup name).isSome then malformed
      else directives fuel versioned (handles ++ [(name, stands)])
    | .directive .other =>
      pass
      directives fuel versioned handles
    | _ => return handles

/-- The handles that need no directive. -/
def usualHandles : List (List Char × List Char) :=
  [(['!'], ['!']), (['!', '!'], standard.toList)]

/-- Passes the marks that end documents. -/
def passEnds : Nat → Read Unit
  | 0 => return
  | fuel + 1 => do
    match ← peek with
    | .documentEnd =>
      pass
      passEnds fuel
    | _ => return

/-- The document of a text, if there is one. Without a mark of its start it may have no directives
and must have content. -/
def document (fuel : Nat) : Read (Option NodeId) := do
  let explicit : Read (Option NodeId) := do
    passEnds fuel
    match ← peek with
    | .streamEnd => return none
    | _ =>
      let handles ← directives fuel false []
      match ← peek with
      | .documentStart =>
        pass
        modify fun reading => { reading with handles := handles ++ usualHandles }
        match ← peek with
        | .directive _ | .documentStart | .documentEnd | .streamEnd => return some (← empty)
        | _ => return some (← node fuel true false)
      | _ => malformed
  match ← peek with
  | .directive _ | .documentStart | .streamEnd => explicit
  | _ => return some (← node fuel true false)

/-- Makes sure that nothing follows a document. -/
def nothingElse (fuel : Nat) : Read Unit := do
  passEnds fuel
  match ← peek with
  | .streamEnd => return
  | .directive _ =>
    let _ ← directives fuel false []
    let _ ← peek
    malformed
  | _ => malformed

end Read

/-- The root and the nodes of a text; none for a text without a document. -/
def graph (text : List Char) : Except Problem (Option (NodeId × Graph)) := do
  if text.any (!isAllowed ·) then throw .malformed
  let (left, problem) := tokens text
  let fuel := 3 * left.length + 4
  let read : Read (Option NodeId) := do
    let root ← Read.document fuel
    if root.isSome then Read.nothingElse fuel
    return root
  let (root, reading) ←
    read.run ⟨left, problem.getD .malformed, Read.usualHandles, #[], [], 0⟩
  return root.map fun id => (id, reading.graph)

end Yaml

end Stepwise
