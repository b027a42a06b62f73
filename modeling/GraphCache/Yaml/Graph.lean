import GraphCache.Settings.Tree
import GraphCache.Yaml.Node
import GraphCache.Yaml.Value

/-! What the nodes of a document stand for. A text is taken for its value at once, while
lists and mappings are opened first and filled later, breadth first, so that a node may
occur inside itself. Before a mapping is filled, the entries of the mappings that it joins
in are put before its own. -/
namespace GraphCache
namespace Yaml

/-- A value: a scalar, or a collection by number. -/
inductive Value where
  | scalar (value : Scalar)
  | collection (number : Nat)
deriving DecidableEq, Repr

inductive Collection where
  | list (items : List Value)
  | mapping (entries : OrderedMap Scalar Value)
  | pair (key value : Value)
  | set (members : List Scalar)
deriving DecidableEq, Repr

instance : Inhabited Collection := ⟨.list []⟩

abbrev Nodes := Array Node

namespace Nodes

def content (nodes : Nodes) (number : Nat) : Content := (nodes.getD number default).content

def kind (nodes : Nodes) (number : Nat) : Kind := (nodes.getD number default).kind

/-- The entries of a mapping; no other node has any. -/
def entries (nodes : Nodes) (number : Nat) : List (Nat × Nat) :=
  match nodes.content number with
  | .mapping entries => entries
  | _ => []

def setEntries (nodes : Nodes) (number : Nat) (entries : List (Nat × Nat)) : Nodes :=
  nodes.modify number fun node => { node with content := .mapping entries }

def setKind (nodes : Nodes) (number : Nat) (kind : Kind) : Nodes :=
  nodes.modify number fun node => { node with kind }

/-! ## Joining mappings -/

mutual

/-- Puts the entries of the mappings that a mapping joins in before its own. Each key under
which mappings are joined in is dropped for good, so calls are nested no deeper than there
are such keys. -/
def join : Nat → Nat → StateT Nodes (Except Fault) Unit
  | 0, _ => throw .tooDeep
  | fuel + 1, number => do
    let rounds := ((← get).entries number).length
    let (_, joined) ← (List.range rounds).foldlM (fun (index, joined) _ => do
      let entries := (← get).entries number
      match entries[index]? with
      | none => return (index, joined)
      | some (key, value) =>
        match (← get).kind key with
        | .merge =>
          modify fun nodes => nodes.setEntries number (entries.eraseIdx index)
          return (index, joined ++ (← joinedBy fuel value))
        | .standsFor =>
          modify fun nodes => nodes.setKind key .text
          return (index + 1, joined)
        | _ => return (index + 1, joined)) (0, ([] : List (Nat × Nat)))
    if !joined.isEmpty then
      modify fun nodes => nodes.setEntries number (joined ++ nodes.entries number)

/-- The entries that a mapping, or a list of mappings, adds where it is joined in. The
first mapping of a list comes last, since the last of two equal keys counts. -/
def joinedBy : Nat → Nat → StateT Nodes (Except Fault) (List (Nat × Nat))
  | 0, _ => throw .tooDeep
  | fuel + 1, number => do
    match (← get).content number with
    | .mapping _ =>
      join fuel number
      return (← get).entries number
    | .list items =>
      let parts ← items.mapM fun item => do
        match (← get).content item with
        | .mapping _ =>
          join fuel item
          return (← get).entries item
        | _ => throw .notMergeable
      return parts.reverse.flatten
    | .text _ => throw .notMergeable

end

/-! ## Scalars -/

/-- The text of a node. A mapping may have an entry that stands for it. -/
def text (nodes : Nodes) : Nat → Nat → Except Fault String
  | 0, _ => .error .tooDeep
  | fuel + 1, number =>
    match nodes.content number with
    | .text text => .ok text
    | .list _ => .error .wrongKind
    | .mapping entries =>
      match entries.find? fun entry => nodes.kind entry.1 = .standsFor with
      | some entry => text nodes fuel entry.2
      | none => .error .wrongKind

/-- Takes the text of a node for the value that its kind says. -/
def scalar (nodes : Nodes) (number : Nat) : Except Fault Scalar := do
  let written ← nodes.text (nodes.size + 1) number
  match nodes.kind number with
  | .nothing => return .null
  | .truth => return .bool (← (truthValue written).mapError .value)
  | .whole => return .int (← (wholeValue written).mapError .value)
  | .real => return .float (← (realValue written).mapError .value)
  | .bytes => return .bytes (← bytesValue written)
  | .moment =>
    match nodes.content number with
    | .text _ => return .moment (← (momentValue written).mapError .value)
    | _ => throw (.value (.momentKind "list"))
  | .text => return .text written
  | _ => throw .unknownTag

end Nodes

/-! ## Collections -/

/-- The nodes of a document, the values of those that have been met, the collections, and
the nodes whose collections are still to be filled, the last one first. -/
structure Graph where
  nodes : Nodes
  values : Array (Option Value)
  collections : Array Collection
  waiting : List (Nat × Nat)

abbrev GraphM := StateT Graph (Except Fault)

namespace Graph

/-- Adds a collection. -/
def add (collection : Collection) : GraphM Nat := do
  let graph ← get
  set { graph with collections := graph.collections.push collection }
  return graph.collections.size

/-- Opens the collection of a node, to be filled later. -/
def openOf (number : Nat) (collection : Collection) : GraphM Value := do
  let opened ← add collection
  modify fun graph => { graph with waiting := (number, opened) :: graph.waiting }
  return .collection opened

/-- The value of a node, which is the same whenever the node is met. -/
def valueOf (number : Nat) : GraphM Value := do
  let graph ← get
  match graph.values.getD number none with
  | some value => return value
  | none =>
    let value ←
      match graph.nodes.kind number with
      | .list | .pairs => openOf number (.list [])
      | .mapping => openOf number (.mapping [])
      | .set => openOf number (.set [])
      | _ => do
        let scalar ← graph.nodes.scalar number
        pure (.scalar scalar)
    modify fun graph => { graph with values := graph.values.setIfInBounds number (some value) }
    return value

/-- The entries of a mapping with all that it joins in. Of two equal keys the last value
counts. A key is a scalar. -/
def entriesOf (number : Nat) : GraphM (OrderedMap Scalar Value) := do
  let graph ← get
  let keys := graph.nodes.foldl (fun count node =>
    match node.content with
    | .mapping entries => count + entries.length
    | _ => count) 0
  let (_, nodes) ← (Nodes.join (2 * keys + 2) number).run graph.nodes
  set { graph with nodes }
  (nodes.entries number).foldlM (fun entries entry => do
    match ← valueOf entry.1 with
    | .collection _ => throw .unhashable
    | .scalar key => return Scalar.write entries key (← valueOf entry.2)) []

/-- A pair of an ordered mapping: a mapping with one entry. -/
def pairOf (number : Nat) : GraphM Value := do
  match (← get).nodes.content number with
  | .mapping [entry] =>
    let key ← valueOf entry.1
    let pair ← add (.pair key (← valueOf entry.2))
    return .collection pair
  | _ => throw .wrongKind

/-- What is in the collection of a node. -/
def contentsOf (number : Nat) : GraphM Collection := do
  let nodes := (← get).nodes
  match nodes.kind number, nodes.content number with
  | .list, .list items => return .list (← items.mapM valueOf)
  | .pairs, .list items => return .list (← items.mapM pairOf)
  | .mapping, .mapping _ => return .mapping (← entriesOf number)
  | .set, .mapping _ => return .set (OrderedMap.keys (← entriesOf number))
  | _, _ => throw .wrongKind

/-- Fills all collections, those first that were opened first. Every node is opened once at
most, which bounds the rounds. -/
def fill : Nat → GraphM Unit
  | 0 => throw .tooDeep
  | rounds + 1 => do
    let waiting := (← get).waiting
    if waiting.isEmpty then return
    modify fun graph => { graph with waiting := [] }
    waiting.reverse.forM fun (number, opened) => do
      let contents ← contentsOf number
      modify fun graph =>
        { graph with collections := graph.collections.setIfInBounds opened contents }
    fill rounds

/-- The collections of a document and its value. Without a node it is nothing. -/
def ofDocument (document : Document) : Except Fault (Array Collection × Value) := do
  let nodes := document.nodes
  let start : Graph := ⟨nodes, Array.replicate nodes.size none, #[], []⟩
  match document.root with
  | none => return (#[], .scalar .null)
  | some root =>
    let built : GraphM Value := do
      let value ← valueOf root
      fill (nodes.size + 2)
      return value
    let (value, graph) ← built.run start
    return (graph.collections, value)

end Graph
end Yaml
end GraphCache
