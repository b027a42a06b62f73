import GraphCache.Prototype.Basic

/-! Inlining fragments into a prototype. A spread stands in a node as a request
under the fragment's name. It is replaced by the fragment's fields; those that the
node has requested as relations itself stay as they are. Inside a fragment the
fragments already opened on the way there are dropped, so recursion ends. -/
namespace GraphCache

/-- What becomes of a requested name. -/
inductive Spread where
  /-- The name is no fragment. -/
  | field
  /-- The fragment is open already: the request is dropped. -/
  | recursive
  /-- The fragment's own fields, with their fragments inlined. -/
  | inlined (node : Node)

/-- Writes a fragment's fields into a node. A mapping that is already there stays. -/
def Node.absorb (node fragment : Node) : Node :=
  fragment.foldl (fun merged entry =>
    match OrderedMap.get? merged entry.1 with
    | some present => if present.isMapping then merged else OrderedMap.insert merged entry.1 entry.2
    | none => OrderedMap.insert merged entry.1 entry.2) node

/-- Replaces the spreads of a node, in order, after its own entries. -/
def Node.absorbSpreads (resolve : String → Spread) (own : Node) (written : Node) : Node :=
  written.foldl (fun merged entry =>
    match entry.2, isReserved entry.1 with
    | .requested, false =>
      match resolve entry.1 with
      | .inlined fragment => merged.absorb fragment
      | _ => merged
    | _, _ => merged) own

mutual

/-- Inlines fragments below an entry. -/
def Entry.inlineSpreads (resolve : String → Spread) : Entry → Entry
  | .relation entries =>
    .relation (Node.absorbSpreads resolve (Entry.ownEntries resolve entries) entries)
  | .requested => .requested
  | .literal value => .literal value

/-- The entries of a node that are no spreads, with fragments inlined below them.
Marks are kept as they are. -/
def Entry.ownEntries (resolve : String → Spread) : List (String × Entry) → List (String × Entry)
  | [] => []
  | (key, entry) :: rest =>
    let others := Entry.ownEntries resolve rest
    if isReserved key then (key, entry) :: others
    else
      match entry with
      | .requested =>
        match resolve key with
        | .field => (key, .requested) :: others
        | _ => others
      | entry => (key, entry.inlineSpreads resolve) :: others

end

/-- Inlines fragments in a node and below it. -/
def Node.inlineSpreads (resolve : String → Spread) (node : Node) : Node :=
  Node.absorbSpreads resolve (Entry.ownEntries resolve node) node

/-- Inlines fragments in a node. `opened` are the fragments on the way to it; each
step opens another one, so the number of fragments is enough `depth`. -/
def Node.expand (fragments : FragmentMap) : (depth : Nat) → (opened : List String) → Node → Node
  | depth, opened, node =>
    node.inlineSpreads fun name =>
      match OrderedMap.get? fragments name with
      | none => .field
      | some fragment =>
        if opened.contains name then .recursive
        else
          match depth with
          | 0 => .recursive
          | less + 1 => .inlined (Node.expand fragments less (name :: opened) fragment)

/-- Inlines fragments in every root. -/
def Prototype.expand (prototype : Prototype) (fragments : FragmentMap) : Prototype :=
  prototype.map fun entry => (entry.1, Node.expand fragments fragments.length [] entry.2)

end GraphCache
