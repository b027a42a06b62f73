import GraphCache.Proofs.Calls
import GraphCache.Proofs.ReachedFragments
import GraphCache.Proofs.SpreadChains

/-! Which node stands where once fragments are inlined. Along the relations that a document
selects below its roots every node stays in its place, with fragments inlined in it. Other nodes
come out of fragments. Each of them, wherever it stands, is what has become of one relation that
the document selects somewhere, and it stands under the response key of that relation. -/
namespace GraphCache

namespace Node

variable {fragments : FragmentMap}

/-! ## Along a path -/

/-- Below a relation whose key looks like a mark nothing is inlined. -/
theorem get?_expand_reserved {node below : Node} {key : String} (reserved : isReserved key = true)
    (found : OrderedMap.get? node key = some (.relation below)) (depth : Nat)
    (opened : List String) :
    OrderedMap.get? (Node.expand fragments depth opened node) key = some (.relation below) := by
  have own : OrderedMap.get? (Entry.ownEntries (Node.spread fragments depth opened) node) key =
      some (.relation below) := by rw [get?_ownEntries reserved, found]
  rw [expand_eq, inlineSpreads]
  exact get?_absorbSpreads_mapping rfl own node

/-- A node stays where it stands. Fragments are inlined in it, unless a key on the way looks like
a mark. -/
theorem at?_expand {node below : Node} {path : List String} (found : node.at? path = some below)
    (depth : Nat) (opened : List String) :
    (Node.expand fragments depth opened node).at? path =
      some (if path.any isReserved then below else Node.expand fragments depth opened below) := by
  induction path generalizing node with
  | nil =>
    cases found
    rfl
  | cons key rest ih =>
    obtain ⟨inner, relation, inside⟩ := at?_cons_eq_some.mp found
    rw [List.any_cons, at?_cons_eq_some]
    cases marked : isReserved key with
    | true => exact ⟨inner, get?_expand_reserved marked relation depth opened, inside⟩
    | false => exact ⟨_, get?_expand_relation marked relation depth opened, ih inside⟩

/-! ## Relations of an expanded node -/

/-- A relation that stands in a node, or in a fragment. -/
def Supplies (fragments : FragmentMap) (node : Node) (key : String)
    (below : List (String × Entry)) : Prop :=
  (key, Entry.relation below) ∈ node ∨
    ∃ name fragment, OrderedMap.get? fragments name = some fragment ∧
      (key, Entry.relation below) ∈ fragment

/-- A node as it was written, or with fragments inlined in it. -/
def Becomes (fragments : FragmentMap) (written node : Node) : Prop :=
  node = written ∨ ∃ depth opened, node = Node.expand fragments depth opened written

/-- Every relation of an expanded node was written in the node or in a fragment. -/
theorem supplies_of_mem_expand {depth : Nat} {opened : List String} {node : Node} {key : String}
    {inner : List (String × Entry)}
    (member : (key, Entry.relation inner) ∈ Node.expand fragments depth opened node) :
    ∃ below, node.Supplies fragments key below ∧ Becomes fragments below inner := by
  refine expand_induction (motive := fun written node => (key, Entry.relation inner) ∈ node →
    ∃ below, written.Supplies fragments key below ∧ Becomes fragments below inner)
    ?_ depth opened node member
  intro depth opened node brought member
  obtain ⟨below, written, same⟩ | ⟨name, fragment, _, _, inlined, inside⟩ :=
    relation_of_mem_inlineSpreads member
  · refine ⟨below, .inl written, ?_⟩
    split at same
    · exact .inl same
    · exact .inr ⟨depth, opened, by rw [same, expand_eq]⟩
  · obtain ⟨written, defined, supplied⟩ := brought name fragment inlined
    obtain ⟨below, own | shared, becomes⟩ := supplied inside
    · exact ⟨below, .inr ⟨name, written, defined, own⟩, becomes⟩
    · exact ⟨below, .inr shared, becomes⟩

end Node

namespace Prototype

/-- The nodes below a root stay where they stand. -/
theorem at?_expand {prototype : Prototype} {fragments : FragmentMap} {path : List String}
    {node : Node} (found : prototype.at? path = some node) :
    (prototype.expand fragments).at? path = some (if path.tail.any isReserved then node
      else Node.expand fragments fragments.length [] node) := by
  cases path with
  | nil => cases found
  | cons root rest =>
    obtain ⟨top, written, inside⟩ := Option.bind_eq_some_iff.mp found
    rw [at?, expand,
      OrderedMap.get?_map prototype fun _ => Node.expand fragments fragments.length [], written]
    exact Node.at?_expand inside fragments.length []

end Prototype

/-! ## Relations of a document -/

theorem Selection.Within.inner {selection : Selection} {head : FieldHead}
    {inner selections : List Selection}
    (within : (Selection.relation head inner).Within selections) (member : selection ∈ inner) :
    selection.Within selections := by
  induction within with
  | here above => exact .inside above (.here member)
  | inside above _ ih => exact .inside above ih

namespace Document

/-- A relation that the document selects, in an operation or in a fragment, at any depth. -/
def Relates (document : Document) (head : FieldHead) (selections : List Selection) : Prop :=
  ∃ definition ∈ document.definitions,
    (Selection.relation head selections).Within definition.selections

/-- A node that has become of a relation. -/
def Stands (document : Document) (custom : Option String) (head : FieldHead)
    (selections : List Selection) (node : Node) : Prop :=
  Node.Becomes (document.translatedFragments custom) (head.node custom selections) node

variable {document : Document} {custom : Option String}

theorem relates_root {key : String} {field : FieldHead × List Selection}
    (last : Selection.last? document.rootSelections key = some field) :
    field.1.responseKey = key ∧ document.Relates field.1 field.2 := by
  obtain ⟨named, member⟩ := Selection.mem_branches.mp (Selection.mem_of_last? last)
  obtain ⟨operation, defined, inside⟩ := operation_of_root member
  exact ⟨named, _, defined, .here inside⟩

theorem relates_fragment {name key : String} {shared : Fragment}
    {field : FieldHead × List Selection} (defined : document.fragment? name = some shared)
    (last : Selection.last? shared.selections key = some field) :
    field.1.responseKey = key ∧ document.Relates field.1 field.2 := by
  obtain ⟨named, member⟩ := Selection.mem_branches.mp (Selection.mem_of_last? last)
  exact ⟨named, _, definition_of_fragment (named_of_fragment? defined).1, .here member⟩

theorem Relates.below {head : FieldHead} {selections : List Selection}
    (relates : document.Relates head selections) {key : String} {field : FieldHead × List Selection}
    (last : Selection.last? selections key = some field) :
    field.1.responseKey = key ∧ document.Relates field.1 field.2 := by
  obtain ⟨named, member⟩ := Selection.mem_branches.mp (Selection.mem_of_last? last)
  obtain ⟨definition, listed, within⟩ := relates
  exact ⟨named, definition, listed, within.inner member⟩

/-- What stands below a node that has become of a relation has become of one itself. -/
private theorem Relates.of_mem {head : FieldHead} {selections : List Selection}
    (relates : document.Relates head selections) {node : Node}
    (stands : document.Stands custom head selections node) {key : String}
    {inner : List (String × Entry)} (member : (key, Entry.relation inner) ∈ node) :
    ∃ below selected, document.Relates below selected ∧ below.responseKey = key ∧
      document.Stands custom below selected inner := by
  obtain rfl | ⟨depth, opened, rfl⟩ := stands
  · obtain ⟨field, last, rfl⟩ := head.relation_of_mem_node custom member
    obtain ⟨named, below⟩ := relates.below last
    exact ⟨field.1, field.2, below, named, .inl rfl⟩
  · obtain ⟨written, supplied, becomes⟩ := Node.supplies_of_mem_expand member
    obtain own | ⟨name, fragment, found, inside⟩ := supplied
    · obtain ⟨field, last, rfl⟩ := head.relation_of_mem_node custom own
      obtain ⟨named, below⟩ := relates.below last
      exact ⟨field.1, field.2, below, named, becomes⟩
    · obtain ⟨shared, defined, rfl⟩ := get?_translatedFragments_iff.mp found
      obtain ⟨field, last, rfl⟩ := shared.relation_of_mem_node custom inside
      obtain ⟨named, below⟩ := relates_fragment defined last
      exact ⟨field.1, field.2, below, named, becomes⟩

private theorem Relates.of_at? {head : FieldHead} {selections : List Selection}
    (relates : document.Relates head selections) {node : Node}
    (stands : document.Stands custom head selections node) {path : List String} {result : Node}
    (found : node.at? path = some result) :
    ∃ below selected, document.Relates below selected ∧
      (head.responseKey :: path).getLast? = some below.responseKey ∧
      document.Stands custom below selected result := by
  induction path generalizing head selections node with
  | nil =>
    cases found
    exact ⟨head, selections, relates, rfl, stands⟩
  | cons key rest ih =>
    obtain ⟨inner, relation, inside⟩ := Node.at?_cons_eq_some.mp found
    obtain ⟨below, selected, related, rfl, becomes⟩ :=
      relates.of_mem stands (OrderedMap.mem_of_get?_eq_some relation)
    exact ih related becomes inside

/-- Under roots that have become of relations every node has become of one, under whose response key
it stands. -/
private theorem exists_relates_of_roots {prototype : Prototype}
    (roots : ∀ key root, OrderedMap.get? prototype key = some root →
      ∃ field, Selection.last? document.rootSelections key = some field ∧
        document.Stands custom field.1 field.2 root)
    {path : List String} {node : Node} (found : prototype.at? path = some node) :
    ∃ head selections, document.Relates head selections ∧
      path.getLast? = some head.responseKey ∧ document.Stands custom head selections node := by
  cases path with
  | nil => cases found
  | cons root rest =>
    obtain ⟨top, held, inside⟩ := Option.bind_eq_some_iff.mp found
    obtain ⟨field, last, stands⟩ := roots root top held
    obtain ⟨rfl, relates⟩ := relates_root last
    exact relates.of_at? stands inside

/-- Every node of the prototype as it is written is that of a relation, under whose response key it
stands. -/
theorem exists_relates_of_written (clear : (document.compile custom).obstacle = none)
    {path : List String} {node : Node}
    (found : (document.compile custom).prototype.at? path = some node) :
    ∃ head selections, document.Relates head selections ∧
      path.getLast? = some head.responseKey ∧ document.Stands custom head selections node := by
  refine exists_relates_of_roots (fun key root held => ?_) found
  obtain ⟨field, last, rfl⟩ := root_of_mem clear (OrderedMap.mem_of_get?_eq_some held)
  exact ⟨field, last, .inl rfl⟩

/-! ## Nodes of the expanded prototype -/

theorem expanded_eq_expand (clear : (document.compile custom).obstacle = none) :
    document.expanded custom =
      (document.translatedRoots custom).expand (document.translatedFragments custom) := by
  obtain ⟨roots, fragments⟩ := compiled_trees clear
  rw [expanded, roots, fragments]

/-- A relation that is selected below the roots keeps its node, with fragments inlined in it. -/
theorem expanded_at? (clear : (document.compile custom).obstacle = none) {path : List String}
    {head : FieldHead} {selections : List Selection}
    (selected : Selection.fieldAt? document.rootSelections path = some (head, selections)) :
    (document.expanded custom).at? path = some (if path.tail.any isReserved
      then head.node custom selections else document.inlinedRoot custom head selections) := by
  rw [expanded_eq_expand clear]
  apply Prototype.at?_expand
  rw [translatedRoots_at?, selected]
  rfl

/-- Every node has become of a relation, under whose response key it stands. -/
theorem exists_relates_of_at? (clear : (document.compile custom).obstacle = none)
    {path : List String} {node : Node} (found : (document.expanded custom).at? path = some node) :
    ∃ head selections, document.Relates head selections ∧
      path.getLast? = some head.responseKey ∧ document.Stands custom head selections node := by
  refine exists_relates_of_roots (fun key root held => ?_) found
  rw [expanded_eq_expand clear, Prototype.expand,
    OrderedMap.get?_map (document.translatedRoots custom) fun _ =>
      Node.expand (document.translatedFragments custom) (document.translatedFragments custom).length [],
    get?_translatedRoots, Option.map_map, Option.map_eq_some_iff] at held
  obtain ⟨field, last, rfl⟩ := held
  exact ⟨field, last, .inr ⟨_, _, rfl⟩⟩

end Document
end GraphCache
