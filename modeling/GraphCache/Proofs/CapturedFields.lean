import GraphCache.Proofs.ExpandedNodes
import GraphCache.Proofs.Outlines

/-! Leaves that share their name with a fragment. A node has its leaves and its spreads under
their names alike, and only when fragments are inlined is it told which names are spreads: all
that some fragment of the document has. A leaf under such a name is captured. It gives way to
the fields of the fragment, whether or not that was spread there. No other leaf is lost, be it
selected by an operation or by a fragment. -/
namespace GraphCache

/-! ## Own keys of compiled nodes -/

/-- An entry that a node has under a key, which is no request, is its own. -/
theorem Node.owns_of_get? {fragments : FragmentMap} {node : Node} {key : String} {entry : Entry}
    (found : OrderedMap.get? node key = some entry) (other : entry ≠ .requested) :
    node.Owns fragments key :=
  ⟨entry, OrderedMap.mem_of_get?_eq_some found, fun asked => absurd asked other⟩

/-- A requested name is the node's own unless a fragment has it. -/
theorem Node.owns_requested_iff {fragments : FragmentMap} {node : Node} {key : String}
    (unique : (OrderedMap.keys node).Nodup) (plain : isReserved key = false)
    (asked : OrderedMap.get? node key = some .requested) :
    node.Owns fragments key ↔ key ∉ OrderedMap.keys fragments := by
  constructor
  · rintro ⟨entry, member, kept⟩
    have same := (OrderedMap.get?_eq_some_of_mem unique member).symm.trans asked
    exact kept (Option.some.inj same) plain
  · intro unnamed
    exact ⟨.requested, OrderedMap.mem_of_get?_eq_some asked, fun _ _ => unnamed⟩

section Owns

variable {fragments : FragmentMap} {custom : Option String} {key : String}

/-- A leaf is a field's own where it is selected as a relation too, or no fragment has its name. -/
theorem FieldHead.owns_leaf_iff {head : FieldHead} {selections : List Selection}
    (plain : isReserved key = false) (leaf : key ∈ Selection.leafKeys selections) :
    (head.node custom selections).Owns fragments key ↔
      key ∈ (Selection.branches selections).map Prod.fst ∨ key ∉ OrderedMap.keys fragments := by
  have offered : key ∈ Selection.offered selections := Selection.mem_offered.mpr (.inl leaf)
  have found := head.get?_node_offered custom selections plain
  rw [if_pos offered] at found
  rw [← Selection.last?_isSome_iff]
  cases last : Selection.last? selections key with
  | some field =>
    rw [last] at found
    simp [Node.owns_of_get? found]
  | none =>
    rw [last] at found
    simp [Node.owns_requested_iff (head.keys_node_nodup custom selections) plain found]

/-- Under the name of a fragment a fragment has at most a relation. -/
theorem Fragment.owns_named_iff {shared : Fragment} (plain : isReserved key = false)
    (named : key ∈ OrderedMap.keys fragments) :
    (shared.node custom).Owns fragments key ↔
      key ∈ (Selection.branches shared.selections).map Prod.fst := by
  rw [← Selection.last?_isSome_iff, Option.isSome_iff_exists]
  constructor
  · rintro ⟨entry, member, kept⟩
    obtain ⟨field, last, _⟩ | ⟨_, rfl⟩ := mem_node member
    · exact ⟨field, last⟩
    · exact absurd named (kept rfl plain)
  · rintro ⟨field, last⟩
    exact Node.owns_of_get? ((Node.get?_withRelations_relation (Node.flat_ofNames _)).mpr
      ⟨field, last, rfl⟩) (by simp)

end Owns

namespace Document

variable {document : Document} {custom : Option String}

theorem not_mem_keys_translatedFragments_iff {name : String} :
    name ∉ OrderedMap.keys (document.translatedFragments custom) ↔
      document.fragment? name = none := by
  rw [← OrderedMap.get?_eq_none_iff, get?_translatedFragments, Option.map_eq_none_iff]

/-! ## Leaves -/

/-- What saves a leaf at a path: no fragment has its name, nothing is inlined there because a key
on the way looks like a mark, or a relation is selected under the same key, by the field itself
or by a fragment that is inlined in it. -/
inductive Spares (document : Document) (custom : Option String) (path : List String)
    (head : FieldHead) (selections : List Selection) (key : String) : Prop where
  | unnamed (unnamed : document.fragment? key = none)
  | written (marked : path.tail.any isReserved = true)
  | relation (own : key ∈ (Selection.branches selections).map Prod.fst)
  | shared {name : String} {shared : Fragment}
      (reaches : (head.node custom selections).Reaches (document.translatedFragments custom) name)
      (defined : document.fragment? name = some shared)
      (inside : key ∈ (Selection.branches shared.selections).map Prod.fst)

/-- With fragments inlined in it a node has exactly the leaves that are spared. -/
private theorem mem_keys_expand_leaf_iff {path : List String} {head : FieldHead}
    {selections : List Selection} {key : String} (unmarked : path.tail.any isReserved = false)
    (plain : isReserved key = false) (leaf : key ∈ Selection.leafKeys selections) :
    key ∈ OrderedMap.keys (document.inlinedRoot custom head selections) ↔
      document.Spares custom path head selections key := by
  rw [inlinedRoot, Node.mem_keys_expand_iff, Node.brings_iff_reaches, FieldHead.owns_leaf_iff plain leaf]
  constructor
  · rintro ((own | unnamed) | ⟨name, fragment, reaches, found, owns⟩)
    · exact .relation own
    · exact .unnamed (not_mem_keys_translatedFragments_iff.mp unnamed)
    · by_cases named : key ∈ OrderedMap.keys (document.translatedFragments custom)
      · obtain ⟨shared, defined, rfl⟩ := get?_translatedFragments_iff.mp found
        exact .shared reaches defined ((Fragment.owns_named_iff plain named).mp owns)
      · exact .unnamed (not_mem_keys_translatedFragments_iff.mp named)
  · intro spared
    cases spared with
    | unnamed unnamed => exact .inl (.inr (not_mem_keys_translatedFragments_iff.mpr unnamed))
    | written marked =>
      rw [unmarked] at marked
      cases marked
    | relation own => exact .inl (.inl own)
    | @shared name shared reaches defined inside =>
      by_cases named : key ∈ OrderedMap.keys (document.translatedFragments custom)
      · exact .inr ⟨name, _, reaches, get?_translatedFragments_iff.mpr ⟨shared, defined, rfl⟩,
          (Fragment.owns_named_iff plain named).mpr inside⟩
      · exact .inl (.inr named)

/-- Every node that has become of a relation has the leaves whose names no fragment has. -/
theorem Stands.mem_keys {head : FieldHead} {selections : List Selection} {node : Node}
    (stands : document.Stands custom head selections node) {key : String}
    (leaf : key ∈ Selection.leafKeys selections) (plain : isReserved key = false)
    (unnamed : document.fragment? key = none) : key ∈ OrderedMap.keys node := by
  have absent : key ∉ OrderedMap.keys (document.translatedFragments custom) :=
    not_mem_keys_translatedFragments_iff.mpr unnamed
  obtain rfl | ⟨depth, opened, rfl⟩ := stands
  · exact FieldHead.mem_keys_node.mpr (.inr (.inl (Selection.mem_offered.mpr (.inl leaf))))
  · exact Node.mem_keys_expand_iff.mpr (.inl ((FieldHead.owns_leaf_iff plain leaf).mpr (.inr absent)))

/-- Of a relation below the roots exactly those leaves are requested, once fragments are inlined,
that do not look like marks and are spared. Wherever else a relation's node may stand, it
requests all its leaves that do not look like marks and whose names no fragment has. -/
theorem leaves_kept_iff (clear : (document.compile custom).obstacle = none) :
    (∀ path head selections,
      Selection.fieldAt? document.rootSelections path = some (head, selections) →
      ∃ node, (document.expanded custom).at? path = some node ∧
        ∀ key ∈ Selection.leafKeys selections, key ∈ node.names ↔
          isReserved key = false ∧ document.Spares custom path head selections key) ∧
    ∀ path node, (document.expanded custom).at? path = some node →
      ∃ head selections, document.Relates head selections ∧
        path.getLast? = some head.responseKey ∧
        ∀ key ∈ Selection.leafKeys selections, isReserved key = false →
          document.fragment? key = none → key ∈ node.names := by
  constructor
  · intro path head selections selected
    refine ⟨_, expanded_at? clear selected, fun key leaf => ?_⟩
    rw [Node.mem_names, and_comm]
    refine and_congr_right fun plain => ?_
    cases marked : path.tail.any isReserved with
    | true =>
      have offered := Selection.mem_offered.mpr (.inl leaf)
      exact iff_of_true (FieldHead.mem_keys_node.mpr (.inr (.inl offered))) (.written marked)
    | false =>
      rw [if_neg Bool.false_ne_true]
      exact mem_keys_expand_leaf_iff marked plain leaf
  · intro path node found
    obtain ⟨head, selections, relates, named, stands⟩ := exists_relates_of_at? clear found
    exact ⟨head, selections, relates, named, fun key leaf plain unnamed =>
      Node.mem_names.mpr ⟨stands.mem_keys leaf plain unnamed, plain⟩⟩

end Document

namespace Captured

def head : FieldHead := ⟨none, "countries", [], []⟩

def selections : List Selection :=
  [.leaf ⟨none, "id", [], []⟩, .leaf ⟨none, "name", [], []⟩,
   .relation ⟨none, "cities", [], []⟩ [.leaf ⟨none, "id", [], []⟩, .spread "name" []]]

/-- A document in which a fragment, spread further below, has the name of a leaf. -/
def document : Document where
  definitions :=
    [.operation ⟨.query, none, [], [], [.relation head selections]⟩,
     .fragment ⟨"name", "City", [], [.leaf ⟨none, "population", [], []⟩]⟩]

end Captured

theorem Document.leaves_kept_countries :
    (Captured.document.compile none).obstacle = none ∧
      ∃ node, (Captured.document.expanded none).at? ["countries"] = some node ∧
        "id" ∈ node.names := by
  have clear : (Captured.document.compile none).obstacle = none := by decide
  obtain ⟨node, found, kept⟩ :=
    (leaves_kept_iff clear).1 ["countries"] Captured.head Captured.selections rfl
  exact ⟨clear, node, found, (kept "id" (by decide)).mpr ⟨by decide, .unnamed rfl⟩⟩

/-- The name of the countries is not requested in the end. -/
theorem Document.leaf_captured_countries :
    (Captured.document.compile none).isCacheable = true ∧
      Selection.fieldAt? Captured.document.rootSelections ["countries"] =
        some (Captured.head, Captured.selections) ∧
      "name" ∈ Selection.leafKeys Captured.selections ∧
      ∃ node, (Captured.document.expanded none).at? ["countries"] = some node ∧
        "name" ∉ node.names := by
  have names : ((Captured.document.expanded none).at? ["countries"]).map Node.names =
      some ["id", "cities", "population"] := by decide +kernel
  obtain ⟨node, found, same⟩ := Option.map_eq_some_iff.mp names
  exact ⟨by decide, rfl, by decide, node, found, by simp [same]⟩

end GraphCache
