import GraphCache.Proofs.ExpandedNodes

/-! Where the objects of an answer stand. An object is met under a node exactly if a path of
fields leads from a root to the node, and the same path leads through the data to the object.
Compiled nodes have every key once, also when fragments are inlined, so what stands at a path
is all that is met there. -/
namespace GraphCache

/-- The objects at the end of a path of fields, in order. Lists on the way are gone through. -/
def Json.objectsAt : Json → List String → List (OrderedMap String Json)
  | value, [] => objectsOf value
  | value, key :: rest =>
    (objectsOf value).flatMap fun object =>
      objectsAt ((OrderedMap.get? object key).getD .null) rest

/-! ## Nodes with distinct keys -/

/-- A node that has every key once, with such nodes below it. -/
inductive Node.Distinct : Node → Prop where
  | intro {node : Node} (unique : (OrderedMap.keys node).Nodup)
      (inside : ∀ key entries, (key, Entry.relation entries) ∈ node → Node.Distinct entries) :
      Node.Distinct node

namespace Node

theorem keys_absorb_nodup {node : Node} (unique : (OrderedMap.keys node).Nodup) (fragment : Node) :
    (OrderedMap.keys (node.absorb fragment)).Nodup := by
  induction fragment generalizing node with
  | nil => exact unique
  | cons first rest ih =>
    obtain ⟨name, entry⟩ := first
    obtain ⟨mapping, held, shape⟩ | free := node.held_or_free name
    · rw [absorb_held held shape]
      exact ih unique
    · rw [absorb_free free]
      exact ih (OrderedMap.keys_insert_nodup unique name entry)

section Inlining
variable {resolve : String → Spread}

theorem keys_absorbSpreads_nodup {own : Node} (unique : (OrderedMap.keys own).Nodup)
    (written : Node) : (OrderedMap.keys (absorbSpreads resolve own written)).Nodup := by
  induction written generalizing own with
  | nil => exact unique
  | cons entry rest ih =>
    obtain ⟨name, entry⟩ := entry
    obtain skipped | ⟨fragment, rfl, plain, inlined⟩ := skipped_or_inlined resolve name entry
    · rw [absorbSpreads_skipped skipped]
      exact ih unique
    · rw [absorbSpreads_inlined plain inlined]
      exact ih (keys_absorb_nodup unique fragment)

theorem keys_ownEntries_sublist (entries : Node) :
    (OrderedMap.keys (Entry.ownEntries resolve entries)).Sublist (OrderedMap.keys entries) := by
  induction entries with
  | nil => exact .slnil
  | cons entry rest ih =>
    obtain ⟨name, entry⟩ := entry
    cases reserved : isReserved name with
    | true =>
      rw [ownEntries_reserved reserved]
      exact ih.cons_cons name
    | false =>
      cases entry with
      | requested =>
        by_cases field : resolve name = .field
        · rw [ownEntries_field reserved field]
          exact ih.cons_cons name
        · rw [ownEntries_spread reserved field]
          exact ih.cons name
      | literal value =>
        rw [ownEntries_literal]
        exact ih.cons_cons name
      | relation inner =>
        rw [ownEntries_relation reserved]
        exact ih.cons_cons name

/-- Inlining such fragments keeps keys distinct. -/
theorem Distinct.inlineSpreads
    (shared : ∀ name fragment, resolve name = .inlined fragment → Distinct fragment) {node : Node}
    (distinct : node.Distinct) : (node.inlineSpreads resolve).Distinct := by
  induction distinct with
  | @intro node unique inside ih =>
    refine .intro (keys_absorbSpreads_nodup (unique.sublist (keys_ownEntries_sublist node)) node)
      fun key entries member => ?_
    obtain ⟨below, written, rfl⟩ | ⟨name, fragment, _, _, inlined, part⟩ :=
      relation_of_mem_inlineSpreads member
    · split
      · exact inside key below written
      · exact ih key below written
    · cases shared name fragment inlined with
      | intro _ each => exact each key entries part

end Inlining

theorem Distinct.expand {fragments : FragmentMap}
    (shared : ∀ name fragment, OrderedMap.get? fragments name = some fragment → Distinct fragment)
    (depth : Nat) (opened : List String) {node : Node} (distinct : node.Distinct) :
    (Node.expand fragments depth opened node).Distinct := by
  refine expand_induction (motive := fun written node => written.Distinct → node.Distinct)
    ?_ depth opened node distinct
  intro depth opened node inside distinct
  refine distinct.inlineSpreads fun name fragment inlined => ?_
  obtain ⟨written, found, kept⟩ := inside name fragment inlined
  exact kept (shared name written found)

end Node

theorem FieldHead.node_distinct (head : FieldHead) (custom : Option String)
    (selections : List Selection) : (head.node custom selections).Distinct := by
  refine .intro (head.keys_node_nodup custom selections) fun key entries member => ?_
  obtain ⟨field, last, rfl⟩ := head.relation_of_mem_node custom member
  exact field.1.node_distinct custom field.2
termination_by sizeOf selections
decreasing_by
  have inside := List.sizeOf_lt_of_mem (Selection.mem_branches.mp (Selection.mem_of_last? last)).2
  simp only [Selection.relation.sizeOf_spec] at inside
  omega

theorem Fragment.node_distinct (shared : Fragment) (custom : Option String) :
    (shared.node custom).Distinct := by
  refine .intro (shared.keys_node_nodup custom) fun key entries member => ?_
  obtain ⟨field, _, rfl⟩ := shared.relation_of_mem_node custom member
  exact field.1.node_distinct custom field.2

/-- A prototype that has every key once, at every depth. -/
structure Prototype.Distinct (prototype : Prototype) : Prop where
  unique : (OrderedMap.keys prototype).Nodup
  nodes : ∀ root ∈ prototype, root.2.Distinct

theorem Document.translatedRoots_distinct (document : Document) (custom : Option String) :
    (document.translatedRoots custom).Distinct := by
  rw [translatedRoots_eq, Selection.relationsOf_eq_map]
  refine ⟨OrderedMap.keys_ofList_nodup _, fun root member => ?_⟩
  obtain none | selected := OrderedMap.mem_of_mem_overlay member
  · cases none
  · obtain ⟨branch, _, rfl⟩ := List.mem_map.mp selected
    exact branch.2.1.node_distinct custom branch.2.2

theorem Document.expanded_distinct {document : Document} {custom : Option String}
    (clear : (document.compile custom).obstacle = none) : (document.expanded custom).Distinct := by
  refine ⟨expanded_keys_nodup_of_clear clear, fun root member => ?_⟩
  rw [expanded_eq_expand clear] at member
  obtain ⟨own, written, rfl⟩ := List.mem_map.mp member
  have distinct := (document.translatedRoots_distinct custom).nodes own written
  refine distinct.expand (fun name fragment found => ?_) _ _
  obtain ⟨shared, _, rfl⟩ := get?_translatedFragments_iff.mp found
  exact shared.node_distinct custom

/-! ## Places -/

namespace Node
variable {occurrence : Occurrence}

/-- Below the fields of an object the objects under each relation are met. -/
private theorem mem_occurrencesIn {object : OrderedMap String Json} {entries : Node} :
    occurrence ∈ Entry.occurrencesIn object entries ↔
      ∃ key below, (key, Entry.relation below) ∈ entries ∧ isReserved key = false ∧
        occurrence ∈ Node.occurrences key below ((OrderedMap.get? object key).getD .null) := by
  induction entries with
  | nil => simp [Entry.occurrencesIn]
  | cons entry rest ih =>
    obtain ⟨name, entry⟩ := entry
    rw [Entry.occurrencesIn, List.mem_append, ih]
    constructor
    · rintro (own | ⟨key, below, member, met⟩)
      · split at own
        · cases own
        · rename_i plain
          cases entry with
          | requested => cases own
          | literal value => cases own
          | relation below =>
            rw [Entry.occurrences] at own
            exact ⟨name, below, List.mem_cons_self, by simpa using plain, own⟩
      · exact ⟨key, below, List.mem_cons_of_mem _ member, met⟩
    · rintro ⟨key, below, member, plain, met⟩
      obtain same | later := List.mem_cons.mp member
      · cases same
        rw [if_neg (by simp [plain]), Entry.occurrences]
        exact .inl met
      · exact .inr ⟨key, below, later, plain, met⟩

/-- An object is met under the node at the end of a path that leads to both. -/
theorem Distinct.mem_occurrences_iff {node : Node} (distinct : node.Distinct) {fieldKey : String}
    {value : Json} : occurrence ∈ node.occurrences fieldKey value ↔
      ∃ path, path.any isReserved = false ∧ path.getLastD fieldKey = occurrence.fieldKey ∧
        node.at? path = some occurrence.node ∧ occurrence.object ∈ value.objectsAt path := by
  induction distinct generalizing fieldKey value with
  | @intro node unique inside ih =>
    rw [Node.occurrences, List.mem_flatMap]
    constructor
    · rintro ⟨object, part, met⟩
      -- below an object, which the path goes on to, or the object itself, where it ends
      obtain below | own := List.mem_append.mp met
      · obtain ⟨key, entries, member, plain, deeper⟩ := mem_occurrencesIn.mp below
        obtain ⟨path, unmarked, last, found, placed⟩ := (ih key entries member).mp deeper
        refine ⟨key :: path, by simp [plain, unmarked], by rw [List.getLastD_cons, last], ?_, ?_⟩
        · exact at?_cons_eq_some.mpr ⟨entries, OrderedMap.get?_eq_some_of_mem unique member, found⟩
        · exact List.mem_flatMap.mpr ⟨object, part, placed⟩
      · rw [List.mem_singleton.mp own]
        exact ⟨[], rfl, rfl, rfl, part⟩
    · rintro ⟨path, unmarked, last, found, placed⟩
      cases path with
      | nil =>
        refine ⟨occurrence.object, placed, List.mem_append_right _ (List.mem_singleton.mpr ?_)⟩
        cases found
        cases last
        rfl
      | cons key rest =>
        obtain ⟨entries, relation, deeper⟩ := at?_cons_eq_some.mp found
        obtain ⟨object, part, inner⟩ := List.mem_flatMap.mp placed
        rw [List.any_cons, Bool.or_eq_false_iff] at unmarked
        have member := OrderedMap.mem_of_get?_eq_some relation
        refine ⟨object, part, List.mem_append_left _ (mem_occurrencesIn.mpr
          ⟨key, entries, member, unmarked.1, (ih key entries member).mpr
            ⟨rest, unmarked.2, ?_, deeper, inner⟩⟩)⟩
        rw [← last, List.getLastD_cons]

end Node

namespace Prototype
variable {prototype : Prototype}

/-- Roots without a value, and those whose value is null, have no objects. -/
private theorem occurrences_eq (prototype : Prototype) (data : OrderedMap String Json) :
    prototype.occurrences data = prototype.flatMap fun root =>
      root.2.occurrences root.1 ((OrderedMap.get? data root.1).getD .null) := by
  induction prototype with
  | nil => rfl
  | cons root rest ih =>
    rw [List.flatMap_cons, ← ih, occurrences, occurrences, carriedRoots, carriedRoots,
      List.filterMap_cons]
    cases OrderedMap.get? data root.1 with
    | none => rfl
    | some value => cases value <;> rfl

/-- The objects of an answer are met under the fields that lead to them from the roots. -/
theorem Distinct.mem_occurrences_iff (distinct : prototype.Distinct)
    {data : OrderedMap String Json} {occurrence : Occurrence} :
    occurrence ∈ prototype.occurrences data ↔
      ∃ path, (path ++ [occurrence.fieldKey]).tail.any isReserved = false ∧
        prototype.at? (path ++ [occurrence.fieldKey]) = some occurrence.node ∧
        occurrence.object ∈ (Json.object data).objectsAt (path ++ [occurrence.fieldKey]) := by
  have objects (root : String) (rest : List String) : (Json.object data).objectsAt (root :: rest) =
      ((OrderedMap.get? data root).getD .null).objectsAt rest := by
    rw [Json.objectsAt, objectsOf, List.flatMap_singleton]
  rw [occurrences_eq, List.mem_flatMap]
  constructor
  · rintro ⟨⟨root, node⟩, member, met⟩
    obtain ⟨path, plain, last, found, placed⟩ :=
      (distinct.nodes _ member).mem_occurrences_iff.mp met
    have whole : (root :: path).dropLast ++ [occurrence.fieldKey] = root :: path := by
      rw [← last, ← List.getLast_eq_getLastD (List.cons_ne_nil root path),
        List.dropLast_concat_getLast]
    refine ⟨(root :: path).dropLast, ?_⟩
    rw [whole, objects]
    refine ⟨plain, ?_, placed⟩
    rw [at?, OrderedMap.get?_eq_some_of_mem distinct.unique member]
    exact found
  · rintro ⟨path, plain, found, placed⟩
    -- the root is the first key, and may be the last one as well
    generalize whole : path ++ [occurrence.fieldKey] = full at plain found placed
    cases full with
    | nil => cases found
    | cons root rest =>
      obtain ⟨node, top, deeper⟩ := Option.bind_eq_some_iff.mp found
      have member := OrderedMap.mem_of_get?_eq_some top
      rw [objects] at placed
      refine ⟨(root, node), member, (distinct.nodes _ member).mem_occurrences_iff.mpr
        ⟨rest, plain, ?_, deeper, placed⟩⟩
      rw [← List.getLast_eq_getLastD (List.cons_ne_nil root rest)]
      simp [← whole]

end Prototype
end GraphCache
