import GraphCache.Proofs.MergePrecedence
import GraphCache.Proofs.Outlines

/-! The shape of merged data. Whatever the two sides look like, merging gives what was requested:
null, an object with just the requested fields in their order, or a list of such objects. Only
what is no object in a fresh list stays there as it is. Merging leaves nothing that it would
change, so merged data is the same after it is merged once more, with whatever is cached then. -/
namespace GraphCache

/-! ## Mappings written over mappings -/

namespace OrderedMap

universe u v

variable {κ : Type u} {α : Type v} [DecidableEq κ]

theorem overlay_of_get? {base above : OrderedMap κ α}
    (present : ∀ entry ∈ above, get? base entry.1 = some entry.2) : overlay base above = base := by
  induction above with
  | nil => rfl
  | cons entry rest ih =>
    obtain ⟨first, later⟩ := List.forall_mem_cons.mp present
    rw [overlay_cons, insert_of_get? first, ih later]

/-- Keys that are new go to the end, in their order. -/
theorem keys_overlay {above : OrderedMap κ α} (unique : (keys above).Nodup)
    (base : OrderedMap κ α) :
    keys (overlay base above) = keys base ++ (keys above).filter (· ∉ keys base) := by
  induction above generalizing base with
  | nil => simp [keys]
  | cons entry rest ih =>
    obtain ⟨fresh, tail⟩ := List.nodup_cons.mp unique
    have head : keys (entry :: rest) = entry.1 :: keys rest := rfl
    rw [overlay_cons, ih tail, head]
    by_cases present : entry.1 ∈ keys base
    · rw [keys_insert_of_mem _ present, List.filter_cons_of_neg (by simpa using present)]
    · have others : (keys rest).filter (· ∉ keys base ++ [entry.1]) =
          (keys rest).filter (· ∉ keys base) := by
        refine List.filter_congr fun key member => ?_
        have other : key ≠ entry.1 := by
          rintro rfl
          exact fresh member
        simp [other]
      rw [keys_insert_of_not_mem _ present, others, List.filter_cons_of_pos (by simpa using present),
        List.append_assoc, List.singleton_append]

end OrderedMap

/-! ## Values of the requested shape -/

/-- A node requests no field twice, and neither does any node that its fields lead to. -/
inductive Node.Once : Node → Prop where
  | intro {node : Node} (unique : node.names.Nodup)
      (inside : ∀ key entries, isReserved key = false →
        OrderedMap.get? node key = some (.relation entries) → Once entries) : Once node

/-- A value has the shape that a node requests: null, an object with just the requested fields in
their order, or a list of such objects. A list has the length of the fresh list beside it, if
there is one, and the same item wherever that one has something else than an object. -/
inductive Node.Shapes : Node → Option Json → Json → Prop where
  | null (node : Node) (fresh : Option Json) : Shapes node fresh .null
  | object {node : Node} {fresh : Option Json} {fields : OrderedMap String Json}
      (exactly : OrderedMap.keys fields = node.names)
      (relations : ∀ key entries value, isReserved key = false →
        OrderedMap.get? node key = some (.relation entries) →
        OrderedMap.get? fields key = some value →
        Shapes entries (OrderedMap.get? (objectFields fresh) key) value) :
      Shapes node fresh (.object fields)
  | served {node : Node} {items : List Json} (objects : ∀ item ∈ items, item.isObject = true)
      (each : ∀ item ∈ items, Shapes node none item) : Shapes node none (.array items)
  | listed {node : Node} {items merged : List Json} (length : merged.length = items.length)
      (copied : ∀ (index : Nat) (item : Json), items[index]? = some item → item.isObject = false →
        merged[index]? = some item)
      (objects : ∀ (index : Nat) (fields : OrderedMap String Json) (value : Json),
        items[index]? = some (.object fields) → merged[index]? = some value →
        value.isObject = true)
      (each : ∀ (index : Nat) (fields : OrderedMap String Json) (value : Json),
        items[index]? = some (.object fields) → merged[index]? = some value →
        Shapes node (some (.object fields)) value) :
      Shapes node (some (.array items)) (.array merged)

namespace Node

theorem exists_of_mem_names {node : Node} {key : String} (requested : key ∈ node.names) :
    ∃ entry, OrderedMap.get? node key = some entry := by
  obtain ⟨entry, member, rfl⟩ := List.mem_map.mp requested
  exact Option.isSome_iff_exists.mp ((OrderedMap.get?_isSome_iff node entry.1).mpr
    (List.mem_map_of_mem (f := Prod.fst) (mem_fields.mp member).1))

/-- Two objects are merged to one with the requested fields in their order. -/
theorem keys_mergeFields (custom : Option String) (fresh cached : OrderedMap String Json)
    (node : Node) : OrderedMap.keys (Entry.mergeFields custom fresh cached node) = node.names := by
  rw [names, fields]
  induction node with
  | nil => rfl
  | cons entry rest ih =>
    obtain ⟨key, entry⟩ := entry
    rw [Entry.mergeFields]
    cases reserved : isReserved key with
    | true => simpa [reserved] using ih
    | false => simpa [OrderedMap.keys, reserved] using ih

theorem isObject_mergeObjects (custom : Option String) (node : Node) (fresh cached : Option Json) :
    (node.mergeObjects custom fresh cached).isObject = true := rfl

variable {custom : Option String} {node : Node}

/-- Two objects are merged to one of the requested shape, if the nodes below keep to theirs. -/
private theorem shapes_mergeObjects
    (below : ∀ key entries, isReserved key = false →
      OrderedMap.get? node key = some (.relation entries) → ∀ fresh cached : Option Json,
      Shapes entries fresh (Node.merge custom entries fresh cached)) (fresh cached : Option Json) :
    node.Shapes fresh (node.mergeObjects custom fresh cached) := by
  refine .object (keys_mergeFields custom _ _ node) fun key entries value plain relation shown => ?_
  rw [Entry.get?_mergeFields, plain, relation] at shown
  simp only [Bool.false_eq_true, ↓reduceIte, Option.map_some, Entry.merge_relation,
    Option.some.injEq] at shown
  rw [← shown]
  exact below key entries plain relation _ _

/-- Any two values are merged to one of the requested shape, if objects are. -/
private theorem shapes_mergeRelation
    (objects : ∀ fresh cached, node.Shapes fresh (node.mergeObjects custom fresh cached))
    (fresh cached : Option Json) : node.Shapes fresh (node.merge custom fresh cached) := by
  unfold Node.merge mergeRelation
  split
  · exact .null node _
  · rename_i items cached
    refine .listed (List.length_map _) ?_ ?_ ?_
    · intro index item found plain
      rw [List.getElem?_map, found]
      cases item <;> first | rfl | cases plain
    · intro index fields value found shown
      rw [List.getElem?_map, found] at shown
      cases shown
      exact isObject_mergeObjects custom node _ _
    · intro index fields value found shown
      rw [List.getElem?_map, found] at shown
      cases shown
      exact objects _ _
  · exact objects _ _
  · exact .null node _
  · exact .null node _
  · refine .served ?_ ?_
    · intro item member
      obtain ⟨own, -, rfl⟩ := List.mem_map.mp member
      exact isObject_mergeObjects custom node _ _
    · intro item member
      obtain ⟨own, -, rfl⟩ := List.mem_map.mp member
      exact objects none (some own)
  · exact objects _ _

/-- Whatever two values are merged under a node, the result has the shape that it requests. -/
theorem shapes_merge (custom : Option String) (node : Node) (fresh cached : Option Json) :
    node.Shapes fresh (node.merge custom fresh cached) := by
  have below : ∀ key entries, isReserved key = false →
      OrderedMap.get? node key = some (.relation entries) → ∀ fresh cached : Option Json,
      Shapes entries fresh (Node.merge custom entries fresh cached) := by
    intro key entries plain relation fresh cached
    exact shapes_merge custom entries fresh cached
  exact shapes_mergeRelation (shapes_mergeObjects below) fresh cached
termination_by sizeOf node
decreasing_by
  have inside := List.sizeOf_lt_of_mem (OrderedMap.mem_of_get?_eq_some relation)
  simp at inside
  omega

/-- A list is its own merge with anything if each object in it is. -/
private theorem merge_items_same {items : List Json}
    (each : ∀ fields, .object fields ∈ items → ∀ cached : Option Json,
      node.merge custom (some (.object fields)) cached = .object fields) (cached : Option Json) :
    node.merge custom (some (.array items)) cached = .array items := by
  obtain ⟨complete, merged, completed, others⟩ := node.merge_each custom items cached
  have same : ∀ item ∈ items, complete item = item := by
    intro item member
    cases item with
    | object fields =>
      obtain ⟨paired, joined⟩ := completed fields
      rw [joined, each fields member]
    | _ => exact others _ rfl
  rw [merged, List.map_congr_left same, List.map_id']

/-- A value of the requested shape is its own merge with anything. -/
theorem Shapes.merge_same {fresh : Option Json} {value : Json} (shapes : node.Shapes fresh value)
    (once : node.Once) (custom : Option String) (cached : Option Json) :
    node.merge custom (some value) cached = value := by
  induction shapes generalizing cached with
  | null => rfl
  | @object node fresh fields exactly relations ih =>
    obtain ⟨unique, inside⟩ := once
    have keys := keys_mergeFields custom fields (objectFields cached) node
    rw [merge_fresh_object, Json.object.injEq]
    refine OrderedMap.ext_of_keys (keys.trans exactly.symm) (keys ▸ unique) fun key member => ?_
    rw [keys] at member
    obtain ⟨value, carried⟩ := Option.isSome_iff_exists.mp
      ((OrderedMap.get?_isSome_iff fields key).mpr (exactly ▸ member))
    obtain ⟨entry, found⟩ := exists_of_mem_names member
    have plain := plain_of_names member
    rw [Entry.get?_mergeFields, plain, found, carried]
    simp only [Bool.false_eq_true, ↓reduceIte, Option.map_some, Option.some.injEq]
    cases entry with
    | requested => rfl
    | literal mark => rfl
    | relation entries =>
      rw [Entry.merge_relation]
      exact ih key entries value plain found carried (inside key entries plain found) _
  | @served node items objects each ih =>
    exact merge_items_same (fun fields member => ih _ member once) cached
  | @listed node items merged length copied objects each ih =>
    refine merge_items_same (fun fields member => ?_) cached
    obtain ⟨index, shown⟩ := List.getElem?_of_mem member
    have within : index < items.length := length ▸ (List.getElem?_eq_some_iff.mp shown).1
    have found := List.getElem?_eq_getElem within
    -- An object in the merged list stands where the fresh one has an object.
    cases item : items[index] with
    | object own =>
      rw [item] at found
      exact ih index own _ found shown once
    | _ =>
      rw [item] at found
      rw [copied index _ found rfl] at shown
      cases shown

end Node

/-! ## Merging all roots -/

section Plain
variable {τ : Type}

/-- What all roots are merged to, written over the fresh data. -/
private theorem Prototype.merge_eq_overlay (custom : Option String) (prototype : Prototype)
    (fresh : OrderedMap String Json) (cached : OrderedMap String (List (Record τ))) :
    prototype.merge custom fresh cached = OrderedMap.overlay fresh (prototype.map fun entry =>
      (entry.1, entry.2.merge custom (OrderedMap.get? fresh entry.1)
        (cachedRoot entry.2 ((OrderedMap.get? cached entry.1).getD [])))) := by
  simp [Prototype.merge, OrderedMap.overlay, List.foldl_map]

/-- Merged data has the roots of the fresh data, in their order, and then those of the prototype
that are new. What the prototype does not know stays, and every root of it has the shape that
its node requests. So the data is the same after it is merged again, whatever is cached and
whichever name identifies. -/
theorem Prototype.merge_shapes (custom : Option String) {prototype : Prototype}
    (unique : (OrderedMap.keys prototype).Nodup) (once : ∀ root ∈ prototype, root.2.Once)
    (fresh : OrderedMap String Json) (cached : OrderedMap String (List (Record τ))) :
    let merged := prototype.merge custom fresh cached
    OrderedMap.keys merged = OrderedMap.keys fresh ++
        (OrderedMap.keys prototype).filter (· ∉ OrderedMap.keys fresh) ∧
      (∀ root, root ∉ OrderedMap.keys prototype →
        OrderedMap.get? merged root = OrderedMap.get? fresh root) ∧
      (∀ root node, OrderedMap.get? prototype root = some node →
        ∃ value, OrderedMap.get? merged root = some value ∧
          node.Shapes (OrderedMap.get? fresh root) value) ∧
      ∀ (other : Option String) (records : OrderedMap String (List (Record τ))),
        prototype.merge other merged records = merged := by
  intro merged
  have written := merge_eq_overlay custom prototype fresh cached
  have told := get?_merge custom unique fresh cached
  have keys (change : String × Node → Json) :
      OrderedMap.keys (prototype.map fun entry => (entry.1, change entry)) =
        OrderedMap.keys prototype := by
    simp [OrderedMap.keys, Function.comp_def]
  have shaped : ∀ root node, OrderedMap.get? prototype root = some node →
      ∃ value, OrderedMap.get? merged root = some value ∧
        node.Shapes (OrderedMap.get? fresh root) value := by
    intro root node asked
    refine ⟨node.merge custom (OrderedMap.get? fresh root)
      (cachedRoot node ((OrderedMap.get? cached root).getD [])), ?_, node.shapes_merge custom _ _⟩
    rw [told, asked]
    rfl
  refine ⟨?_, ?_, shaped, ?_⟩
  · have apart : (OrderedMap.keys (prototype.map fun entry =>
        (entry.1, entry.2.merge custom (OrderedMap.get? fresh entry.1)
          (cachedRoot entry.2 ((OrderedMap.get? cached entry.1).getD []))))).Nodup := by
      rw [keys]
      exact unique
    simp only [merged, written, OrderedMap.keys_overlay apart, keys]
  · intro root unknown
    rw [told, (OrderedMap.get?_eq_none_iff prototype root).mpr unknown]
    rfl
  · intro other records
    rw [merge_eq_overlay]
    refine OrderedMap.overlay_of_get? fun entry member => ?_
    obtain ⟨⟨root, node⟩, inside, rfl⟩ := List.mem_map.mp member
    obtain ⟨value, shown, shapes⟩ := shaped root node (OrderedMap.get?_eq_some_of_mem unique inside)
    simp only [shown]
    rw [shapes.merge_same (once _ inside)]

end Plain

namespace Cities

def city : Node := [("id", .requested), ("name", .requested)]

def country : Node :=
  [("id", .requested), ("__id", .literal (.string "1")), ("cities", .relation city)]

def prototype : Prototype := [("country", country)]

def lima : Json := .object [("id", .int 10), ("name", .string "Lima")]

/-- A record with a city that has its name. -/
def record : Record Int :=
  ⟨"country--1", "country", "1", [("id", .int 1), ("cities", .array [lima])], false, none⟩

/-- Data in which little is as requested: the country has no identifier, and among its cities are
a null, a list and one that has no name but something else. -/
def fresh : OrderedMap String Json :=
  [("hello", .string "world"),
    ("country", .object [("area", .int 7), ("cities", .array
      [.null, .array [lima], .object [("id", .int 10), ("area", .int 3)]])])]

/-- All that is asked of a city is a leaf. -/
theorem city_leaves (key : String) (entries : List (String × Entry)) :
    OrderedMap.get? city key ≠ some (.relation entries) := by
  intro relation
  have member := OrderedMap.mem_of_get?_eq_some relation
  simp [city] at member

/-- The only relation of a country leads to its cities. -/
theorem relation_of_country {key : String} {entries : List (String × Entry)}
    (relation : OrderedMap.get? country key = some (.relation entries)) :
    key = "cities" ∧ entries = city := by
  have member := OrderedMap.mem_of_get?_eq_some relation
  simpa [country] using member

theorem city_once : city.Once :=
  .intro (by decide) fun key entries _ relation => absurd relation (city_leaves key entries)

theorem country_once : country.Once := by
  refine .intro (by decide) fun key entries _ relation => ?_
  obtain ⟨-, rfl⟩ := relation_of_country relation
  exact city_once

end Cities

open Cities in
/-- The country gets an identifier and no area, a city its name, and the rest of the list stays. -/
theorem Prototype.merge_shapes_cities :
    (OrderedMap.keys prototype).Nodup ∧ (∀ root ∈ prototype, root.2.Once) ∧
      prototype.merge none fresh [("country", [record])] =
        [("hello", .string "world"), ("country", .object [("id", .int 1), ("cities", .array
          [.null, .array [lima], lima])])] ∧
      prototype.merge (some "name") (prototype.merge none fresh [("country", [record])])
          ([] : OrderedMap String (List (Record Int))) =
        prototype.merge none fresh [("country", [record])] := by
  have unique : (OrderedMap.keys prototype).Nodup := by decide
  have once : ∀ root ∈ prototype, root.2.Once := by
    intro root member
    rw [List.mem_singleton.mp member]
    exact country_once
  obtain ⟨-, -, -, again⟩ := Prototype.merge_shapes none unique once fresh [("country", [record])]
  exact ⟨unique, once, by decide +kernel, again (some "name") []⟩

end GraphCache
