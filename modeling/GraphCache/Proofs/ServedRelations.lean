import GraphCache.Proofs.MergedShape

/-! Relations that only the cache has. What was kept of a relation comes back as it is when the
fresh object leaves the relation out, as long as there is an object at each place of its lists.
A null among the items of a list does not come back: in its place stands an object in which
every requested field is null. -/
namespace GraphCache

namespace Node

/-- A value as it is kept under a relation: null, an object with exactly the requested fields, or a
list of such objects and nulls. -/
inductive Stored : Node → Json → Prop where
  | null (node : Node) : Stored node .null
  | array {node : Node} {items : List Json}
      (kinds : ∀ item ∈ items, item = .null ∨ item.isObject = true)
      (each : ∀ fields, .object fields ∈ items → Stored node (.object fields)) :
      Stored node (.array items)
  | object {node : Node} {fields : OrderedMap String Json}
      (exactly : ∀ key, (OrderedMap.get? fields key).isSome ↔
        isReserved key = false ∧ (OrderedMap.get? node key).isSome)
      (relations : ∀ key entries value, isReserved key = false →
        OrderedMap.get? node key = some (.relation entries) →
        OrderedMap.get? fields key = some value → Stored entries value) :
      Stored node (.object fields)

/-- No list that stands under a relation has a null among its items. -/
inductive Gapless : Node → Json → Prop where
  | null (node : Node) : Gapless node .null
  | array {node : Node} {items : List Json} (full : .null ∉ items)
      (each : ∀ fields, .object fields ∈ items → Gapless node (.object fields)) :
      Gapless node (.array items)
  | object {node : Node} {fields : OrderedMap String Json}
      (relations : ∀ key entries value, isReserved key = false →
        OrderedMap.get? node key = some (.relation entries) →
        OrderedMap.get? fields key = some value → Gapless entries value) :
      Gapless node (.object fields)

variable {custom : Option String} {node : Node}

theorem merge_served_object (custom : Option String) (node : Node)
    (fields : OrderedMap String Json) : node.merge custom none (some (.object fields)) =
      .object (Entry.mergeFields custom [] fields node) := rfl

theorem merge_served_array (custom : Option String) (node : Node) (items : List Json) :
    node.merge custom none (some (.array items)) =
      .array (items.map fun item => node.mergeObjects custom none (some item)) := rfl

/-- A served list is the same if it has no null and each of its objects is served the same. -/
private theorem served_items_same_iff {items : List Json}
    (kinds : ∀ item ∈ items, item = .null ∨ item.isObject = true)
    (each : ∀ fields, .object fields ∈ items →
      (Json.Same (node.merge custom none (some (.object fields))) (.object fields) ↔
        node.Gapless (.object fields))) :
    Json.Same (node.merge custom none (some (.array items))) (.array items) ↔
      node.Gapless (.array items) := by
  rw [merge_served_array, Json.same_array, List.forall₂_map_left_iff, List.forall₂_same]
  constructor
  · intro same
    refine .array (fun gap => ?_) fun fields member => (each fields member).mp (same _ member)
    -- An object stands in the place of the null.
    cases same _ gap
  · intro gapless item member
    cases gapless with
    | array full objects =>
      rcases kinds item member with rfl | object
      · exact absurd member full
      · cases item with
        | object fields => exact (each fields member).mpr (objects fields member)
        | _ => cases object

/-- A served object is the same if each of its relations is served the same. -/
private theorem served_fields_same_iff {fields : OrderedMap String Json}
    (exactly : ∀ key, (OrderedMap.get? fields key).isSome ↔
      isReserved key = false ∧ (OrderedMap.get? node key).isSome)
    (each : ∀ key entries value, isReserved key = false →
      OrderedMap.get? node key = some (.relation entries) →
      OrderedMap.get? fields key = some value →
      (Json.Same (Node.merge custom entries none (some value)) value ↔
        Node.Gapless entries value)) :
    Json.Same (node.merge custom none (some (.object fields))) (.object fields) ↔
      node.Gapless (.object fields) := by
  rw [merge_served_object, Json.same_object]
  have served (key : String) := Entry.get?_mergeFields custom [] fields node key
  constructor
  · rintro ⟨-, values⟩
    refine .object fun key entries value plain relation carried => ?_
    refine (each key entries value plain relation carried).mp (values key _ value ?_ carried)
    rw [served, plain, relation, carried]
    simp only [Bool.false_eq_true, ↓reduceIte, Option.map_some, Entry.merge_relation]
    rfl
  · intro gapless
    refine ⟨fun key => ?_, fun key left value shown carried => ?_⟩
    · rw [served, Bool.eq_iff_iff, exactly]
      cases isReserved key <;> simp
    · obtain ⟨plain, asked⟩ := (exactly key).mp (by simp [carried])
      obtain ⟨entry, found⟩ := Option.isSome_iff_exists.mp asked
      rw [served, plain, found, carried] at shown
      cases entry with
      | requested =>
        cases shown
        exact .refl _
      | literal mark =>
        cases shown
        exact .refl _
      | relation entries =>
        simp only [Bool.false_eq_true, ↓reduceIte, Option.map_some, Entry.merge_relation,
          Option.some.injEq] at shown
        subst shown
        cases gapless with
        | object relations =>
          exact (each key entries value plain found carried).mpr
            (relations key entries value plain found carried)

/-- What is kept under a relation is served as it is, where the fresh side leaves the relation
out, exactly if no list in it has a null among its items. -/
theorem served_same_iff {held : Json} (stored : node.Stored held) (custom : Option String) :
    Json.Same (node.merge custom none (some held)) held ↔ node.Gapless held := by
  induction stored with
  | null node => exact ⟨fun _ => .null node, fun _ => .refl .null⟩
  | array kinds each ih => exact served_items_same_iff kinds ih
  | object exactly relations ih => exact served_fields_same_iff exactly ih

end Node

namespace Cities

theorem lima_stored : city.Stored lima := by
  refine .object ?_ fun key entries value _ relation _ => absurd relation (city_leaves key entries)
  intro key
  rw [OrderedMap.get?_isSome_iff, OrderedMap.get?_isSome_iff]
  simp only [OrderedMap.keys, city, List.map_cons, List.map_nil, List.mem_cons, List.not_mem_nil,
    or_false]
  refine ⟨?_, And.right⟩
  rintro (rfl | rfl) <;> decide

/-- Cities as they are kept, with a null or without. -/
theorem cities_stored {items : List Json} (known : ∀ item ∈ items, item = .null ∨ item = lima) :
    city.Stored (.array items) := by
  refine .array (fun item member => (known item member).imp_right ?_) fun fields member => ?_
  · rintro rfl
    rfl
  · obtain none | same := known _ member
    · cases none
    · exact same ▸ lima_stored

end Cities

open Cities in
/-- The cities of a country come back, and Lima twice if it is there twice. -/
theorem Node.served_same_cities :
    city.Stored (.array [lima, lima]) ∧
      Json.Same (city.merge none none (some (.array [lima, lima]))) (.array [lima, lima]) := by
  have stored : city.Stored (.array [lima, lima]) := cities_stored (by simp)
  refine ⟨stored, (Node.served_same_iff stored none).mpr ?_⟩
  refine .array (by simp [lima]) fun fields member => ?_
  obtain rfl : fields = [("id", .int 10), ("name", .string "Lima")] := by
    simpa [lima] using member
  exact .object fun key entries value _ relation _ => absurd relation (city_leaves key entries)

open Cities in
/-- A null among the cities comes back as a city without an identifier and without a name. -/
theorem Node.served_gap_not_same :
    ¬∀ (custom : Option String) (node : Node) (held : Json), node.Stored held →
      Json.Same (node.merge custom none (some held)) held := by
  intro claimed
  have stored : city.Stored (.array [.null, lima]) := cities_stored (by simp)
  have served : city.merge none none (some (.array [.null, lima])) =
      .array [.object [("id", .null), ("name", .null)], lima] := by decide +kernel
  have same := claimed none city _ stored
  rw [served, Json.same_array] at same
  cases same with
  | cons first rest => cases first

end GraphCache
