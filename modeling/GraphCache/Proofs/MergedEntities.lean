import GraphCache.Proofs.LeadingAnswers
import GraphCache.Proofs.PairedItems
import GraphCache.Proofs.ServedRelations

/-! Which objects merging brings together. In a list they have the same identifier, so whatever an
item of merged data is made of belongs to one entity. Objects that stand alone are brought
together because they stand at the same place, whatever their identifiers are: where the server
leads a relation to another entity than before and leaves out a field, the field of the old
entity fills it. So a place that keys alone lead to can mix two entities as soon as two fields
are requested there. -/
namespace GraphCache

/-! ## Sides that are brought together -/

/-- The key of a step to a field. -/
def Step.key? : Step → Option String
  | .field key => some key
  | .item _ => none

theorem keys_field (key : String) (rest : List Step) :
    (Step.field key :: rest).filterMap Step.key? = key :: rest.filterMap Step.key? := rfl

theorem keys_of_fields (keys : List String) : (keys.map Step.field).filterMap Step.key? = keys := by
  rw [List.filterMap_map]
  exact List.filterMap_some

namespace Node

variable {custom : Option String} {node : Node} {fresh cached : Option Json}

/-- Two sides of which the one that decides is no list are merged as objects. -/
theorem merge_alone {value : Json} (decides : fresh.or cached = some value)
    (given : value ≠ .null) (single : ∀ items, value ≠ .array items) :
    node.merge custom fresh cached = node.mergeObjects custom fresh cached := by
  rcases Option.or_eq_some_iff.mp decides with rfl | ⟨rfl, rfl⟩ <;>
    cases value <;> first | rfl | exact absurd rfl given | exact absurd rfl (single _)

/-- Two sides of which the one that decides is null are merged to null. -/
theorem merge_null (decides : fresh.or cached = some .null) :
    node.merge custom fresh cached = .null := by
  rcases Option.or_eq_some_iff.mp decides with rfl | ⟨rfl, rfl⟩ <;> rfl

end Node

namespace Json

/-- Values that are to be merged bring two sides together: themselves, where the fresh value, or
else the cached one, is no list; or an object of the fresh list and the cached item with its
identifier; or, without a fresh value, each item of the cached list and nothing. The steps lead
to where the two are merged. -/
inductive Meet (custom : Option String) :
    Option Json → Option Json → List Step → Option Json → Option Json → Prop where
  | alone {fresh cached : Option Json} {value : Json} (decides : fresh.or cached = some value)
      (given : value ≠ .null) (single : ∀ items, value ≠ .array items) :
      Meet custom fresh cached [] fresh cached
  | item {items : List Json} {index : Nat} {fields : OrderedMap String Json}
      (found : items[index]? = some (.object fields)) (cached : Option Json) :
      Meet custom (some (.array items)) cached [.item index] (some (.object fields))
        (partner? custom (listItems cached) (.object fields))
  | served {items : List Json} {index : Nat} {item : Json} (found : items[index]? = some item) :
      Meet custom none (some (.array items)) [.item index] none (some item)

theorem null_at?_ne_object (place : List Step) (fields : OrderedMap String Json) :
    null.at? place ≠ some (.object fields) := by
  cases place with
  | nil => exact nofun
  | cons step rest => cases step <;> exact nofun

/-- Two objects are brought together as they are. -/
theorem Meet.objects (custom : Option String) (one two : OrderedMap String Json) :
    Meet custom (some (.object one)) (some (.object two)) [] (some (.object one))
      (some (.object two)) := by
  have decides : (some (object one)).or (some (object two)) = some (.object one) := rfl
  exact .alone decides nofun nofun

/-- What stands at a place of a value is reached in it. -/
theorem reaches_of_at? {value inner : Json} {place : List Step}
    (stands : value.at? place = some inner) : ∃ keys, value.Reaches keys inner := by
  induction place generalizing value with
  | nil =>
    cases stands
    exact ⟨[], .here _⟩
  | cons step rest ih =>
    cases value with
    | object fields =>
      cases step with
      | field key =>
        obtain ⟨own, found, below⟩ := Option.bind_eq_some_iff.mp stands
        obtain ⟨keys, reaches⟩ := ih below
        exact ⟨key :: keys, .field found reaches⟩
      | item index => cases stands
    | array items =>
      cases step with
      | field key => cases stands
      | item index =>
        obtain ⟨own, found, below⟩ := Option.bind_eq_some_iff.mp stands
        obtain ⟨keys, reaches⟩ := ih below
        exact ⟨keys, .item (List.mem_of_getElem? found) reaches⟩
    | _ => cases step <;> cases stands

/-- Below a key there is something only in an object. -/
theorem object_of_at?_field {side : Option Json} {key : String} {rest : List Step} {value : Json}
    (stands : (side.bind fun own => own.at? (.field key :: rest)) = some value) :
    ∃ fields, side = some (.object fields) ∧
      ((OrderedMap.get? fields key).bind fun inner => inner.at? rest) = some value := by
  obtain ⟨own, rfl, below⟩ := Option.bind_eq_some_iff.mp stands
  cases own with
  | object fields => exact ⟨fields, rfl, below⟩
  | _ => cases below

theorem at?_leadingTo (fields : OrderedMap String Json) (keys : List String) :
    (object (leadingTo fields keys)).at? (keys.map .field) = some (.object fields) := by
  induction keys with
  | nil => rfl
  | cons key rest ih => simpa [leadingTo, at?, OrderedMap.get?] using ih

section Sides
variable {custom : Option String} {fresh cached one two : Option Json} {steps : List Step}
  (meet : Meet custom fresh cached steps one two)
include meet

/-- Where two sides are brought together their merge stands. -/
theorem Meet.at?_merge (node : Node) (rest : List Step) :
    (node.merge custom fresh cached).at? (steps ++ rest) =
      (node.mergeObjects custom one two).at? rest := by
  cases meet with
  | alone decides given single => rw [List.nil_append, Node.merge_alone decides given single]
  | item found cached =>
    rw [Node.merge_lists, List.singleton_append, at?, List.getElem?_map, found]
    rfl
  | served found =>
    rw [Node.merge_served_array, List.singleton_append, at?, List.getElem?_map, found]
    rfl

/-- The fresh side stands at the same place of the fresh value. -/
theorem Meet.at?_fresh (rest : List Step) :
    (fresh.bind fun own => own.at? (steps ++ rest)) = one.bind fun own => own.at? rest := by
  cases meet with
  | alone decides given single => rfl
  | item found cached => rw [Option.bind_some, List.singleton_append, at?, found]
  | served found => rfl

/-- The cached side is part of the cached value. -/
theorem Meet.reaches_cached {held : Json} (stands : two = some held) :
    ∃ own, cached = some own ∧ own.Reaches [] held := by
  cases meet with
  | alone decides given single => exact ⟨held, stands, .here held⟩
  | item found cached =>
    obtain ⟨member, -⟩ := shares_of_partner? stands
    obtain ⟨items, rfl, inside⟩ := Node.mem_of_listItems member
    exact ⟨_, rfl, .item inside (.here held)⟩
  | served found =>
    cases stands
    exact ⟨_, rfl, .item (List.mem_of_getElem? found) (.here held)⟩

/-- What one of the sides gives below a key is given by the values themselves. -/
theorem Meet.given_above {key : String} {rest : List Step} {value : Json}
    (given : ((OrderedMap.get? (objectFields one) key).bind fun own => own.at? rest) = some value ∨
      ∃ own keys, OrderedMap.get? (objectFields two) key = some own ∧ own.Reaches keys value) :
    (fresh.bind fun own => own.at? (steps ++ .field key :: rest)) = some value ∨
      ∃ own keys, cached = some own ∧ own.Reaches keys value := by
  obtain carried | ⟨own, keys, found, below⟩ := given
  · refine .inl ?_
    rw [meet.at?_fresh, ← at?_objectFields, at?_field, carried]
  · obtain ⟨held, stands, reaches⟩ :=
      reaches_objectFields (List.cons_ne_nil _ _) (.field found below)
    obtain ⟨outer, given, around⟩ := meet.reaches_cached stands
    exact .inr ⟨outer, _, given, around.trans reaches⟩

/-- Two sides are brought together at an item only if they share an identifier. -/
theorem Meet.shares {index : Nat} (last : steps.getLast? = some (.item index)) {own held : Json}
    (given : one = some own) (stands : two = some held) : own.SharesIdentifier custom held := by
  cases meet with
  | alone decides given single => cases last
  | item found cached =>
    cases given
    exact (shares_of_partner? stands).2
  | served found => cases given

/-- On the way no key is passed. -/
theorem Meet.keys_eq_nil : steps.filterMap Step.key? = [] := by
  cases meet <;> rfl

/-- Where keys alone lead no list is opened. -/
theorem Meet.of_fields {rest : List Step} {keys : List String}
    (same : steps ++ rest = keys.map .field) : steps = [] ∧ one = fresh ∧ two = cached := by
  cases meet with
  | alone decides given single => exact ⟨rfl, rfl, rfl⟩
  | item found cached => cases keys <;> cases same
  | served found => cases keys <;> cases same

end Sides

/-- An object in a list that was made item by item stands in an item. -/
theorem item_of_at? {items : List Json} {change : Json → Json} {place : List Step}
    {fields : OrderedMap String Json}
    (shown : (array (items.map change)).at? place = some (.object fields)) :
    ∃ index rest item, place = .item index :: rest ∧ items[index]? = some item ∧
      (change item).at? rest = some (.object fields) := by
  rcases place with _ | ⟨_ | index, rest⟩
  · cases shown
  · cases shown
  · obtain ⟨_, made, below⟩ := Option.bind_eq_some_iff.mp shown
    rw [List.getElem?_map] at made
    obtain ⟨item, found, rfl⟩ := Option.map_eq_some_iff.mp made
    exact ⟨index, rest, item, rfl, found, below⟩

/-- In a merged value every object stands where two sides are brought together, or below, unless
it is in an item that is copied from the fresh list. -/
theorem meet_of_at? {custom : Option String} {node : Node} {fresh cached : Option Json}
    {place : List Step} {fields : OrderedMap String Json}
    (shown : (node.merge custom fresh cached).at? place = some (.object fields)) :
    (∃ steps rest one two, place = steps ++ rest ∧ Meet custom fresh cached steps one two) ∨
      (fresh.bind fun own => own.at? place) = some (.object fields) := by
  cases decides : fresh.or cached with
  | none =>
    obtain ⟨rfl, rfl⟩ := Option.or_eq_none_iff.mp decides
    exact absurd shown (null_at?_ne_object place fields)
  | some value =>
    cases value with
    | null =>
      rw [Node.merge_null decides] at shown
      exact absurd shown (null_at?_ne_object place fields)
    | array items =>
      rcases Option.or_eq_some_iff.mp decides with rfl | ⟨rfl, rfl⟩
      · rw [Node.merge_lists] at shown
        obtain ⟨index, rest, item, rfl, found, below⟩ := item_of_at? shown
        cases item with
        | object own => exact .inl ⟨[.item index], rest, _, _, rfl, .item found cached⟩
        | _ =>
          -- What is no object in the fresh list is merged with nothing.
          refine .inr ?_
          rw [Option.bind_some, at?, found]
          exact below
      · rw [Node.merge_served_array] at shown
        obtain ⟨index, rest, item, rfl, found, -⟩ := item_of_at? shown
        exact .inl ⟨[.item index], rest, none, some item, rfl, .served found⟩
    | _ => exact .inl ⟨[], place, fresh, cached, rfl, .alone decides (by simp) (by simp)⟩

end Json

namespace Node

/-- The sides that a node brings together at a place of the merged value, and the node under which
they are merged there. -/
inductive Joins (custom : Option String) :
    Node → Option Json → Option Json → List Step → Node → Option Json → Option Json → Prop where
  | here {node : Node} {fresh cached one two : Option Json} {steps : List Step}
      (meet : Json.Meet custom fresh cached steps one two) :
      Joins custom node fresh cached steps node one two
  | inside {node inner : Node} {fresh cached middle other one two : Option Json} {key : String}
      {entries : List (String × Entry)} {steps place : List Step}
      (meet : Json.Meet custom fresh cached steps middle other) (plain : isReserved key = false)
      (relation : OrderedMap.get? node key = some (.relation entries))
      (joins : Joins custom entries (OrderedMap.get? (objectFields middle) key)
        (OrderedMap.get? (objectFields other) key) place inner one two) :
      Joins custom node fresh cached (steps ++ .field key :: place) inner one two

/-- Under a key of merged objects stands what their values under it are merged to, if the key is
requested. -/
theorem at?_mergeObjects_iff {custom : Option String} {node : Node} {one two : Option Json}
    {key : String} {rest : List Step} {value : Json} :
    (node.mergeObjects custom one two).at? (.field key :: rest) = some value ↔
      isReserved key = false ∧ ∃ entry, OrderedMap.get? node key = some entry ∧
        (entry.merge custom (OrderedMap.get? (objectFields one) key)
          (OrderedMap.get? (objectFields two) key)).at? rest = some value := by
  rw [mergeObjects, Json.at?_field, Entry.get?_mergeFields]
  cases isReserved key <;> cases OrderedMap.get? node key <;> simp

section Places
variable {custom : Option String} {node inner : Node} {fresh cached one two : Option Json}
  {place : List Step}

/-- At every place where a node brings two sides together their merge stands. -/
theorem Joins.at?_merge (joins : node.Joins custom fresh cached place inner one two) :
    (node.merge custom fresh cached).at? place = some (inner.mergeObjects custom one two) := by
  induction joins with
  | here meet => simpa [Json.at?] using meet.at?_merge _ []
  | inside meet plain relation joins ih =>
    rw [meet.at?_merge, at?_mergeObjects_iff]
    refine ⟨plain, _, relation, ?_⟩
    rw [Entry.merge_relation, ih]

/-- The fresh side stands there in the fresh value. -/
theorem Joins.at?_fresh (joins : node.Joins custom fresh cached place inner one two) :
    (fresh.bind fun own => own.at? place) = one := by
  induction joins with
  | here meet => simpa [Json.at?] using meet.at?_fresh []
  | inside meet plain relation joins ih =>
    rw [meet.at?_fresh, ← Json.at?_objectFields, Json.at?_field, ih]

/-- The cached side is reached in the cached value. -/
theorem Joins.reaches_cached (joins : node.Joins custom fresh cached place inner one two)
    {held : Json} (stands : two = some held) :
    ∃ own keys, cached = some own ∧ own.Reaches keys held := by
  induction joins with
  | here meet =>
    obtain ⟨own, given, reaches⟩ := meet.reaches_cached stands
    exact ⟨own, [], given, reaches⟩
  | inside meet plain relation joins ih =>
    obtain ⟨own, keys, found, below⟩ := ih stands
    obtain ⟨whole, rfl, reaches⟩ := Json.reaches_objectFields (List.cons_ne_nil _ _)
      (.field found below)
    obtain ⟨outer, given, around⟩ := meet.reaches_cached rfl
    exact ⟨outer, _, given, around.trans reaches⟩

/-- Two objects that are brought together at an item of a list share an identifier. -/
theorem Joins.shares (joins : node.Joins custom fresh cached place inner one two) {index : Nat}
    (last : place.getLast? = some (.item index)) {own held : Json} (given : one = some own)
    (stands : two = some held) : own.SharesIdentifier custom held := by
  induction joins with
  | here meet => exact meet.shares last given stands
  | @inside _ _ _ _ _ _ _ _ key _ steps place meet plain relation joins ih =>
    cases place with
    | nil => simp at last
    | cons step rest => exact ih (by simpa using last) given stands

/-- The keys on the way to a place lead to the node that objects are merged under there. -/
theorem Joins.leads (joins : node.Joins custom fresh cached place inner one two) :
    node.at? (place.filterMap Step.key?) = some inner ∧
      ∀ key ∈ place.filterMap Step.key?, isReserved key = false := by
  induction joins with
  | here meet =>
    rw [meet.keys_eq_nil]
    exact ⟨rfl, by simp⟩
  | inside meet plain relation joins ih =>
    rw [List.filterMap_append, meet.keys_eq_nil, List.nil_append, keys_field]
    refine ⟨?_, List.forall_mem_cons.mpr ⟨plain, ih.2⟩⟩
    rw [Node.at?, relation]
    exact ih.1

/-- At a place that keys alone lead to, the cached side stands there in the cached value. -/
theorem Joins.at?_cached (joins : node.Joins custom fresh cached place inner one two)
    {keys : List String} (same : place = keys.map .field) :
    (cached.bind fun own => own.at? place) = two := by
  induction joins generalizing keys with
  | here meet =>
    obtain ⟨rfl, rfl, rfl⟩ := meet.of_fields ((List.append_nil _).trans same)
    simp [Json.at?]
  | inside meet plain relation joins ih =>
    obtain ⟨rfl, rfl, rfl⟩ := meet.of_fields same
    cases keys with
    | nil => cases same
    | cons key rest =>
      obtain ⟨-, tail⟩ := List.cons_eq_cons.mp same
      rw [List.nil_append, ← Json.at?_objectFields, Json.at?_field, ih tail]

/-- Objects that keys alone lead to are brought together by their place: if they stand there on both
sides, whatever they are. -/
theorem joins_objects_iff {keys : List String} {own held : OrderedMap String Json} :
    node.Joins custom fresh cached (keys.map .field) inner (some (.object own))
        (some (.object held)) ↔
      (node.at? keys = some inner ∧ ∀ key ∈ keys, isReserved key = false) ∧
        (fresh.bind fun value => value.at? (keys.map .field)) = some (.object own) ∧
        (cached.bind fun value => value.at? (keys.map .field)) = some (.object held) := by
  constructor
  · intro joins
    refine ⟨?_, joins.at?_fresh, joins.at?_cached rfl⟩
    have leads := joins.leads
    rwa [keys_of_fields] at leads
  · rintro ⟨⟨found, plain⟩, left, right⟩
    induction keys generalizing node fresh cached with
    | nil =>
      cases found
      obtain ⟨_, rfl, same⟩ := Option.bind_eq_some_iff.mp left
      cases same
      obtain ⟨_, rfl, same⟩ := Option.bind_eq_some_iff.mp right
      cases same
      exact .here (.objects custom own held)
    | cons key rest ih =>
      obtain ⟨unreserved, later⟩ := List.forall_mem_cons.mp plain
      obtain ⟨one, rfl, below⟩ := Json.object_of_at?_field left
      obtain ⟨two, rfl, beside⟩ := Json.object_of_at?_field right
      rw [Node.at?] at found
      split at found
      · rename_i entries relation
        exact .inside (.objects custom one two) unreserved relation (ih found later below beside)
      · cases found

end Places

/-- What stands at a place of a requested value was given on one side, below the value that was
merged there. -/
private theorem given_of_requested {fresh cached : Option Json} {rest : List Step}
    {fields : OrderedMap String Json}
    (shown : ((fresh <|> cached).getD .null).at? rest = some (.object fields)) :
    (fresh.bind fun own => own.at? rest) = some (.object fields) ∨
      ∃ own keys, cached = some own ∧ own.Reaches keys (.object fields) := by
  cases fresh with
  | some own => exact .inl shown
  | none =>
    cases cached with
    | some own =>
      obtain ⟨keys, reaches⟩ := Json.reaches_of_at? shown
      exact .inr ⟨own, keys, rfl, reaches⟩
    | none => exact absurd shown (Json.null_at?_ne_object rest fields)

/-- Every object of a merged value is what a node brings together there, or it was given as it
is on one of the two sides. -/
theorem joins_of_at? {custom : Option String} {node : Node} {fresh cached : Option Json}
    {place : List Step} {fields : OrderedMap String Json}
    (shown : (node.merge custom fresh cached).at? place = some (.object fields)) :
    (∃ inner one two, node.Joins custom fresh cached place inner one two ∧
        inner.mergeObjects custom one two = .object fields) ∨
      (fresh.bind fun own => own.at? place) = some (.object fields) ∨
      ∃ own keys, cached = some own ∧ own.Reaches keys (.object fields) := by
  -- By recursion on the node: a relation leads on to the values that stand under its key.
  obtain ⟨steps, rest, one, two, rfl, meet⟩ | copied := Json.meet_of_at? shown
  · rw [meet.at?_merge] at shown
    rcases rest with _ | ⟨key | index, rest⟩
    · rw [List.append_nil]
      exact .inl ⟨node, one, two, .here meet, Option.some.inj shown⟩
    · obtain ⟨plain, entry, found, below⟩ := at?_mergeObjects_iff.mp shown
      cases entry with
      | requested => exact .inr (meet.given_above (given_of_requested below))
      | literal mark => exact .inr (meet.given_above (given_of_requested below))
      | relation entries =>
        rw [Entry.merge_relation] at below
        obtain ⟨inner, left, right, joins, merged⟩ | given := joins_of_at? below
        · exact .inl ⟨inner, left, right, .inside meet plain found joins, merged⟩
        · exact .inr (meet.given_above given)
    · cases shown
  · exact .inr (.inl copied)
termination_by sizeOf node
decreasing_by
  have inside := List.sizeOf_lt_of_mem (OrderedMap.mem_of_get?_eq_some found)
  simp at inside
  omega

/-! ## Mixed entities -/

/-- Two objects both give fields that a node requests: some the fresh one carries, and some it
lacks and the cached one carries. -/
def Combines (node : Node) (fresh cached : OrderedMap String Json) : Prop :=
  (∃ key ∈ node.names, key ∈ OrderedMap.keys fresh) ∧
    ∃ key ∈ node.names, key ∉ OrderedMap.keys fresh ∧ key ∈ OrderedMap.keys cached

end Node

/-- An object with an identifier, and the same number under one more name. -/
def numbered (number : Int) (name : String) : OrderedMap String Json :=
  OrderedMap.insert [("id", .int number)] name (.int number)

theorem mem_keys_numbered (number : Int) (name key : String) :
    key ∈ OrderedMap.keys (numbered number name) ↔ key = "id" ∨ key = name := by
  rw [numbered, OrderedMap.mem_keys_insert]
  simp [OrderedMap.keys, or_comm]

theorem entityIdOf_numbered (number : Int) (name : String) (custom : Option String) :
    entityIdOf (numbered number name) custom = some (Json.int number).display := by
  refine entityIdOf_uniform (by simp) ?_ ?_ custom
  · intro entry member
    rcases OrderedMap.mem_of_mem_insert member with old | rfl
    · rw [List.mem_singleton.mp old]
    · rfl
  · rw [mem_keys_numbered]
    exact .inl rfl

namespace Node

/-- Of any node that requests two fields, objects with different identifiers can be combined. -/
theorem combines_numbered {node : Node} {one two : String} (first : one ∈ node.names)
    (second : two ∈ node.names) (apart : one ≠ two) :
    ∃ left right, node.Combines (numbered 1 left) (numbered 2 right) := by
  -- The name that only the cached object has is not that of the identifier.
  have combined {left right : String} (inside : left ∈ node.names) (beside : right ∈ node.names)
      (other : right ≠ left) (named : right ≠ "id") :
      node.Combines (numbered 1 left) (numbered 2 right) := by
    refine ⟨⟨left, inside, ?_⟩, right, beside, ?_, ?_⟩
    · exact (mem_keys_numbered 1 left left).mpr (.inr rfl)
    · rw [mem_keys_numbered]
      exact not_or.mpr ⟨named, other⟩
    · exact (mem_keys_numbered 2 right right).mpr (.inr rfl)
  by_cases named : one = "id"
  · exact ⟨one, two, combined first second apart.symm fun same => apart (named.trans same.symm)⟩
  · exact ⟨two, one, combined second first apart named⟩

/-- Objects that are combined take two requested fields. -/
theorem Combines.names {node : Node} {fresh cached : OrderedMap String Json}
    (combines : node.Combines fresh cached) : ∃ one ∈ node.names, ∃ two ∈ node.names, one ≠ two := by
  obtain ⟨⟨one, first, carried⟩, two, second, lacking, -⟩ := combines
  refine ⟨one, first, two, second, ?_⟩
  rintro rfl
  exact lacking carried

end Node

section Plain
variable {τ : Type}

/-- An object stands in a record that was found for a root, at some depth. -/
def HeldUnder (cached : OrderedMap String (List (Record τ))) (root : String)
    (fields : OrderedMap String Json) : Prop :=
  ∃ record ∈ (OrderedMap.get? cached root).getD [],
    ∃ keys, (Json.object record.data).Reaches keys (.object fields)

/-- The sides that merging brings together at a place below a root. -/
def Prototype.Joins (custom : Option String) (prototype : Prototype)
    (fresh : OrderedMap String Json) (cached : OrderedMap String (List (Record τ))) (root : String)
    (place : List Step) (inner : Node) (one two : Option Json) : Prop :=
  ∃ node, OrderedMap.get? prototype root = some node ∧
    node.Joins custom (OrderedMap.get? fresh root)
      (cachedRoot node ((OrderedMap.get? cached root).getD [])) place inner one two

/-- An object of merged data is combined from two objects with different identifiers. -/
def Prototype.Mixes (custom : Option String) (prototype : Prototype)
    (fresh : OrderedMap String Json) (cached : OrderedMap String (List (Record τ))) (root : String)
    (place : List Step) : Prop :=
  ∃ inner one two first second,
    prototype.Joins custom fresh cached root place inner (some (.object one))
        (some (.object two)) ∧
      inner.Combines one two ∧ entityIdOf one custom = some first ∧
      entityIdOf two custom = some second ∧ first ≠ second

variable {custom : Option String} {prototype : Prototype} {fresh : OrderedMap String Json}
  {cached : OrderedMap String (List (Record τ))} {root : String} {place : List Step}

/-- What is brought together below a root is merged there. The fresh side stands at the place, and
the cached one, if it is an object, is reached in a record of the root. -/
theorem Prototype.Joins.merged (unique : (OrderedMap.keys prototype).Nodup) {inner : Node}
    {one two : Option Json}
    (joins : prototype.Joins custom fresh cached root place inner one two) :
    (Json.object (prototype.merge custom fresh cached)).at? (.field root :: place) =
        some (inner.mergeObjects custom one two) ∧
      (Json.object fresh).at? (.field root :: place) = one ∧
      ∀ held, two = some (.object held) → HeldUnder cached root held := by
  obtain ⟨node, asked, joins⟩ := joins
  refine ⟨?_, ?_, ?_⟩
  · rw [Json.at?_field, Prototype.get?_merge custom unique, asked, Option.map_some, Option.some_or,
      Option.bind_some, joins.at?_merge]
  · rw [Json.at?_field, joins.at?_fresh]
  · intro held same
    obtain ⟨own, keys, found, reaches⟩ := joins.reaches_cached same
    obtain ⟨record, member, below⟩ := reaches_cachedRoot (.inr rfl) found reaches
    exact ⟨record, member, keys, below⟩

/-- Every object of merged data is what is brought together there, or it was given as it is, by
the fresh data at the same place or by a record of the root. -/
theorem Prototype.joins_of_at? (unique : (OrderedMap.keys prototype).Nodup)
    {fields : OrderedMap String Json}
    (shown : (Json.object (prototype.merge custom fresh cached)).at? (.field root :: place) =
      some (.object fields)) :
    (∃ inner one two, prototype.Joins custom fresh cached root place inner one two ∧
        inner.mergeObjects custom one two = .object fields) ∨
      (Json.object fresh).at? (.field root :: place) = some (.object fields) ∨
      HeldUnder cached root fields := by
  rw [Json.at?_field, Prototype.get?_merge custom unique] at shown
  cases asked : OrderedMap.get? prototype root with
  | none =>
    rw [asked, Option.map_none, Option.none_or] at shown
    exact .inr (.inl shown)
  | some node =>
    rw [asked, Option.map_some, Option.some_or, Option.bind_some] at shown
    obtain ⟨inner, one, two, joins, merged⟩ | carried | ⟨own, keys, found, reaches⟩ :=
      Node.joins_of_at? shown
    · exact .inl ⟨inner, one, two, ⟨node, asked, joins⟩, merged⟩
    · exact .inr (.inl carried)
    · obtain ⟨record, member, below⟩ := reaches_cachedRoot (.inr rfl) found reaches
      exact .inr (.inr ⟨record, member, keys, below⟩)

/-- Two entities are mixed only where the keys on the way lead to a node that requests two fields. -/
theorem Prototype.Mixes.requested (mixes : prototype.Mixes custom fresh cached root place) :
    ∃ node inner, OrderedMap.get? prototype root = some node ∧
      node.at? (place.filterMap Step.key?) = some inner ∧
      ∃ one ∈ inner.names, ∃ two ∈ inner.names, one ≠ two := by
  obtain ⟨inner, _, _, _, _, ⟨node, asked, joins⟩, combines, -⟩ := mixes
  exact ⟨node, inner, asked, joins.leads.1, combines.names⟩

/-- Keys alone lead to a cached object only below a root with an identifier. -/
private theorem identified_of_at? {node : Node} {records : List (Record τ)} {keys : List String}
    {fields : OrderedMap String Json}
    (stands : ((cachedRoot node records).bind fun own => own.at? (keys.map .field)) =
      some (.object fields)) : node.identifier.isNull = false := by
  cases records with
  | nil => cases stands
  | cons first rest =>
    cases anonymous : node.identifier.isNull with
    | false => rfl
    | true =>
      rw [cachedRoot, if_pos anonymous] at stands
      cases keys <;> cases stands

/-- Where keys alone lead, data that mixes two entities is possible if two fields are requested
there and the root has an identifier, and not otherwise. -/
theorem Prototype.mixes_fields_iff (custom : Option String) (prototype : Prototype) (root : String)
    (keys : List String) :
    (∃ fresh, ∃ cached : OrderedMap String (List (Record τ)),
        prototype.Mixes custom fresh cached root (keys.map .field)) ↔
      ∃ node inner, OrderedMap.get? prototype root = some node ∧
        node.identifier.isNull = false ∧
        (node.at? keys = some inner ∧ ∀ key ∈ keys, isReserved key = false) ∧
        ∃ one ∈ inner.names, ∃ two ∈ inner.names, one ≠ two := by
  constructor
  · rintro ⟨fresh, cached, inner, own, held, _, _, ⟨node, asked, joins⟩, combines, -, -, -⟩
    obtain ⟨leads, -, stands⟩ := Node.joins_objects_iff.mp joins
    exact ⟨node, inner, asked, identified_of_at? stands, leads, combines.names⟩
  · rintro ⟨node, inner, asked, identified, leads, one, first, two, second, apart⟩
    obtain ⟨left, right, combines⟩ := Node.combines_numbered first second apart
    refine ⟨[(root, .object (leadingTo (numbered 1 left) keys))],
      [(root, [⟨entityKey root "2", root, "2", leadingTo (numbered 2 right) keys, false, none⟩])],
      inner, _, _, _, _, ⟨node, asked, Node.joins_objects_iff.mpr ⟨leads, ?_, ?_⟩⟩, combines,
      entityIdOf_numbered 1 left custom, entityIdOf_numbered 2 right custom, by decide⟩
    · simpa [OrderedMap.get?] using Json.at?_leadingTo (numbered 1 left) keys
    · simpa [OrderedMap.get?, cachedRoot, identified] using
        Json.at?_leadingTo (numbered 2 right) keys

/-- Every object of merged data is brought together from two sides, or it was given as it is. The
two sides are merged at the place where the fresh one stands. At an item of a list they have the
same identifier if both are objects. Two entities are mixed only where two fields are requested;
where keys alone lead this is possible as soon as they are, below a root with an identifier. -/
theorem Prototype.merge_mixes_iff (custom : Option String) {prototype : Prototype}
    (unique : (OrderedMap.keys prototype).Nodup) :
    (∀ (fresh : OrderedMap String Json) (cached : OrderedMap String (List (Record τ)))
        (root : String) (place : List Step) (fields : OrderedMap String Json),
      (Json.object (prototype.merge custom fresh cached)).at? (.field root :: place) =
          some (.object fields) →
        (∃ inner one two, prototype.Joins custom fresh cached root place inner one two ∧
            inner.mergeObjects custom one two = .object fields) ∨
          (Json.object fresh).at? (.field root :: place) = some (.object fields) ∨
          HeldUnder cached root fields) ∧
      (∀ (fresh : OrderedMap String Json) (cached : OrderedMap String (List (Record τ)))
          (root : String) (place : List Step) (inner : Node) (one two : Option Json),
        prototype.Joins custom fresh cached root place inner one two →
          (Json.object (prototype.merge custom fresh cached)).at? (.field root :: place) =
              some (inner.mergeObjects custom one two) ∧
            (Json.object fresh).at? (.field root :: place) = one ∧
            ∀ held, two = some (.object held) → HeldUnder cached root held) ∧
      (∀ (fresh : OrderedMap String Json) (cached : OrderedMap String (List (Record τ)))
          (root : String) (place : List Step) (inner : Node) (own held : OrderedMap String Json)
          (index : Nat),
        prototype.Joins custom fresh cached root place inner (some (.object own))
            (some (.object held)) →
          place.getLast? = some (.item index) →
          ∃ identifier, identifier ≠ "" ∧ entityIdOf own custom = some identifier ∧
            entityIdOf held custom = some identifier) ∧
      (∀ (fresh : OrderedMap String Json) (cached : OrderedMap String (List (Record τ)))
          (root : String) (place : List Step),
        prototype.Mixes custom fresh cached root place →
          ∃ node inner, OrderedMap.get? prototype root = some node ∧
            node.at? (place.filterMap Step.key?) = some inner ∧
            ∃ one ∈ inner.names, ∃ two ∈ inner.names, one ≠ two) ∧
      ∀ (root : String) (keys : List String),
        (∃ fresh, ∃ cached : OrderedMap String (List (Record τ)),
            prototype.Mixes custom fresh cached root (keys.map .field)) ↔
          ∃ node inner, OrderedMap.get? prototype root = some node ∧
            node.identifier.isNull = false ∧
            (node.at? keys = some inner ∧ ∀ key ∈ keys, isReserved key = false) ∧
            ∃ one ∈ inner.names, ∃ two ∈ inner.names, one ≠ two := by
  refine ⟨?_, ?_, ?_, ?_, prototype.mixes_fields_iff custom⟩
  · intro fresh cached root place fields shown
    exact joins_of_at? unique shown
  · intro fresh cached root place inner one two joins
    exact joins.merged unique
  · intro fresh cached root place inner own held index joins last
    obtain ⟨node, -, below⟩ := joins
    exact Json.sharesIdentifier_object.mp (below.shares last rfl rfl)
  · intro fresh cached root place mixes
    exact mixes.requested

end Plain

namespace Cities

def nation : Node :=
  [("id", .requested), ("__id", .literal (.string "1")), ("capital", .relation city)]

def nations : Prototype := [("country", nation)]

/-- A record from the time when the capital was Lima. -/
def formerRecord : Record Int :=
  ⟨"country--1", "country", "1", [("id", .int 1), ("capital", lima)], false, none⟩

/-- Fresh data with another capital, without its name. -/
def moved : OrderedMap String Json :=
  [("country", .object [("id", .int 1), ("capital", .object [("id", .int 11)])])]

end Cities

open Cities in
/-- A capital can be mixed, since its identifier and its name are requested. -/
theorem Prototype.merge_mixes_nations :
    (OrderedMap.keys nations).Nodup ∧
      ∃ fresh, ∃ cached : OrderedMap String (List (Record Int)),
        nations.Mixes none fresh cached "country" [.field "capital"] := by
  have unique : (OrderedMap.keys nations).Nodup := by decide
  obtain ⟨-, -, -, -, exactly⟩ := Prototype.merge_mixes_iff (τ := Int) none unique
  refine ⟨unique, (exactly "country" ["capital"]).mpr ⟨nation, city, rfl, rfl, ⟨rfl, ?_⟩, ?_⟩⟩
  · decide
  · exact ⟨"id", by decide, "name", by decide, by decide⟩

open Cities in
/-- The new capital has the name of the former one. -/
theorem Prototype.merge_mixes_capitals :
    nations.merge none moved [("country", [formerRecord])] =
        [("country", .object [("id", .int 1),
          ("capital", .object [("id", .int 11), ("name", .string "Lima")])])] ∧
      ¬∀ (custom : Option String) (prototype : Prototype) (fresh : OrderedMap String Json)
          (cached : OrderedMap String (List (Record Int))) (root : String) (place : List Step),
        ¬prototype.Mixes custom fresh cached root place := by
  refine ⟨by decide +kernel, fun claimed => ?_⟩
  have joins : nations.Joins none moved [("country", [formerRecord])] "country" [.field "capital"]
      city (some (.object [("id", .int 11)])) (some lima) := by
    refine ⟨nation, rfl, ?_⟩
    exact .inside (.objects none _ _) (by decide) rfl (.here (.objects none _ _))
  have combines : city.Combines [("id", .int 11)] [("id", .int 10), ("name", .string "Lima")] :=
    ⟨⟨"id", by decide, by decide⟩, "name", by decide, by decide, by decide⟩
  apply claimed none nations moved [("country", [formerRecord])] "country" [.field "capital"]
  exact ⟨city, _, _, "11", "10", joins, combines, by decide +kernel, by decide +kernel, by decide⟩

end GraphCache
