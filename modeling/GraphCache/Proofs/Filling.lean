import GraphCache.Exchange.Basic
import GraphCache.Proofs.Completion
import GraphCache.Proofs.Occurrences

/-! Where the values of a completed answer come from. A leaf that the fresh answer lacks is
null, or it stands in the cached value under the same response keys: items of a list may
change their places, but no value ever moves to another key. -/
namespace GraphCache

/-! ## Places in a value -/

/-- One step into a value. -/
inductive Step where
  | field (key : String)
  | item (index : Nat)
deriving DecidableEq, Repr

namespace Json

/-- What stands at a place, if there is anything. -/
def at? : Json → List Step → Option Json
  | value, [] => some value
  | .object fields, .field key :: rest => (OrderedMap.get? fields key).bind fun inner => inner.at? rest
  | .array items, .item index :: rest => items[index]?.bind fun item => item.at? rest
  | _, _ :: _ => none

/-- A value is reached under response keys, whatever items are passed on the way. -/
inductive Reaches : Json → List String → Json → Prop where
  | here (value : Json) : Reaches value [] value
  | field {fields : OrderedMap String Json} {key : String} {inner value : Json} {keys : List String}
      (found : OrderedMap.get? fields key = some inner) (below : Reaches inner keys value) :
      Reaches (.object fields) (key :: keys) value
  | item {items : List Json} {item value : Json} {keys : List String} (member : item ∈ items)
      (below : Reaches item keys value) : Reaches (.array items) keys value

theorem reaches_object {fields : OrderedMap String Json} {key : String} {keys : List String}
    {value : Json} :
    Reaches (.object fields) (key :: keys) value ↔
      ∃ inner, OrderedMap.get? fields key = some inner ∧ Reaches inner keys value := by
  constructor
  · intro reaches
    cases reaches with
    | field found below => exact ⟨_, found, below⟩
  · rintro ⟨inner, found, below⟩
    exact .field found below

theorem Reaches.trans {value middle last : Json} {keys others : List String}
    (first : Reaches value keys middle) (second : Reaches middle others last) :
    Reaches value (keys ++ others) last := by
  induction first with
  | here => exact second
  | field found _ ih => exact .field found (ih second)
  | item member _ ih => exact .item member (ih second)

/-- In a side that is no object nothing stands under a key. -/
theorem at?_objectFields (side : Option Json) (key : String) (rest : List Step) :
    (Json.object (objectFields side)).at? (.field key :: rest) =
      side.bind fun own => own.at? (.field key :: rest) := by
  cases side with
  | none => rfl
  | some own => cases own <;> rfl

/-- Of a side that is no object nothing is reached. -/
theorem reaches_objectFields {side : Option Json} {keys : List String} {value : Json}
    (named : keys ≠ []) (reaches : Reaches (.object (objectFields side)) keys value) :
    ∃ own, side = some own ∧ Reaches own keys value := by
  obtain ⟨key, rest, rfl⟩ := List.exists_cons_of_ne_nil named
  obtain ⟨inner, found, below⟩ := reaches_object.mp reaches
  unfold objectFields at found
  split at found
  · exact ⟨_, rfl, .field found below⟩
  · cases found

end Json

/-! ## Leaves of a node -/

/-- A place where a node requests a leaf, and the response keys that lead there. A relation may
lead to one object or to the items of a list. -/
inductive Node.LeafAt : Node → List Step → List String → Prop where
  | leaf {node : Node} {key : String} (plain : isReserved key = false)
      (requested : OrderedMap.get? node key = some .requested) :
      LeafAt node [.field key] [key]
  | object {node : Node} {key : String} {entries : List (String × Entry)} {place : List Step}
      {keys : List String} (plain : isReserved key = false)
      (relation : OrderedMap.get? node key = some (.relation entries))
      (below : LeafAt entries place keys) : LeafAt node (.field key :: place) (key :: keys)
  | item {node : Node} {key : String} {entries : List (String × Entry)} {index : Nat}
      {place : List Step} {keys : List String} (plain : isReserved key = false)
      (relation : OrderedMap.get? node key = some (.relation entries))
      (below : LeafAt entries place keys) :
      LeafAt node (.field key :: .item index :: place) (key :: keys)

namespace Node

theorem LeafAt.keys_ne_nil {node : Node} {place : List Step} {keys : List String}
    (leaf : node.LeafAt place keys) : keys ≠ [] := by
  cases leaf <;> exact List.cons_ne_nil _ _

theorem LeafAt.place_eq {node : Node} {place : List Step} {keys : List String}
    (leaf : node.LeafAt place keys) : ∃ key rest, place = .field key :: rest := by
  cases leaf <;> exact ⟨_, _, rfl⟩

/-- Whatever two objects are merged, a value at the place that the fresh one lacks is null or
stands in the cached one under the keys. -/
def Fills (custom : Option String) (node : Node) (place : List Step) (keys : List String) : Prop :=
  ∀ fresh cached value,
    (Json.object (Entry.mergeFields custom fresh cached node)).at? place = some value →
    (Json.object fresh).at? place = none →
    value = .null ∨ Json.Reaches (.object cached) keys value

/-- An item that is paired with a fresh one is an item of the cached list. -/
theorem mem_of_paired {custom : Option String} {items : List Json}
    {fields : OrderedMap String Json} {own : Json}
    (paired : pairedItem? custom (identifiedItems custom items) fields = some own) : own ∈ items := by
  obtain ⟨identifier, _, found⟩ := Option.bind_eq_some_iff.mp paired
  rcases OrderedMap.mem_of_mem_overlay (OrderedMap.mem_of_get?_eq_some found) with none | written
  · cases none
  · obtain ⟨item, member, picked⟩ := List.mem_filterMap.mp written
    cases item with
    | object fields =>
      simp only [Json.fields?, bind, Option.bind_some, Option.bind_eq_some_iff] at picked
      obtain ⟨_, _, picked⟩ := picked
      split at picked <;> cases picked
      exact member
    | _ => cases picked

theorem mem_of_listItems {side : Option Json} {own : Json} (member : own ∈ listItems side) :
    ∃ items, side = some (.array items) ∧ own ∈ items := by
  unfold listItems at member
  split at member
  · exact ⟨_, rfl, member⟩
  · cases member

section Relation
variable {custom : Option String} {node : Node} {key : String} {rest : List Step}
  {keys : List String} (fills : node.Fills custom (.field key :: rest) keys) (named : keys ≠ [])
  {fresh cached : Option Json} {value : Json}
include fills named

private theorem Fills.objects
    (shown : (node.mergeObjects custom fresh cached).at? (.field key :: rest) = some value)
    (absent : (fresh.bind fun own => own.at? (.field key :: rest)) = none) :
    value = .null ∨ ∃ own, cached = some own ∧ Json.Reaches own keys value := by
  have bare : (Json.object (objectFields fresh)).at? (.field key :: rest) = none := by
    rw [Json.at?_objectFields, absent]
  exact (fills _ _ value shown bare).imp_right (Json.reaches_objectFields named)

/-- What a relation shows of one object is null or stands in the cached value. -/
theorem Fills.object (shown : (node.merge custom fresh cached).at? (.field key :: rest) = some value)
    (absent : (fresh.bind fun own => own.at? (.field key :: rest)) = none) :
    value = .null ∨ ∃ own, cached = some own ∧ Json.Reaches own keys value := by
  unfold Node.merge mergeRelation at shown
  split at shown
  · cases shown
  · cases shown
  · exact fills.objects named shown absent
  · cases shown
  · cases shown
  · cases shown
  · exact fills.objects named shown absent

/-- What a relation shows of an item is null or stands in an item of the cached list. -/
theorem Fills.item {index : Nat}
    (shown : (node.merge custom fresh cached).at? (.item index :: .field key :: rest) = some value)
    (absent : (fresh.bind fun own => own.at? (.item index :: .field key :: rest)) = none) :
    value = .null ∨ ∃ own, cached = some own ∧ Json.Reaches own keys value := by
  unfold Node.merge mergeRelation at shown
  split at shown
  · cases shown
  · rename_i items
    simp only [mergeItems, Json.at?, List.getElem?_map, Option.bind_some] at shown absent
    cases found : items[index]? with
    | none => simp [found] at shown
    | some item =>
      simp only [found, Option.map_some, Option.bind_some] at shown absent
      split at shown
      · rename_i fields
        have inside : ((some (Json.object fields)).bind fun own => own.at? (.field key :: rest)) =
            none := absent
        obtain null | ⟨own, paired, reaches⟩ := fills.objects named shown inside
        · exact .inl null
        · obtain ⟨cachedItems, rfl, member⟩ := mem_of_listItems (mem_of_paired paired)
          exact .inr ⟨_, rfl, .item member reaches⟩
      · rw [absent] at shown
        cases shown
  · cases shown
  · cases shown
  · cases shown
  · rename_i items
    simp only [mergeItems, Json.at?, List.getElem?_map] at shown
    cases found : items[index]? with
    | none => simp [found] at shown
    | some item =>
      simp only [found, Option.map_some, Option.bind_some] at shown
      obtain null | ⟨own, same, reaches⟩ := fills.objects named shown rfl
      · exact .inl null
      · cases same
        exact .inr ⟨_, rfl, .item (List.mem_of_getElem? found) reaches⟩
  · cases shown

end Relation

/-- Every leaf of a merged object that the fresh one lacks is null or stands in the cached one
under the same keys. -/
theorem LeafAt.fills {node : Node} {place : List Step} {keys : List String}
    (leaf : node.LeafAt place keys) (custom : Option String) : node.Fills custom place keys := by
  induction leaf with
  | leaf plain requested =>
    intro fresh cached value shown absent
    simp only [Json.at?, Entry.get?_mergeFields, plain, requested, Entry.merge, Option.map_some,
      Bool.false_eq_true, ↓reduceIte, Option.bind_some, Option.some.injEq] at shown absent
    rename_i node key
    have lacking : OrderedMap.get? fresh key = none := by
      cases own : OrderedMap.get? fresh key <;> simp_all
    rw [lacking] at shown
    cases held : OrderedMap.get? cached key with
    | none => exact .inl (by simpa [held] using shown.symm)
    | some own =>
      obtain rfl : own = value := by simpa [held] using shown
      exact .inr (.field held (.here own))
  | object plain relation below ih =>
    intro fresh cached value shown absent
    obtain ⟨key, rest, rfl⟩ := below.place_eq
    simp only [Json.at?, Entry.get?_mergeFields, plain, relation, Entry.merge_relation,
      Option.map_some, Bool.false_eq_true, ↓reduceIte, Option.bind_some] at shown absent
    obtain null | ⟨own, held, reaches⟩ := ih.object below.keys_ne_nil shown absent
    · exact .inl null
    · exact .inr (.field held reaches)
  | item plain relation below ih =>
    intro fresh cached value shown absent
    obtain ⟨key, rest, rfl⟩ := below.place_eq
    rw [Json.at?, Entry.get?_mergeFields, plain, relation] at shown
    rw [Json.at?] at absent
    simp only [Entry.merge_relation, Option.map_some, Bool.false_eq_true, ↓reduceIte,
      Option.bind_some] at shown
    obtain null | ⟨own, held, reaches⟩ := ih.item below.keys_ne_nil shown absent
    · exact .inl null
    · exact .inr (.field held reaches)

end Node

/-! ## Completed answers -/

/-- A place below a root where a leaf is requested. The root may lead to one object or to the
items of a list. -/
inductive Prototype.LeafAt : Prototype → String → List Step → List String → Prop where
  | object {prototype : Prototype} {root : String} {node : Node} {place : List Step}
      {keys : List String} (asked : OrderedMap.get? prototype root = some node)
      (leaf : node.LeafAt place keys) : LeafAt prototype root place keys
  | item {prototype : Prototype} {root : String} {node : Node} {index : Nat} {place : List Step}
      {keys : List String} (asked : OrderedMap.get? prototype root = some node)
      (leaf : node.LeafAt place keys) : LeafAt prototype root (.item index :: place) keys

theorem Prototype.LeafAt.keys_ne_nil {prototype : Prototype} {root : String} {place : List Step}
    {keys : List String} (leaf : prototype.LeafAt root place keys) : keys ≠ [] := by
  cases leaf with
  | object _ leaf => exact leaf.keys_ne_nil
  | item _ leaf => exact leaf.keys_ne_nil

section Plain
variable {τ : Type}

/-- What is reached in the cached value of a root, unless it is a list of records, is reached in
one of its records. -/
theorem reaches_cachedRoot {node : Node} {records : List (Record τ)} {own value : Json}
    {keys : List String} (within : keys ≠ [] ∨ value.isObject = true)
    (cached : cachedRoot node records = some own) (reaches : Json.Reaches own keys value) :
    ∃ record ∈ records, Json.Reaches (.object record.data) keys value := by
  cases records with
  | nil => cases cached
  | cons first rest =>
    rw [cachedRoot] at cached
    split at cached
    · cases cached
      cases reaches with
      | here => rcases within with named | object <;> contradiction
      | item member below =>
        obtain ⟨record, inside, rfl⟩ := List.mem_map.mp member
        exact ⟨record, inside, below⟩
    · cases cached
      exact ⟨first, List.mem_cons_self, reaches⟩

theorem Client.dataOf_wrap (data : Json) (answer : Answer) : dataOf (wrap data answer) = data := by
  simp [dataOf, wrap, OrderedMap.get?]

/-- Data that can be read has the fields of an object, or none. -/
theorem objectFields_of_dataFields {data : Json} {fields : OrderedMap String Json}
    (read : dataFields data = .ok fields) : objectFields (some data) = fields := by
  cases data with
  | object own => cases read; rfl
  | _ =>
    simp only [dataFields] at read
    split at read <;> cases read
    rfl

/-- A leaf of a completed answer that the answer itself lacks is null, or it stands in a record
that was found for its root, under the same response keys. -/
theorem Client.complete_fills {prototype : Prototype}
    (unique : (OrderedMap.keys prototype).Nodup) {custom : Option String}
    {cached : OrderedMap String (List (Record τ))} {answer returned : Answer}
    (completed : complete prototype custom cached answer = .ok returned) {root : String}
    {place : List Step} {keys : List String} (leaf : prototype.LeafAt root place keys) {value : Json}
    (shown : (dataOf returned).at? (.field root :: place) = some value)
    (absent : (dataOf answer).at? (.field root :: place) = none) :
    value = .null ∨ ∃ record ∈ (OrderedMap.get? cached root).getD [],
      Json.Reaches (.object record.data) keys value := by
  rw [complete] at completed
  split at completed
  · cases completed
    rw [absent] at shown
    cases shown
  · simp only [bind, except_bind_ok, pure, Except.pure, Except.ok.injEq] at completed
    obtain ⟨fresh, read, rfl⟩ := completed
    have standing := Json.at?_objectFields (some (dataOf answer)) root place
    rw [objectFields_of_dataFields read, Option.bind_some] at standing
    rw [← standing, Json.at?] at absent
    rw [dataOf_wrap, Json.at?, Prototype.get?_merge custom unique] at shown
    cases leaf with
    | object asked leaf =>
      obtain ⟨key, rest, rfl⟩ := leaf.place_eq
      simp only [asked, Option.map_some, Option.some_or, Option.bind_some] at shown
      obtain null | ⟨own, held, reaches⟩ :=
        (leaf.fills custom).object leaf.keys_ne_nil shown absent
      · exact .inl null
      · exact .inr (reaches_cachedRoot (.inl leaf.keys_ne_nil) held reaches)
    | item asked leaf =>
      obtain ⟨key, rest, rfl⟩ := leaf.place_eq
      simp only [asked, Option.map_some, Option.some_or, Option.bind_some] at shown
      obtain null | ⟨own, held, reaches⟩ :=
        (leaf.fills custom).item leaf.keys_ne_nil shown absent
      · exact .inl null
      · exact .inr (reaches_cachedRoot (.inl leaf.keys_ne_nil) held reaches)

end Plain
end GraphCache
