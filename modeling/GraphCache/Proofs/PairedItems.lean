import GraphCache.Proofs.MergedShape

/-! Lists side by side. The items of a fresh list stay in their places, and each object among them
is completed from the cached item with its identifier, wherever that one stands. So of a cached
list nothing matters but the items that share an identifier with a fresh one, and not their
order either. -/
namespace GraphCache

/-! ## Items that share an identifier -/

namespace Json

/-- The identifier by which an item is paired: that of an object, unless it is empty. -/
def identifier? (custom : Option String) (item : Json) : Option String :=
  (item.fields?.bind fun fields => entityIdOf fields custom).filter (· ≠ "")

/-- Two items are objects with the same identifier, which is not empty. -/
def SharesIdentifier (custom : Option String) (item other : Json) : Prop :=
  ∃ identifier, item.identifier? custom = some identifier ∧
    other.identifier? custom = some identifier

/-- The last item of a list that has the identifier of another one. -/
def partner? (custom : Option String) (items : List Json) (item : Json) : Option Json :=
  (item.identifier? custom).bind fun identifier =>
    items.reverse.find? fun other => decide (other.identifier? custom = some identifier)

/-- An item that shares its identifier with one of a list. -/
def isShared (custom : Option String) (items : List Json) (other : Json) : Bool :=
  (other.identifier? custom).any fun identifier =>
    items.any fun item => decide (item.identifier? custom = some identifier)

variable {custom : Option String}

theorem identifier?_object (fields : OrderedMap String Json) :
    (object fields).identifier? custom = (entityIdOf fields custom).filter (· ≠ "") := rfl

theorem identifier?_ne_empty {item : Json} {identifier : String}
    (named : item.identifier? custom = some identifier) : identifier ≠ "" := by
  simpa using (Option.filter_eq_some_iff.mp named).2

theorem sharesIdentifier_object {fields others : OrderedMap String Json} :
    (object fields).SharesIdentifier custom (object others) ↔ ∃ identifier, identifier ≠ "" ∧
      entityIdOf fields custom = some identifier ∧ entityIdOf others custom = some identifier := by
  simp only [SharesIdentifier, identifier?_object, Option.filter_eq_some_iff, decide_eq_true_eq]
  grind

theorem partner?_of_identifier {item : Json} {identifier : String}
    (named : item.identifier? custom = some identifier) (items : List Json) :
    partner? custom items item =
      items.reverse.find? fun other => decide (other.identifier? custom = some identifier) := by
  rw [partner?, named, Option.bind_some]

theorem shares_of_partner? {items : List Json} {item own : Json}
    (paired : partner? custom items item = some own) :
    own ∈ items ∧ item.SharesIdentifier custom own := by
  obtain ⟨identifier, named, found⟩ := Option.bind_eq_some_iff.mp paired
  refine ⟨List.mem_reverse.mp (List.mem_of_find?_eq_some found), identifier, named, ?_⟩
  simpa using List.find?_some found

theorem isShared_of_shares {items : List Json} {item own : Json} (member : item ∈ items)
    (shares : item.SharesIdentifier custom own) : own.isShared custom items = true := by
  obtain ⟨identifier, named, same⟩ := shares
  rw [isShared, same, Option.any_some, List.any_eq_true]
  exact ⟨item, member, by simpa using named⟩

/-- Where no identifier occurs twice, each belongs to one item. -/
theorem eq_of_identifier? {items : List Json}
    (distinct : (items.filterMap (identifier? custom)).Nodup) {item other : Json}
    (one : item ∈ items) (two : other ∈ items) {identifier : String}
    (named : item.identifier? custom = some identifier)
    (same : other.identifier? custom = some identifier) : item = other := by
  induction items with
  | nil => cases one
  | cons first rest ih =>
    have later {own : Json} (member : own ∈ rest) (named : own.identifier? custom = some identifier) :
        identifier ∈ rest.filterMap (identifier? custom) :=
      List.mem_filterMap.mpr ⟨own, member, named⟩
    have tail : (rest.filterMap (identifier? custom)).Nodup :=
      distinct.sublist ((List.sublist_cons_self first rest).filterMap _)
    rcases List.mem_cons.mp one with rfl | inside
    · rcases List.mem_cons.mp two with rfl | beside
      · rfl
      · rw [List.filterMap_cons_some named] at distinct
        exact absurd (later beside same) (List.nodup_cons.mp distinct).1
    · rcases List.mem_cons.mp two with rfl | beside
      · rw [List.filterMap_cons_some same] at distinct
        exact absurd (later inside named) (List.nodup_cons.mp distinct).1
      · exact ih tail inside beside

/-- In such a list the partner of an item is the one item that shares its identifier. -/
theorem partner?_eq_some_iff {items : List Json}
    (distinct : (items.filterMap (identifier? custom)).Nodup) {item own : Json} :
    partner? custom items item = some own ↔ own ∈ items ∧ item.SharesIdentifier custom own := by
  constructor
  · exact shares_of_partner?
  · rintro ⟨member, identifier, named, same⟩
    rw [partner?_of_identifier named]
    cases found : items.reverse.find? fun other =>
        decide (other.identifier? custom = some identifier) with
    | none =>
      have missing := List.find?_eq_none.mp found own (List.mem_reverse.mpr member)
      exact absurd same (by simpa using missing)
    | some other =>
      have inside := List.mem_reverse.mp (List.mem_of_find?_eq_some found)
      rw [eq_of_identifier? distinct inside member (by simpa using List.find?_some found) same]

/-- Items that share no identifier with a list are no partners there. -/
theorem partner?_filter {items others : List Json} {item : Json} (member : item ∈ items) :
    partner? custom (others.filter (isShared custom items)) item = partner? custom others item := by
  cases named : item.identifier? custom with
  | none => rw [partner?, partner?, named, Option.bind_none, Option.bind_none]
  | some identifier =>
    rw [partner?_of_identifier named, partner?_of_identifier named, ← List.filter_reverse,
      List.find?_filter]
    congr 1
    funext other
    by_cases same : other.identifier? custom = some identifier
    · simp [same, isShared_of_shares member ⟨identifier, named, same⟩]
    · simp [same]

/-- The partners of a list depend on the items that share an identifier with it, in any order. -/
theorem partner?_congr {items cached others : List Json}
    (distinct : (cached.filterMap (identifier? custom)).Nodup)
    (same : (others.filter (isShared custom items)).Perm (cached.filter (isShared custom items)))
    {item : Json} (member : item ∈ items) :
    partner? custom others item = partner? custom cached item := by
  have kept : ((cached.filter (isShared custom items)).filterMap (identifier? custom)).Nodup :=
    distinct.sublist (List.filter_sublist.filterMap _)
  have moved : ((others.filter (isShared custom items)).filterMap (identifier? custom)).Nodup :=
    (same.filterMap (identifier? custom)).nodup_iff.mpr kept
  have filtered : partner? custom (cached.filter (isShared custom items)) item =
      partner? custom cached item := partner?_filter member
  rw [← partner?_filter member, ← filtered]
  ext own
  rw [partner?_eq_some_iff moved, partner?_eq_some_iff kept, same.mem_iff]

end Json

/-! ## Pairing through a mapping -/

theorem OrderedMap.get?_filterMap {κ β : Type} [DecidableEq κ] (items : List β) (name : β → Option κ)
    (key : κ) :
    OrderedMap.get? (items.filterMap fun item => (name item).map fun key => (key, item)) key =
      items.find? fun item => decide (name item = some key) := by
  induction items with
  | nil => rfl
  | cons item rest ih =>
    cases named : name item with
    | none => simp [named, ih]
    | some own => by_cases same : own = key <;> simp [named, OrderedMap.get?, same, ih]

/-- What is found for an item in the mapping of a list is the partner of the item in the list. -/
theorem pairedItem?_eq_partner? (custom : Option String) (cached : List Json)
    (fields : OrderedMap String Json) :
    pairedItem? custom (identifiedItems custom cached) fields =
      Json.partner? custom cached (.object fields) := by
  have writes : identifiedItems custom cached = OrderedMap.ofList (cached.filterMap fun item =>
      (item.identifier? custom).map fun identifier => (identifier, item)) := by
    rw [identifiedItems]
    congr 1
    refine List.filterMap_congr fun item _ => ?_
    rw [Json.identifier?]
    cases item.fields? with
    | none => rfl
    | some own =>
      cases named : entityIdOf own custom with
      | none => simp [named]
      | some identifier => by_cases empty : identifier = "" <;> simp [named, empty]
  have found (identifier : String) : OrderedMap.get? (identifiedItems custom cached) identifier =
      cached.reverse.find? fun own => decide (own.identifier? custom = some identifier) := by
    rw [writes, OrderedMap.get?_ofList, ← List.filterMap_reverse, OrderedMap.get?_filterMap]
  rw [pairedItem?, Json.partner?, Json.identifier?_object]
  cases entityIdOf fields custom with
  | none => rfl
  | some identifier =>
    rw [Option.bind_some, found]
    by_cases empty : identifier = ""
    · -- No item is known under an empty identifier.
      subst empty
      rw [Option.filter_some_neg (by simp), Option.bind_none, List.find?_eq_none]
      intro own _
      simp only [decide_eq_true_eq]
      exact fun named => Json.identifier?_ne_empty named rfl
    · rw [Option.filter_some_pos (by simpa using empty), Option.bind_some]

/-! ## Lists merged by their items -/

namespace Node

/-- One item of a merged list. What is no object stays as it is. -/
def mergeItem (custom : Option String) (node : Node) (cached : List Json) (item : Json) : Json :=
  match item with
  | .object fields =>
    node.merge custom (some (.object fields)) (Json.partner? custom cached (.object fields))
  | other => other

/-- Each item of a fresh list is merged with its partner in the cached one. -/
theorem merge_lists (custom : Option String) (node : Node) (items : List Json)
    (cached : Option Json) : node.merge custom (some (.array items)) cached =
      .array (items.map (node.mergeItem custom (listItems cached))) := by
  rw [Node.merge, mergeRelation, mergeItems, Json.array.injEq]
  refine List.map_congr_left fun item _ => ?_
  cases item with
  | object fields =>
    simp only [pairedItem?_eq_partner?, mergeItem]
    rfl
  | _ => rfl

/-- A fresh list is merged with a cached one in which no identifier occurs twice. The result has
the length and the order of the fresh list. What is no object in it stays; an object is merged
with the one cached item that shares its identifier, and with nothing if there is none. Any list
with the same items gives the same result, where neither the order counts nor any item whose
identifier no fresh item has. -/
theorem merge_pairs_items (custom : Option String) (node : Node) (items : List Json)
    {cached : List Json} (distinct : (cached.filterMap (Json.identifier? custom)).Nodup) :
    ∃ merged, node.merge custom (some (.array items)) (some (.array cached)) = .array merged ∧
      merged.length = items.length ∧
      (∀ (index : Nat) (item : Json), items[index]? = some item → item.isObject = false →
        merged[index]? = some item) ∧
      (∀ (index : Nat) (fields : OrderedMap String Json), items[index]? = some (.object fields) →
        (∃ own ∈ cached, (Json.object fields).SharesIdentifier custom own ∧
            (∀ other ∈ cached, (Json.object fields).SharesIdentifier custom other → other = own) ∧
            merged[index]? = some (node.merge custom (some (.object fields)) (some own))) ∨
          (∀ own ∈ cached, ¬(Json.object fields).SharesIdentifier custom own) ∧
            merged[index]? = some (node.merge custom (some (.object fields)) none)) ∧
      ∀ others : List Json, (others.filter (Json.isShared custom items)).Perm
          (cached.filter (Json.isShared custom items)) →
        node.merge custom (some (.array items)) (some (.array others)) = .array merged := by
  refine ⟨_, node.merge_lists custom items _, List.length_map _, ?_, ?_, ?_⟩
  · intro index item found plain
    rw [List.getElem?_map, found]
    cases item <;> first | rfl | cases plain
  · intro index fields found
    rw [List.getElem?_map, found, Option.map_some, listItems, mergeItem]
    cases paired : Json.partner? custom cached (.object fields) with
    | some own =>
      obtain ⟨member, shares⟩ := (Json.partner?_eq_some_iff distinct).mp paired
      refine .inl ⟨own, member, shares, fun other inside same => ?_, rfl⟩
      have alike := (Json.partner?_eq_some_iff distinct).mpr ⟨inside, same⟩
      rw [paired] at alike
      exact (Option.some.inj alike).symm
    | none =>
      refine .inr ⟨fun own member shares => ?_, rfl⟩
      rw [(Json.partner?_eq_some_iff distinct).mpr ⟨member, shares⟩] at paired
      cases paired
  · intro others same
    rw [merge_lists, Json.array.injEq]
    refine List.map_congr_left fun item member => ?_
    cases item with
    | object fields =>
      rw [mergeItem, mergeItem, listItems, listItems, Json.partner?_congr distinct same member]
    | _ => rfl

end Node

namespace Cities

/-- Fresh cities of which one has its name, among things that are no cities. -/
def newCities : List Json :=
  [.object [("id", .int 11)], .null, .object [("id", .string "10"), ("name", .string "Lima")],
    .object [("name", .string "Ica")]]

/-- Cached cities. The identifiers of two of them stand under other names. -/
def oldCities : List Json :=
  [lima, .object [("_id", .int 11), ("name", .string "Cusco")], .int 11,
    .object [("ID", .bool true), ("name", .string "Piura")]]

end Cities

open Cities in
/-- Cusco gets its name from the cached list, in whatever order, with Piura or without. -/
theorem Node.merge_pairs_cities :
    (oldCities.filterMap (Json.identifier? none)).Nodup ∧
      city.merge none (some (.array newCities)) (some (.array (oldCities.take 2).reverse)) =
        .array [.object [("id", .int 11), ("name", .string "Cusco")], .null,
          .object [("id", .string "10"), ("name", .string "Lima")],
          .object [("id", .null), ("name", .string "Ica")]] := by
  have distinct : (oldCities.filterMap (Json.identifier? none)).Nodup := by decide +kernel
  obtain ⟨merged, same, -, -, -, again⟩ := Node.merge_pairs_items none city newCities distinct
  refine ⟨distinct, ?_⟩
  rw [again _ ?_, ← same]
  · decide +kernel
  · have kept : (oldCities.take 2).reverse.filter (Json.isShared none newCities) =
        (oldCities.filter (Json.isShared none newCities)).reverse := by decide +kernel
    rw [kept]
    exact List.reverse_perm _

end GraphCache
