import GraphCache.Answer.Merge
import GraphCache.Proofs.Translation

/-! Completing an answer that has everything. When fresh data carries every response key
that its document selects, nothing is taken from the cache, and all that the completion
can do is to lose fields. It keeps just those that stand in the prototype: below a root
a field must not have the name of a mark, and must be selected by the last selection set
that was written under the response key above it. -/
namespace GraphCache

/-! ## Equality of values -/

/-- Values that are equal but for the order of the fields in their objects. -/
inductive Json.Same : Json → Json → Prop where
  | refl (value : Json) : Same value value
  | array {items others : List Json} (each : List.Forall₂ Same items others) :
      Same (.array items) (.array others)
  | object {fields others : OrderedMap String Json}
      (keys : ∀ key, (OrderedMap.get? fields key).isSome = (OrderedMap.get? others key).isSome)
      (values : ∀ key left right, OrderedMap.get? fields key = some left →
        OrderedMap.get? others key = some right → Same left right) :
      Same (.object fields) (.object others)

namespace Json

theorem same_array {items others : List Json} :
    Same (.array items) (.array others) ↔ List.Forall₂ Same items others := by
  constructor
  · intro same
    cases same with
    | refl => exact List.forall₂_same.mpr fun item _ => .refl item
    | array each => exact each
  · exact .array

theorem same_object {fields others : OrderedMap String Json} :
    Same (.object fields) (.object others) ↔
      (∀ key, (OrderedMap.get? fields key).isSome = (OrderedMap.get? others key).isSome) ∧
        ∀ key left right, OrderedMap.get? fields key = some left →
          OrderedMap.get? others key = some right → Same left right := by
  constructor
  · intro same
    cases same with
    | refl =>
      refine ⟨fun _ => rfl, fun key left right one two => ?_⟩
      rw [one] at two
      cases two
      exact .refl left
    | object keys values => exact ⟨keys, values⟩
  · rintro ⟨keys, values⟩
    exact .object keys values

end Json

/-! ## Answers that carry what is selected -/

namespace Selection

/-- The response keys of a selection set. -/
def responseKeys (selections : List Selection) : List String :=
  leafKeys selections ++ (branches selections).map Prod.fst

/-- What all fields under a response key select together. -/
def merged (selections : List Selection) (key : String) : List Selection :=
  (branches selections).flatMap fun branch => if branch.1 = key then branch.2.2 else []

mutual

/-- Whether fragments are spread in a selection or below it. -/
def spreads : Selection → Bool
  | .leaf _ => false
  | .relation _ selections => anySpreads selections
  | .spread .. => true
  | .inlineFragment _ _ selections => anySpreads selections

def anySpreads : List Selection → Bool
  | [] => false
  | selection :: rest => selection.spreads || anySpreads rest

end

/-- Data that answers a selection set. An object carries exactly the response keys that are
selected, and what stands under a relation answers all that is selected there together. -/
inductive Conforms : List Selection → Json → Prop where
  | null (selections : List Selection) : Conforms selections .null
  | array {selections : List Selection} {items : List Json}
      (each : ∀ item ∈ items, Conforms selections item) : Conforms selections (.array items)
  | object {selections : List Selection} {fields : OrderedMap String Json}
      (exactly : ∀ key, (OrderedMap.get? fields key).isSome ↔ key ∈ responseKeys selections)
      (relations : ∀ key value, key ∈ (branches selections).map Prod.fst →
        OrderedMap.get? fields key = some value → Conforms (merged selections key) value) :
      Conforms selections (.object fields)

/-- Data that one selection set asks for as a whole. Every field of an object is selected
under a name that is not reserved, and what stands under a relation is asked for by the
last selection set under its response key. -/
inductive Covers : List Selection → Json → Prop where
  | null (selections : List Selection) : Covers selections .null
  | array {selections : List Selection} {items : List Json}
      (each : ∀ fields, .object fields ∈ items → Covers selections (.object fields)) :
      Covers selections (.array items)
  | object {selections : List Selection} {fields : OrderedMap String Json}
      (asked : ∀ key, (OrderedMap.get? fields key).isSome →
        isReserved key = false ∧ key ∈ responseKeys selections)
      (relations : ∀ key value field, OrderedMap.get? fields key = some value →
        last? selections key = some field → Covers field.2 value) :
      Covers selections (.object fields)

/-! ## Selection sets and their nodes -/

theorem spreads_of_mem {selections : List Selection} (plain : anySpreads selections = false)
    {selection : Selection} (member : selection ∈ selections) : selection.spreads = false := by
  induction selections with
  | nil => cases member
  | cons first rest ih =>
    simp only [anySpreads, Bool.or_eq_false_iff] at plain
    rcases List.mem_cons.mp member with rfl | later
    · exact plain.1
    · exact ih plain.2 later

theorem mem_branches {selections : List Selection} {key : String} {head : FieldHead}
    {inner : List Selection} :
    (key, head, inner) ∈ branches selections ↔
      head.responseKey = key ∧ .relation head inner ∈ selections := by
  simp only [branches, List.mem_filterMap]
  constructor
  · rintro ⟨selection, member, found⟩
    cases selection <;> cases found
    exact ⟨rfl, member⟩
  · rintro ⟨rfl, member⟩
    exact ⟨_, member, rfl⟩

theorem branches_subset {inner selections : List Selection} (included : inner ⊆ selections) :
    branches inner ⊆ branches selections := by
  rintro ⟨key, head, below⟩ member
  obtain ⟨same, member⟩ := mem_branches.mp member
  exact mem_branches.mpr ⟨same, included member⟩

theorem responseKeys_subset {inner selections : List Selection} (included : inner ⊆ selections) :
    responseKeys inner ⊆ responseKeys selections := by
  intro key member
  rcases List.mem_append.mp member with leaf | relation
  · obtain ⟨selection, inside, found⟩ := List.mem_filterMap.mp leaf
    exact List.mem_append_left _ (List.mem_filterMap.mpr ⟨selection, included inside, found⟩)
  · obtain ⟨branch, inside, found⟩ := List.mem_map.mp relation
    exact List.mem_append_right _ (List.mem_map.mpr ⟨branch, branches_subset included inside, found⟩)

theorem mem_of_last? {selections : List Selection} {key : String} {field : FieldHead × List Selection}
    (found : last? selections key = some field) : (key, field) ∈ branches selections :=
  List.mem_reverse.mp (OrderedMap.mem_of_get?_eq_some found)

/-- The last selection set under a key is a part of what is selected there together. -/
theorem last?_subset_merged {inner selections : List Selection} (included : inner ⊆ selections)
    {key : String} {field : FieldHead × List Selection} (found : last? inner key = some field) :
    field.2 ⊆ merged selections key := by
  intro selection member
  exact List.mem_flatMap.mpr
    ⟨(key, field), branches_subset included (mem_of_last? found), by simpa using member⟩

theorem last?_isSome_iff (selections : List Selection) (key : String) :
    (last? selections key).isSome ↔ key ∈ (branches selections).map Prod.fst := by
  rw [last?, OrderedMap.get?_isSome_iff]
  simp [OrderedMap.keys]

theorem offered_eq_leafKeys {selections : List Selection} (plain : anySpreads selections = false) :
    offered selections = leafKeys selections := by
  induction selections with
  | nil => rfl
  | cons selection rest ih =>
    simp only [anySpreads, Bool.or_eq_false_iff] at plain
    have tail := ih plain.2
    simp only [offered, leafKeys] at tail
    cases selection with
    | leaf head => simp [offered, leafKeys, tail]
    | relation head below => simp [offered, leafKeys, tail]
    | spread fragment directives => simp [spreads] at plain
    | inlineFragment condition directives below => simp [offered, leafKeys, tail]

theorem plain_of_last? {selections : List Selection} (plain : anySpreads selections = false)
    {key : String} {field : FieldHead × List Selection} (found : last? selections key = some field) :
    anySpreads field.2 = false :=
  spreads_of_mem plain (mem_branches.mp (mem_of_last? found)).2

end Selection

namespace Node

theorem get?_ofNames (names : List String) (key : String) :
    OrderedMap.get? (Node.ofNames names) key = if key ∈ names then some .requested else none := by
  rw [Node.ofNames, OrderedMap.get?_ofList, ← List.map_reverse,
    OrderedMap.get?_map_name names.reverse (fun name => name) fun _ => Entry.requested]
  by_cases member : key ∈ names
  · have found : (names.reverse.find? fun name => decide (name = key)).isSome := by
      simpa using member
    obtain ⟨name, named⟩ := Option.isSome_iff_exists.mp found
    simp [member, named]
  · have absent : names.reverse.find? (fun name => decide (name = key)) = none := by
      simp only [List.find?_eq_none, List.mem_reverse, decide_eq_true_eq]
      rintro name inside rfl
      exact member inside
    simp [member, absent]

end Node

/-- Marks stand under reserved names only. -/
theorem FieldHead.reserved_of_mark {head : FieldHead} {custom : Option String} {key : String}
    (mark : key ∈ OrderedMap.keys (head.marks custom)) : isReserved key = true := by
  simp only [FieldHead.marks, OrderedMap.mem_keys_overlay] at mark
  rcases mark with (first | given) | four
  · rw [List.mem_singleton.mp first]
    decide
  · simp only [OrderedMap.keys, List.map_map, List.mem_map, List.mem_filter] at given
    obtain ⟨entry, ⟨_, reserved⟩, rfl⟩ := given
    exact reserved
  · simp only [OrderedMap.keys, List.map_cons, List.map_nil, List.mem_cons, List.not_mem_nil,
      or_false] at four
    rcases four with rfl | rfl | rfl | rfl <;> decide

/-- Under a name that is not reserved a node has the relation that was written last, or else
a request for what its field offers. -/
theorem FieldHead.get?_node_offered (head : FieldHead) (custom : Option String)
    (selections : List Selection) {key : String} (field : isReserved key = false) :
    OrderedMap.get? (head.node custom selections) key =
      ((Selection.last? selections key).map fun field =>
        Entry.relation (field.1.node custom field.2)).or
          (if key ∈ Selection.offered selections then some .requested else none) := by
  have unmarked : OrderedMap.get? (head.marks custom).reverse key = none := by
    rw [OrderedMap.get?_eq_none_iff, OrderedMap.keys, List.map_reverse, List.mem_reverse]
    intro mark
    rw [FieldHead.reserved_of_mark mark] at field
    cases field
  rw [FieldHead.node, Node.get?_withRelations, FieldHead.opening, OrderedMap.get?_overlay, unmarked,
    Node.get?_ofNames]
  rfl

/-- Without spreads that is a request for a leaf. -/
theorem FieldHead.get?_node (head : FieldHead) (custom : Option String) {selections : List Selection}
    (plain : Selection.anySpreads selections = false) {key : String}
    (field : isReserved key = false) :
    OrderedMap.get? (head.node custom selections) key =
      ((Selection.last? selections key).map fun field =>
        Entry.relation (field.1.node custom field.2)).or
          (if key ∈ Selection.leafKeys selections then some .requested else none) := by
  rw [head.get?_node_offered custom selections field, Selection.offered_eq_leafKeys plain]

/-! ## Completing one value -/

/-- The completed fields of an object, read one by one. -/
theorem Entry.get?_mergeFields (custom : Option String) (fresh cached : OrderedMap String Json)
    (entries : List (String × Entry)) (key : String) :
    OrderedMap.get? (Entry.mergeFields custom fresh cached entries) key =
      if isReserved key then none
      else (OrderedMap.get? entries key).map fun entry =>
        entry.merge custom (OrderedMap.get? fresh key) (OrderedMap.get? cached key) := by
  induction entries with
  | nil => simp [Entry.mergeFields]
  | cons entry rest ih =>
    by_cases same : entry.1 = key
    · subst same
      by_cases reserved : isReserved entry.1 = true
      · simp [Entry.mergeFields, reserved, ih]
      · simp [Entry.mergeFields, OrderedMap.get?, reserved]
    · by_cases reserved : isReserved entry.1 = true
      · simp [Entry.mergeFields, OrderedMap.get?, reserved, same, ih]
      · simp [Entry.mergeFields, OrderedMap.get?, reserved, same, ih]

/-- A list is completed item by item, and items that are no objects stay. -/
theorem Node.merge_each (custom : Option String) (node : Node) (items : List Json)
    (cached : Option Json) : ∃ complete : Json → Json,
      node.merge custom (some (.array items)) cached = .array (items.map complete) ∧
      (∀ fields, ∃ paired, complete (.object fields) =
        node.merge custom (some (.object fields)) paired) ∧
      ∀ item, item.isObject = false → complete item = item := by
  refine ⟨_, rfl, fun fields => ⟨_, rfl⟩, fun item plain => ?_⟩
  cases item <;> first | rfl | cases plain

theorem Entry.merge_relation (custom : Option String) (node : Node) (fresh cached : Option Json) :
    (Entry.relation node).merge custom fresh cached = node.merge custom fresh cached := by
  rw [Entry.merge]
  rfl

section Object
variable (custom : Option String) (head : FieldHead) {inner : List Selection}
  (plain : Selection.anySpreads inner = false) (fresh cached : OrderedMap String Json)
include plain

/-- The completed object has the fields that are selected under a name of their own. -/
private theorem completed_isSome_iff (key : String) :
    (OrderedMap.get? (Entry.mergeFields custom fresh cached (head.node custom inner)) key).isSome ↔
      isReserved key = false ∧ key ∈ Selection.responseKeys inner := by
  rw [Entry.get?_mergeFields]
  cases reserved : isReserved key with
  | true => simp
  | false =>
    rw [head.get?_node custom plain reserved, Selection.responseKeys, List.mem_append,
      ← Selection.last?_isSome_iff]
    cases Selection.last? inner key <;> by_cases leaf : key ∈ Selection.leafKeys inner <;>
      simp [leaf]

/-- A field that the fresh object carries is taken from there, and completed in turn where it
is a relation. -/
private theorem get?_completed {key : String} {value : Json}
    (carried : OrderedMap.get? fresh key = some value) (unreserved : isReserved key = false)
    (selected : key ∈ Selection.responseKeys inner) :
    OrderedMap.get? (Entry.mergeFields custom fresh cached (head.node custom inner)) key =
      some (match Selection.last? inner key with
        | some field =>
          (field.1.node custom field.2).merge custom (some value) (OrderedMap.get? cached key)
        | none => value) := by
  rw [Entry.get?_mergeFields, unreserved, head.get?_node custom plain unreserved, carried]
  rw [Selection.responseKeys, List.mem_append, ← Selection.last?_isSome_iff] at selected
  cases found : Selection.last? inner key with
  | some field => simp [Entry.merge_relation]
  | none =>
    have leaf : key ∈ Selection.leafKeys inner := by simpa [found] using selected
    simp [leaf, Entry.merge]

end Object

/-- A list is the same after completion when each of its objects is. -/
private theorem Selection.merge_items_same_iff (custom : Option String) {inner : List Selection}
    (head : FieldHead) {items : List Json} (cached : Option Json)
    (each : ∀ item ∈ items, ∀ cached,
      (Json.Same ((head.node custom inner).merge custom (some item) cached) item ↔
        Covers inner item)) :
    Json.Same ((head.node custom inner).merge custom (some (.array items)) cached) (.array items) ↔
      Covers inner (.array items) := by
  obtain ⟨complete, merged, objects, others⟩ :=
    Node.merge_each custom (head.node custom inner) items cached
  rw [merged, Json.same_array, List.forall₂_map_left_iff, List.forall₂_same]
  constructor
  · intro same
    refine .array fun fields member => ?_
    obtain ⟨paired, completed⟩ := objects fields
    have own := same (.object fields) member
    rw [completed] at own
    exact (each _ member paired).mp own
  · rintro (_ | asked) item member
    cases shape : item.isObject with
    | false =>
      rw [others item shape]
      exact .refl item
    | true =>
      cases item with
      | object fields =>
        obtain ⟨paired, completed⟩ := objects fields
        rw [completed]
        exact (each _ member paired).mpr (asked fields member)
      | _ => cases shape

/-- An object is the same after completion when it carries no more than what is asked for and
each of its relations is the same. -/
private theorem Selection.merge_fields_same_iff (custom : Option String) {selections inner : List Selection}
    (included : inner ⊆ selections) (plain : anySpreads inner = false) (head : FieldHead)
    {fields : OrderedMap String Json} (cached : Option Json)
    (exactly : ∀ key, (OrderedMap.get? fields key).isSome ↔ key ∈ responseKeys selections)
    (each : ∀ key value field, OrderedMap.get? fields key = some value →
      last? inner key = some field → ∀ cached,
      (Json.Same ((field.1.node custom field.2).merge custom (some value) cached) value ↔
        Covers field.2 value)) :
    Json.Same ((head.node custom inner).merge custom (some (.object fields)) cached)
        (.object fields) ↔ Covers inner (.object fields) := by
  have completed : (head.node custom inner).merge custom (some (.object fields)) cached =
      .object (Entry.mergeFields custom fields (objectFields cached) (head.node custom inner)) := rfl
  rw [completed, Json.same_object]
  have present := completed_isSome_iff custom head plain fields (objectFields cached)
  constructor
  · rintro ⟨keys, values⟩
    have asked : ∀ key, (OrderedMap.get? fields key).isSome →
        isReserved key = false ∧ key ∈ responseKeys inner := by
      intro key carried
      rw [← keys] at carried
      exact (present key).mp carried
    refine .object asked fun key value field carried found => ?_
    obtain ⟨unreserved, selected⟩ := asked key (by simp [carried])
    have completed := get?_completed custom head plain fields (objectFields cached) carried
      unreserved selected
    rw [found] at completed
    exact (each key value field carried found _).mp (values key _ _ completed carried)
  · rintro (_ | _ | ⟨asked, relations⟩)
    refine ⟨fun key => ?_, fun key left value merged carried => ?_⟩
    · rw [Bool.eq_iff_iff, present]
      constructor
      · rintro ⟨_, selected⟩
        exact (exactly key).mpr (responseKeys_subset included selected)
      · exact asked key
    · obtain ⟨unreserved, selected⟩ := asked key (by simp [carried])
      rw [get?_completed custom head plain fields (objectFields cached) carried unreserved
        selected] at merged
      cases merged
      cases found : last? inner key with
      | none => exact .refl value
      | some field =>
        exact (each key value field carried found _).mpr (relations key value field carried found)

/-- Completing data that answers a selection set gives the same data back exactly when the
set that was written last asks for all of it, whatever is cached. -/
theorem Selection.merge_same_iff (custom : Option String) {selections : List Selection}
    {value : Json} (conforms : Conforms selections value) {inner : List Selection}
    (included : inner ⊆ selections) (plain : anySpreads inner = false) (head : FieldHead)
    (cached : Option Json) :
    Json.Same ((head.node custom inner).merge custom (some value) cached) value ↔
      Covers inner value := by
  induction conforms generalizing inner head cached with
  | null selections => exact ⟨fun _ => .null inner, fun _ => .refl .null⟩
  | array each ih =>
    exact merge_items_same_iff custom head cached fun item member cached =>
      ih item member included plain head cached
  | object exactly relations ih =>
    refine merge_fields_same_iff custom included plain head cached exactly
      fun key value field carried found cached => ?_
    have relation := List.mem_map_of_mem (f := Prod.fst)
      (branches_subset included (mem_of_last? found))
    exact ih key value relation carried (last?_subset_merged included found)
      (plain_of_last? plain found) field.1 cached

/-! ## Documents that lose nothing -/

namespace Selection

/-- A selection set in which, at every depth, relations have response keys of their own and
no field has a reserved name. -/
inductive Distinct : List Selection → Prop where
  | intro {selections : List Selection} (unique : ((branches selections).map Prod.fst).Nodup)
      (unreserved : ∀ key ∈ responseKeys selections, isReserved key = false)
      (inside : ∀ key field, last? selections key = some field → Distinct field.2) :
      Distinct selections

/-- A field whose response key is not repeated selects on its own what is selected there. -/
theorem merged_eq_last {selections : List Selection}
    (unique : ((branches selections).map Prod.fst).Nodup) {key : String}
    {field : FieldHead × List Selection} (found : last? selections key = some field) :
    merged selections key = field.2 := by
  have member := mem_of_last? found
  rw [merged]
  generalize branches selections = fields at unique member ⊢
  induction fields with
  | nil => cases member
  | cons branch rest ih =>
    obtain ⟨fresh, tail⟩ := List.nodup_cons.mp unique
    rw [List.flatMap_cons]
    rcases List.mem_cons.mp member with rfl | later
    · have others : rest.flatMap (fun branch => if branch.1 = key then branch.2.2 else []) = [] := by
        rw [List.flatMap_eq_nil_iff]
        intro branch inside
        have other : branch.1 ≠ key := by
          rintro rfl
          have named := List.mem_map_of_mem (f := Prod.fst) inside
          exact fresh named
        simp [other]
      simp [others]
    · have other : branch.1 ≠ key := by
        rintro rfl
        have named := List.mem_map_of_mem (f := Prod.fst) later
        exact fresh named
      simp [other, ih tail later]

/-- Data that answers a selection set without repetitions is covered by it. -/
theorem covers_of_distinct {selections : List Selection} {value : Json}
    (conforms : Conforms selections value) (distinct : Distinct selections) :
    Covers selections value := by
  induction conforms with
  | null selections => exact .null selections
  | array each ih => exact .array fun fields member => ih _ member distinct
  | object exactly relations ih =>
    obtain ⟨unique, unreserved, inside⟩ := distinct
    refine .object (fun key carried => ?_) fun key value field carried found => ?_
    · have selected := (exactly key).mp carried
      exact ⟨unreserved key selected, selected⟩
    · have relation := List.mem_map_of_mem (f := Prod.fst) (mem_of_last? found)
      have own := ih key value relation carried
      rw [merged_eq_last unique found] at own
      exact own (inside key field found)

end Selection

/-! ## Completing all roots -/

/-- The completed data, read root by root. -/
theorem Prototype.get?_merge {τ : Type} (custom : Option String) {prototype : Prototype}
    (unique : (OrderedMap.keys prototype).Nodup) (fresh : OrderedMap String Json)
    (cached : OrderedMap String (List (Record τ))) (root : String) :
    OrderedMap.get? (prototype.merge custom fresh cached) root =
      ((OrderedMap.get? prototype root).map fun node =>
        node.merge custom (OrderedMap.get? fresh root)
          (cachedRoot node ((OrderedMap.get? cached root).getD []))).or
        (OrderedMap.get? fresh root) := by
  have written : prototype.merge custom fresh cached = OrderedMap.overlay fresh
      (prototype.map fun entry => (entry.1, entry.2.merge custom (OrderedMap.get? fresh entry.1)
        (cachedRoot entry.2 ((OrderedMap.get? cached entry.1).getD [])))) := by
    simp [Prototype.merge, OrderedMap.overlay, List.foldl_map]
  have keys : (OrderedMap.keys (prototype.map fun entry => (entry.1, entry.2.merge custom
      (OrderedMap.get? fresh entry.1)
        (cachedRoot entry.2 ((OrderedMap.get? cached entry.1).getD []))))).Nodup := by
    simpa [OrderedMap.keys, Function.comp_def] using unique
  rw [written, OrderedMap.get?_overlay_of_nodup keys]
  congr 1
  exact OrderedMap.get?_map prototype (fun key node => node.merge custom (OrderedMap.get? fresh key)
    (cachedRoot node ((OrderedMap.get? cached key).getD []))) root

/-- Every root with a selection set is covered by the one that was written last for it. -/
def Selection.CoversRoots (selections : List Selection) (data : OrderedMap String Json) : Prop :=
  ∀ root field value, last? selections root = some field →
    OrderedMap.get? data root = some value → Covers field.2 value

theorem Selection.coversRoots_of_distinct {selections : List Selection}
    {data : OrderedMap String Json} (unique : ((branches selections).map Prod.fst).Nodup)
    (distinct : ∀ root field, last? selections root = some field → Distinct field.2)
    (conforms : Conforms selections (.object data)) : CoversRoots selections data := by
  intro root field value found carried
  cases conforms with
  | object exactly relations =>
    have relation := List.mem_map_of_mem (f := Prod.fst) (mem_of_last? found)
    have own := relations root value relation carried
    rw [merged_eq_last unique found] at own
    exact covers_of_distinct own (distinct root field found)

/-- Completing data that answers an operation gives the same data back exactly when every root
is covered, whatever is cached. -/
theorem Selection.mergeRoots_same_iff {τ : Type} (custom : Option String)
    {selections : List Selection} (plain : anySpreads selections = false)
    {data : OrderedMap String Json} (conforms : Conforms selections (.object data))
    (cached : OrderedMap String (List (Record τ))) :
    Json.Same (.object (Prototype.merge custom (OrderedMap.ofList (relationsOf custom selections))
        data cached)) (.object data) ↔ CoversRoots selections data := by
  have unique := OrderedMap.keys_ofList_nodup (relationsOf custom selections)
  have completed (root : String) := Prototype.get?_merge custom unique data cached root
  simp only [OrderedMap.get?_ofList, get?_relationsOf_reverse, Option.map_map] at completed
  obtain ⟨exactly, relations⟩ : (∀ key, (OrderedMap.get? data key).isSome ↔
      key ∈ responseKeys selections) ∧ ∀ key value, key ∈ (branches selections).map Prod.fst →
        OrderedMap.get? data key = some value → Conforms (merged selections key) value := by
    cases conforms with
    | object exactly relations => exact ⟨exactly, relations⟩
  -- A root that was selected is answered, and is completed under its own node.
  have root_same : ∀ root field value, last? selections root = some field →
      OrderedMap.get? data root = some value → ∀ cached,
      (Json.Same ((field.1.node custom field.2).merge custom (some value) cached) value ↔
        Covers field.2 value) := by
    intro root field value found carried cached
    have relation := List.mem_map_of_mem (f := Prod.fst) (mem_of_last? found)
    exact merge_same_iff custom (relations root value relation carried)
      (last?_subset_merged (List.Subset.refl selections) found) (plain_of_last? plain found)
      field.1 cached
  rw [Json.same_object]
  constructor
  · rintro ⟨_, values⟩ root field value found carried
    have own := completed root
    rw [found, carried] at own
    exact (root_same root field value found carried _).mp (values root _ _ own carried)
  · intro covers
    refine ⟨fun root => ?_, fun root left value merged carried => ?_⟩
    · rw [completed]
      cases found : last? selections root with
      | none => rfl
      | some field =>
        have selected : root ∈ responseKeys selections :=
          List.mem_append_right _ ((last?_isSome_iff selections root).mp (by simp [found]))
        simp [(exactly root).mpr selected]
    · rw [completed, carried] at merged
      cases found : last? selections root with
      | none =>
        simp only [found, Option.map_none, Option.none_or, Option.some.injEq] at merged
        subst merged
        exact .refl value
      | some field =>
        simp only [found, Option.map_some, Option.some_or, Option.some.injEq,
          Function.comp_apply] at merged
        subst merged
        exact (root_same root field value found carried _).mpr
          (covers root field value found carried)

end GraphCache
