import GraphCache.Proofs.Completion
import GraphCache.Proofs.RoundTrip
import GraphCache.Proofs.SettledSpreads

/-! What a caller gets of an answer that has everything. For a document of one operation
without fragments a call returns, and it returns the data of the answer unchanged unless
a root was found in the cache and a selection set was replaced by a later one under the
same response key, or a field below a root has the name of a mark. Then the fields
that the prototype lacks are lost. -/
namespace GraphCache

/-! ## Documents without fragments -/

/-- Where there is no fragment, no spread is met. -/
private theorem settled_nil (node : Node) : node.Settled [] := by
  refine .intro (fun name spreads => ?_) fun key entries _ member => settled_nil entries
  exact absurd spreads.2.2 List.not_mem_nil
termination_by sizeOf node
decreasing_by
  have inner := List.sizeOf_lt_of_mem member
  simp only [Prod.mk.sizeOf_spec, Entry.relation.sizeOf_spec] at inner
  omega

namespace Document

/-- Without fragments the expanded roots are the translated ones. -/
theorem expanded_eq {document : Document} {custom : Option String}
    (eligible : (document.compile custom).route = .query) (shared : document.fragments = []) :
    document.expanded custom = document.translatedRoots custom := by
  have clear := clear_of_route fun reason passed => by cases eligible.symm.trans passed
  obtain ⟨roots, fragments⟩ := compiled_trees clear
  have empty : document.translatedFragments custom = [] := by
    rw [translatedFragments, shared]
    rfl
  have unchanged (node : Node) : Node.expand [] 0 [] node = node := by
    rw [Node.expand_eq, (settled_nil node).inlineSpreads fun name _ => Node.spread_field rfl 0 []]
  rw [expanded, fragments, empty, roots]
  simp [Prototype.expand, unchanged]

end Document

/-! ## Calls that return -/

namespace Selection

/-- A selection set below which no relation takes the place of a type mark. -/
inductive Typed : List Selection → Prop where
  | intro {selections : List Selection} (unmarked : last? selections Mark.typeName = none)
      (inside : ∀ key field, last? selections key = some field → Typed field.2) : Typed selections

/-- The type mark is a reserved name. -/
theorem Distinct.typed {selections : List Selection} (distinct : Distinct selections) :
    Typed selections := by
  induction distinct with
  | intro unique unreserved inside ih =>
    refine .intro ?_ ih
    rw [← Option.not_isSome_iff_eq_none, last?_isSome_iff]
    intro relation
    have plain := unreserved Mark.typeName (List.mem_append_right _ relation)
    revert plain
    decide

end Selection

/-- A node that has a text for its type, and so has every node below it. -/
inductive Node.Typed : Node → Prop where
  | intro {node : Node} {name : String} (label : node.typeLabel = .text name)
      (inside : ∀ key entries, (key, Entry.relation entries) ∈ node → Node.Typed entries) :
      Node.Typed node

/-- A node that has a text for its type, and so has every node that its fields lead to. What
stands under the other marks does not matter. -/
inductive Node.Labelled : Node → Prop where
  | intro {node : Node} {name : String} (label : node.typeLabel = .text name)
      (inside : ∀ key entries, isReserved key = false → (key, Entry.relation entries) ∈ node →
        Node.Labelled entries) : Node.Labelled node

namespace Node

theorem Typed.labelled {node : Node} (typed : node.Typed) : node.Labelled := by
  induction typed with
  | intro label inside ih => exact .intro label fun key entries _ member => ih key entries member

/-- A key is made of a text for a type and of arguments. -/
theorem queryKey_of_text {node : Node} {name : String} (label : node.typeLabel = .text name)
    {given : OrderedMap String Json} (arguments : node.argumentFields = .ok given)
    (custom : Option String) : ∃ key, node.queryKey custom = .ok (.text key) := by
  have key : ∃ key, node.cacheKey = .ok (.text key) := by
    rw [cacheKey, label]
    split <;> exact ⟨_, rfl⟩
  obtain ⟨key, keyed⟩ := key
  simp only [queryKey, filters, arguments, keyed, bind, Except.bind, pure, Except.pure]
  split <;> exact ⟨_, rfl⟩

end Node

namespace FieldHead

variable (head : FieldHead) (custom : Option String)

theorem keys_marks_nodup : (OrderedMap.keys (head.marks custom)).Nodup := by
  have single : (OrderedMap.keys [(Mark.identifier, Entry.literal .null)]).Nodup :=
    List.nodup_singleton _
  exact OrderedMap.keys_overlay_nodup (OrderedMap.keys_overlay_nodup single _) _

theorem keys_node_nodup (selections : List Selection) :
    (OrderedMap.keys (head.node custom selections)).Nodup :=
  OrderedMap.keys_overlay_nodup
    (OrderedMap.keys_overlay_nodup (OrderedMap.keys_ofList_nodup _) _) _

/-- The relations of a node are the last ones that the field selects. -/
theorem relation_of_mem_node {selections : List Selection} {key : String}
    {below : List (String × Entry)}
    (member : (key, Entry.relation below) ∈ head.node custom selections) :
    ∃ field, Selection.last? selections key = some field ∧ field.1.node custom field.2 = below :=
  (Node.get?_withRelations_relation (head.flat_opening custom selections)).mp
    (OrderedMap.get?_eq_some_of_mem (head.keys_node_nodup custom selections) member)

/-- A mark of a node is the field's own, unless a relation has taken its place. -/
theorem get?_node_mark {selections : List Selection} {key : String} {value : Json}
    (marked : OrderedMap.get? (head.marks custom) key = some (.literal value)) :
    OrderedMap.get? (head.node custom selections) key =
      some (((Selection.last? selections key).map fun field =>
        Entry.relation (field.1.node custom field.2)).getD (.literal value)) := by
  rw [FieldHead.node, Node.get?_withRelations, FieldHead.opening,
    OrderedMap.get?_overlay_of_nodup (head.keys_marks_nodup custom), marked]
  cases Selection.last? selections key <;> rfl

theorem get?_marks_typeName : OrderedMap.get? (head.marks custom) Mark.typeName =
    some (.literal (.string (Text.lowercase head.name))) := by
  rw [FieldHead.marks, OrderedMap.get?_overlay]
  rfl

theorem get?_marks_arguments : ∃ value, OrderedMap.get? (head.marks custom) Mark.arguments =
    some (.literal value) ∧ (value = .null ∨ ∃ fields, value = .object fields) := by
  rw [FieldHead.marks, OrderedMap.get?_overlay]
  refine ⟨_, rfl, ?_⟩
  split
  · exact .inl rfl
  · exact .inr ⟨_, rfl⟩

theorem typeLabel_node {selections : List Selection}
    (unmarked : Selection.last? selections Mark.typeName = none) :
    (head.node custom selections).typeLabel = .text (Text.lowercase head.name) := by
  rw [Node.typeLabel, Node.typeName, Node.mark,
    head.get?_node_mark custom (head.get?_marks_typeName custom), unmarked]
  rfl

theorem node_typed {selections : List Selection} (typed : Selection.Typed selections) :
    (head.node custom selections).Typed := by
  induction typed generalizing head with
  | intro unmarked inside ih =>
    rename_i selections
    refine .intro (head.typeLabel_node custom unmarked) fun key entries member => ?_
    obtain ⟨field, last, rfl⟩ := head.relation_of_mem_node custom member
    exact ih key field last field.1

/-- The root of a field with a type mark has a text for its key. -/
theorem queryKey_text {selections : List Selection}
    (unmarked : Selection.last? selections Mark.typeName = none) (name : Option String) :
    ∃ key, (head.node custom selections).queryKey name = .ok (.text key) := by
  have arguments : ∃ fields, (head.node custom selections).argumentFields = .ok fields := by
    obtain ⟨value, marked, shape⟩ := head.get?_marks_arguments custom
    rw [Node.argumentFields, Node.arguments, Node.mark, head.get?_node_mark custom marked]
    cases Selection.last? selections Mark.arguments with
    | some field => exact ⟨_, rfl⟩
    | none => rcases shape with rfl | ⟨fields, rfl⟩ <;> exact ⟨_, rfl⟩
  obtain ⟨fields, arguments⟩ := arguments
  exact Node.queryKey_of_text (head.typeLabel_node custom unmarked) arguments name

end FieldHead

namespace Fragment

variable (shared : Fragment) (custom : Option String)

theorem keys_node_nodup : (OrderedMap.keys (shared.node custom)).Nodup :=
  OrderedMap.keys_overlay_nodup (OrderedMap.keys_ofList_nodup _) _

/-- Under a key a fragment has the last relation that it selects, or else a leaf. -/
theorem get?_node (key : String) :
    OrderedMap.get? (shared.node custom) key =
      ((Selection.last? shared.selections key).map fun field =>
        Entry.relation (field.1.node custom field.2)).or
          (if key ∈ Selection.leafKeys shared.selections then some .requested else none) := by
  rw [node, Node.get?_withRelations, Node.get?_ofNames]

theorem get?_node_absent {shared : Fragment} {custom : Option String} {key : String}
    (absent : key ∉ Selection.responseKeys shared.selections) :
    OrderedMap.get? (shared.node custom) key = none := by
  have noRelation : Selection.last? shared.selections key = none := by
    rw [← Option.not_isSome_iff_eq_none, Selection.last?_isSome_iff]
    exact fun relation => absent (List.mem_append_right _ relation)
  have noLeaf : key ∉ Selection.leafKeys shared.selections := fun leaf =>
    absent (List.mem_append_left _ leaf)
  rw [Fragment.get?_node, noRelation, if_neg noLeaf]
  rfl

/-- What stands in a fragment is a relation, the last one under its key, or the name of a leaf.
Literals stand in fields only. -/
theorem mem_node {shared : Fragment} {custom : Option String} {key : String} {entry : Entry}
    (member : (key, entry) ∈ shared.node custom) :
    (∃ field, Selection.last? shared.selections key = some field ∧
      entry = .relation (field.1.node custom field.2)) ∨
      key ∈ Selection.leafKeys shared.selections ∧ entry = .requested := by
  have found := OrderedMap.get?_eq_some_of_mem (shared.keys_node_nodup custom) member
  rw [get?_node] at found
  cases last : Selection.last? shared.selections key with
  | some field =>
    rw [last] at found
    cases found
    exact .inl ⟨field, rfl, rfl⟩
  | none =>
    rw [last, Option.map_none, Option.none_or, Option.ite_none_right_eq_some] at found
    exact .inr ⟨found.1, (Option.some.inj found.2).symm⟩

/-- The relations of a fragment are the last ones that it selects. -/
theorem relation_of_mem_node {key : String} {below : List (String × Entry)}
    (member : (key, Entry.relation below) ∈ shared.node custom) :
    ∃ field, Selection.last? shared.selections key = some field ∧
      field.1.node custom field.2 = below :=
  (Node.get?_withRelations_relation (Node.flat_ofNames _)).mp
    (OrderedMap.get?_eq_some_of_mem (shared.keys_node_nodup custom) member)

end Fragment

theorem Label.eq_of_hashable {label result : Label} (hashed : label.hashable = .ok result) :
    result = label := by
  cases label with
  | text name => cases hashed; rfl
  | displaced mark => cases mark <;> cases hashed <;> rfl

namespace Filing

variable {τ : Type} (filing : Filing τ)

private theorem mapped_text (map : OrderedMap String String) (name : String) {label : Label}
    (mapped : mappedLabel? (labels map) name = some label) : ∃ text, label = .text text := by
  rw [mappedLabel?, labels, OrderedMap.get?_map map (fun _ => Label.text)] at mapped
  cases found : OrderedMap.get? map name with
  | none => simp [found] at mapped
  | some text =>
    simp only [found, Option.map_some, Option.filter_some, Option.ite_none_right_eq_some,
      Option.some.injEq] at mapped
    exact ⟨text, mapped.2.symm⟩

/-- A field whose type is a text is filed under a text. -/
theorem categoryOf_text (fieldKey : String) {node : Node} {name : String}
    (label : node.typeLabel = .text name) :
    ∃ category, filing.categoryOf fieldKey node = .ok (.text category) := by
  have chosen (type : String) : ∃ chosen, ((mappedLabel? (labels filing.fieldMap) type <|>
      mappedLabel? (labels filing.fieldMap) (Text.lowercase fieldKey)).getD (.text type)) =
        .text chosen := by
    cases own : mappedLabel? (labels filing.fieldMap) type with
    | some label =>
      obtain ⟨text, rfl⟩ := mapped_text filing.fieldMap type own
      exact ⟨text, rfl⟩
    | none =>
      cases other : mappedLabel? (labels filing.fieldMap) (Text.lowercase fieldKey) with
      | some label =>
        obtain ⟨text, rfl⟩ := mapped_text filing.fieldMap _ other
        exact ⟨text, rfl⟩
      | none => exact ⟨type, rfl⟩
  have named (type : String) : ∃ category,
      ((OrderedMap.get? (labels filing.typeMap) type).getD (.text type)) = .text category := by
    rw [labels, OrderedMap.get?_map filing.typeMap (fun _ => Label.text)]
    cases OrderedMap.get? filing.typeMap type <;> exact ⟨_, rfl⟩
  simp only [categoryOf, category, label]
  split
  · obtain ⟨type, mapped⟩ := chosen (Text.lowercase fieldKey)
    obtain ⟨category, found⟩ := named type
    exact ⟨category, by
      simp only [Label.hashable, mapped, found, bind, Except.bind, pure, Except.pure]⟩
  · obtain ⟨type, mapped⟩ := chosen name
    obtain ⟨category, found⟩ := named type
    exact ⟨category, by
      simp only [Label.hashable, mapped, found, bind, Except.bind, pure, Except.pure]⟩

/-- An object of a field whose type is a text can be filed. -/
theorem fileObject_ok (node : Node) (category : String) (object : OrderedMap String Json)
    (batch : Batch τ) : ∃ result, filing.fileObject node (.text category) object batch = .ok result := by
  cases identified : entityIdOf object filing.custom <;> simp [fileObject, identified]

private theorem foldlM_ok {α β ε : Type} {step : β → α → Except ε β}
    (each : ∀ state item, ∃ next, step state item = .ok next) (items : List α) (state : β) :
    ∃ final, items.foldlM step state = .ok final := by
  induction items generalizing state with
  | nil => exact ⟨state, rfl⟩
  | cons item rest ih =>
    obtain ⟨next, stepped⟩ := each state item
    obtain ⟨final, folded⟩ := ih next
    exact ⟨final, by simp [stepped, folded, bind, Except.bind]⟩

/-- What a relation leads to can be filed when every object there can be filed below. -/
private theorem fileField_ok {key : String} {entries : List (String × Entry)} {name : String}
    (label : Node.typeLabel entries = .text name)
    (below : ∀ inner batch, ∃ after, filing.fileFields inner batch entries = .ok after)
    (object : OrderedMap String Json) (batch : Batch τ) :
    ∃ after, filing.fileField key object batch (.relation entries) = .ok after := by
  obtain ⟨category, categorized⟩ := filing.categoryOf_text key label
  have each (batch : Batch τ) (inner : OrderedMap String Json) : ∃ next, (do
      let below ← filing.fileFields inner batch entries
      return (← filing.fileObject entries (.text category) inner below).1 : Except Malformed (Batch τ)) =
        .ok next := by
    obtain ⟨middle, entered⟩ := below inner batch
    obtain ⟨result, filed⟩ := filing.fileObject_ok entries category inner middle
    exact ⟨result.1, by simp [entered, filed, bind, Except.bind, pure, Except.pure]⟩
  cases found : OrderedMap.get? object key with
  | none => exact ⟨batch, by simp [fileField, found]⟩
  | some value =>
    by_cases missing : value = .null
    · exact ⟨batch, by simp [fileField, found, missing]⟩
    · obtain ⟨after, filed⟩ := foldlM_ok each (objectsOf value) batch
      refine ⟨after, ?_⟩
      simp only [fileField, found, categorized]
      exact filed

private theorem fileEntries_ok {entries : List (String × Entry)} {object : OrderedMap String Json}
    (each : ∀ key inner, isReserved key = false → (key, Entry.relation inner) ∈ entries → ∀ batch,
      ∃ after, filing.fileField key object batch (.relation inner) = .ok after) (batch : Batch τ) :
    ∃ after, filing.fileFields object batch entries = .ok after := by
  induction entries generalizing batch with
  | nil => exact ⟨batch, rfl⟩
  | cons entry rest ih =>
    obtain ⟨key, entry⟩ := entry
    have others := ih fun key inner plain member =>
      each key inner plain (List.mem_cons_of_mem _ member)
    cases reserved : isReserved key with
    | true =>
      obtain ⟨after, filed⟩ := others batch
      exact ⟨after, by simp [fileFields, reserved, filed, bind, Except.bind]⟩
    | false =>
      obtain ⟨middle, first⟩ : ∃ middle, filing.fileField key object batch entry = .ok middle := by
        cases entry with
        | requested => exact ⟨batch, rfl⟩
        | literal value => exact ⟨batch, rfl⟩
        | relation inner => exact each key inner reserved (List.mem_cons_self ..) batch
      obtain ⟨after, filed⟩ := others middle
      exact ⟨after, by simp [fileFields, reserved, first, filed, bind, Except.bind]⟩

/-- Filing below a node that is labelled throughout succeeds. -/
theorem fileFields_ok {node : Node} (labelled : node.Labelled) (object : OrderedMap String Json)
    (batch : Batch τ) : ∃ after, filing.fileFields object batch node = .ok after := by
  induction labelled generalizing object batch with
  | intro label inside ih =>
    refine filing.fileEntries_ok (fun key inner plain member batch => ?_) batch
    obtain ⟨own, _⟩ := inside key inner plain member
    exact filing.fileField_ok own (ih key inner plain member) object batch

/-- An object of a root can be filed after what is below it. -/
private theorem fileItem_ok {node : Node} (labelled : node.Labelled) (category : String)
    (state : Batch τ × List String) (object : OrderedMap String Json) :
    ∃ next, (do
      let below ← filing.fileFields object state.1 node
      let (filed, key) ← filing.fileObject node (.text category) object below
      return (filed, state.2 ++ key.toList) : Except Malformed (Batch τ × List String)) =
        .ok next := by
  obtain ⟨middle, entered⟩ := filing.fileFields_ok labelled object state.1
  obtain ⟨result, filed⟩ := filing.fileObject_ok node category object middle
  exact ⟨(result.1, state.2 ++ result.2.toList), by
    simp [entered, filed, bind, Except.bind, pure, Except.pure]⟩

/-- A root that is labelled throughout and has a key can be filed. -/
theorem fileRoot_ok {node : Node} (labelled : node.Labelled) {key : Label}
    (named : node.queryKey filing.custom = .ok key) (fieldKey : String) (value : Json)
    (batch : Batch τ) : ∃ after, filing.fileRoot fieldKey node value batch = .ok after := by
  obtain ⟨label, _⟩ := id labelled
  obtain ⟨category, categorized⟩ := filing.categoryOf_text fieldKey label
  obtain ⟨⟨filed, keys⟩, folded⟩ :=
    foldlM_ok (filing.fileItem_ok labelled category) (objectsOf value) (batch, [])
  refine ⟨{ filed with queries := filed.queries ++
    [⟨key, .text category, keys, filing.fromMutation, filing.expiresAt⟩] }, ?_⟩
  simp only [fileRoot, categorized, named, bind, Except.bind] at folded ⊢
  rw [folded]
  rfl

/-- Data can be filed under roots that are labelled throughout and have keys. -/
theorem batchOf_ok {prototype : Prototype}
    (ready : ∀ root ∈ prototype, root.2.Labelled ∧ ∃ key, root.2.queryKey filing.custom = .ok key)
    (data : OrderedMap String Json) :
    ∃ batch, filing.batchOf prototype (.object data) = .ok batch := by
  have roots : ∀ batch, ∃ after, filing.fileRoots data prototype batch = .ok after := by
    induction prototype with
    | nil => exact fun batch => ⟨batch, rfl⟩
    | cons root rest ih =>
      obtain ⟨⟨labelled, key, named⟩, others⟩ := List.forall_mem_cons.mp ready
      intro batch
      obtain ⟨fieldKey, node⟩ := root
      cases found : OrderedMap.get? data fieldKey with
      | none =>
        obtain ⟨after, filed⟩ := ih others batch
        exact ⟨after, by simp [fileRoots, found, filed]⟩
      | some value =>
        by_cases missing : value = .null
        · obtain ⟨after, filed⟩ := ih others batch
          exact ⟨after, by simp [fileRoots, found, missing, filed]⟩
        · obtain ⟨middle, first⟩ := filing.fileRoot_ok labelled named fieldKey value batch
          obtain ⟨after, filed⟩ := ih others middle
          exact ⟨after, by simp [fileRoots, found, first, filed, bind, Except.bind]⟩
  obtain ⟨batch, filed⟩ := roots .empty
  rw [batchOf]
  split
  · exact ⟨.empty, rfl⟩
  · exact ⟨batch, by simp [dataFields, filed, bind, Except.bind]⟩

end Filing

/-- The roots of a document without fragments are those its selections name last. -/
theorem Document.mem_expanded {document : Document} {custom : Option String}
    (eligible : (document.compile custom).route = .query) (shared : document.fragments = [])
    {root : String × Node} (member : root ∈ document.expanded custom) :
    ∃ field, Selection.last? document.rootSelections root.1 = some field ∧
      root.2 = field.1.node custom field.2 := by
  rw [expanded_eq eligible shared] at member
  exact mem_translatedRoots member

namespace Store

variable {τ : Type} [Instant τ]

theorem write_ok {store : Store τ} (ready : store.Open) (now : τ) (batch : Batch τ) :
    ∃ after, store.write now batch = .ok after := by
  match store with
  | .memory state => exact ⟨_, rfl⟩
  | .tables (some state) => exact ⟨_, rfl⟩
  | .tables none => exact absurd rfl ready

/-- A store that can be read takes every deposit that can be filed. -/
theorem deposit_ok {store : Store τ} (ready : store.Open) {settings : StoreSettings τ} {now : τ}
    {deposit : Deposit τ} {batch : Batch τ}
    (filed : (deposit.filing settings now).batchOf deposit.prototype deposit.data = .ok batch) :
    ∃ result, store.deposit settings now deposit = .ok result := by
  obtain ⟨after, written⟩ := write_ok ready now batch
  by_cases empty : batch.size = 0 <;>
    simp [Store.deposit, filed, empty, written, Except.mapError, bind, Except.bind, pure, Except.pure]

/-- It takes every answer whose data has fields, under roots that are typed throughout. -/
theorem deposit_of_ready {store : Store τ} (ready : store.Open) {settings : StoreSettings τ}
    {now : τ} {deposit : Deposit τ} {fields : OrderedMap String Json}
    (roots : ∀ custom, ∀ root ∈ deposit.prototype,
      root.2.Typed ∧ ∃ key, root.2.queryKey custom = .ok (.text key))
    (read : dataFields deposit.data = .ok fields) :
    ∃ result, store.deposit settings now deposit = .ok result := by
  obtain ⟨batch, made⟩ := (deposit.filing settings now).batchOf_ok (fun root member => by
    obtain ⟨typed, key, named⟩ := roots (deposit.filing settings now).custom root member
    exact ⟨typed.labelled, .text key, named⟩) fields
  have same : (deposit.filing settings now).batchOf deposit.prototype deposit.data =
      (deposit.filing settings now).batchOf deposit.prototype (.object fields) := by
    rw [Filing.batchOf, Filing.batchOf, read, dataFields]
  exact deposit_ok ready (same.trans made)

end Store

namespace Client

variable {τ : Type} [Instant τ] {client : Client τ} {call : Call} {settings : Settings}
  {document : Document}

omit [Instant τ] in
/-- A root under which every relation keeps its type mark can be looked up and filed. -/
private theorem expanded_ready (queries : client.Queries call settings document)
    (shared : document.fragments = [])
    (typed : ∀ root field, Selection.last? document.rootSelections root = some field →
      Selection.Typed field.2) (custom : Option String) :
    ∀ root ∈ document.expanded settings.cache.custom,
      root.2.Typed ∧ ∃ key, root.2.queryKey custom = .ok (.text key) := by
  intro root member
  obtain ⟨field, last, same⟩ := Document.mem_expanded queries.eligible shared member
  have own := typed root.1 field last
  obtain ⟨unmarked, _⟩ := id own
  rw [same]
  exact ⟨field.1.node_typed _ own, field.1.queryKey_text _ unmarked custom⟩

/-- Roots that have texts for keys can all be looked up. -/
theorem lookupRoots_of_texts {store : Store τ} (ready : store.Open) {prototype : Prototype}
    {custom : Option String}
    (texts : ∀ root ∈ prototype, ∃ key, root.2.queryKey custom = .ok (.text key)) (now : τ) :
    ∃ cached, lookupRoots store now custom prototype = .ok cached := by
  refine lookupRoots_ok fun root member => ?_
  obtain ⟨key, named⟩ := texts root member
  obtain ⟨records, recalled⟩ : ∃ records, store.recall now (.text key) = .ok records :=
    Store.recall_ok ready rfl
  exact ⟨records, .text key, named, recalled⟩

omit [Instant τ] in
/-- An answer whose data has fields can be completed. -/
theorem complete_ok {answer : Answer} {fields : OrderedMap String Json}
    (read : dataFields (dataOf answer) = .ok fields) (prototype : Prototype)
    (custom : Option String) (cached : OrderedMap String (List (Record τ))) :
    ∃ returned, complete prototype custom cached answer = .ok returned := by
  rw [complete, read]
  split <;> exact ⟨_, rfl⟩

/-- Where every relation keeps its type mark, both steps of a call return. -/
theorem call_returns (queries : client.Queries call settings document)
    (shared : document.fragments = [])
    (typed : ∀ root field, Selection.last? document.rootSelections root = some field →
      Selection.Typed field.2) {store held : Store τ} (ready : store.Open) (stays : held.Open)
    (early now : τ) {delivery : Delivery} {answer : Answer} {data : OrderedMap String Json}
    (delivered : delivery.answer call.endpoint = .ok answer) (object : dataOf answer = .object data) :
    ∃ opening returned, (client.begin call store early).result = .ok opening ∧
      (client.finish opening delivery held now).result = .ok returned := by
  have roots := expanded_ready queries shared typed
  have read : dataFields (dataOf answer) = .ok data := by rw [object]; rfl
  obtain ⟨cached, looked⟩ := lookupRoots_of_texts ready
    (fun root member => (roots (client.lookupName settings) root member).2) early
  obtain ⟨⟨after, batch⟩, stored⟩ : ∃ result, held.deposit client.filing now (deposit settings call
      (document.expanded settings.cache.custom) false (dataOf answer)) = .ok result :=
    Store.deposit_of_ready stays (fun custom => roots custom) read
  obtain ⟨returned, completed⟩ := complete_ok read (document.expanded settings.cache.custom)
    settings.cache.custom cached
  refine ⟨⟨request settings call "POST", queryPlan settings call document cached⟩, returned,
    (begin_ok_iff queries).mpr ⟨cached, looked, rfl⟩, ?_⟩
  have endpoint : (request settings call "POST").endpoint = call.endpoint := rfl
  simp only [finish, carryOut, queryPlan, file, endpoint, delivered, stored]
  simp [completed, Except.mapError]

section Conforming
variable (queries : client.Queries call settings document) {operation : Operation}
  (single : document.operations = [operation]) (shared : document.fragments = [])
  (plain : Selection.anySpreads operation.selections = false) (store held : Store τ) (early now : τ)
  {delivery : Delivery} {answer : Answer} {data : OrderedMap String Json}
  (delivered : delivery.answer call.endpoint = .ok answer) (object : dataOf answer = .object data)
  (conforms : Selection.Conforms operation.selections (.object data))
include queries single shared plain delivered object conforms

private theorem returned_same_iff {opening : Opening τ} {returned : Answer}
    (begun : (client.begin call store early).result = .ok opening)
    (finished : (client.finish opening delivery held now).result = .ok returned) :
    Json.Same (dataOf returned) (dataOf answer) ↔
      lookupRoots store early (client.lookupName settings)
          (document.expanded settings.cache.custom) = .ok [] ∨
        Selection.CoversRoots operation.selections data := by
  obtain ⟨cached, looked, rfl⟩ := (begin_ok_iff queries).mp begun
  obtain ⟨answer', _, delivered', _, completed⟩ := finish_ok finished
  cases Except.ok.inj (delivered'.symm.trans delivered)
  rw [looked, object]
  cases cached with
  | nil =>
    cases completed
    exact iff_of_true (object ▸ .refl _) (.inl rfl)
  | cons found others =>
    simp only [complete, object, dataFields, List.isEmpty_cons, Bool.false_eq_true, ↓reduceIte,
      bind, Except.bind, pure, Except.pure, Except.ok.injEq] at completed
    subst completed
    have roots : document.expanded settings.cache.custom =
        OrderedMap.ofList (Selection.relationsOf settings.cache.custom operation.selections) := by
      rw [Document.expanded_eq queries.eligible shared, Document.translatedRoots_eq,
        Document.rootSelections_of_single single]
    have whole := Selection.mergeRoots_same_iff settings.cache.custom plain conforms
      (found :: others)
    rw [← roots] at whole
    refine whole.trans ⟨.inr, ?_⟩
    rintro (none | covers)
    · cases none
    · exact covers

/-- A call with a document of one operation without fragments, whose answer carries exactly
what the operation selects. The data that it returns is that of the answer if and only if
nothing was cached for it or every root is covered by the selection set that was written
last for it. The call does return where every relation keeps its type mark. -/
theorem answer_unchanged_iff :
    (∀ opening returned, (client.begin call store early).result = .ok opening →
      (client.finish opening delivery held now).result = .ok returned →
      (Json.Same (dataOf returned) (dataOf answer) ↔
        lookupRoots store early (client.lookupName settings)
            (document.expanded settings.cache.custom) = .ok [] ∨
          Selection.CoversRoots operation.selections data)) ∧
    (store.Open → held.Open → (∀ root field,
        Selection.last? operation.selections root = some field → Selection.Typed field.2) →
      ∃ opening returned, (client.begin call store early).result = .ok opening ∧
        (client.finish opening delivery held now).result = .ok returned) := by
  have selected := Document.rootSelections_of_single single
  refine ⟨fun opening returned begun finished => ?_, fun ready stays typed => ?_⟩
  · exact returned_same_iff queries single shared plain store held early now delivered object
      conforms begun finished
  · exact call_returns queries shared (selected ▸ typed) ready stays early now delivered object

/-- A document that repeats no relation in a selection set and names no field below a root
like a mark always gets the data of the answer. -/
theorem answer_unchanged_of_distinct (ready : store.Open) (stays : held.Open)
    (unique : ((Selection.branches operation.selections).map Prod.fst).Nodup)
    (distinct : ∀ root field, Selection.last? operation.selections root = some field →
      Selection.Distinct field.2) :
    ∃ opening returned, (client.begin call store early).result = .ok opening ∧
      (client.finish opening delivery held now).result = .ok returned ∧
      Json.Same (dataOf returned) (dataOf answer) := by
  have selected := Document.rootSelections_of_single single
  obtain ⟨opening, returned, begun, finished⟩ := call_returns queries shared
    (fun root field found => (distinct root field (selected ▸ found)).typed) ready stays early now
    delivered object
  refine ⟨opening, returned, begun, finished, ?_⟩
  exact (returned_same_iff queries single shared plain store held early now delivered object
    conforms begun finished).mpr (.inr (Selection.coversRoots_of_distinct unique distinct conforms))

end Conforming

end Client

/-! ## A list that is found in the cache -/

namespace Countries

/-- The store that the call for all countries leaves behind. -/
def filled : Store Int := (Client.standard.finish opening delivery store 1).store

theorem conforms : Selection.Conforms operation.selections (.object [("countries", value)]) := by
  refine .object (fun key => ?_) fun key found member carried => ?_
  · rw [OrderedMap.get?_isSome_iff]
    simp [operation, OrderedMap.keys, Selection.responseKeys, Selection.leafKeys,
      Selection.branches, FieldHead.responseKey]
  · have root : key = "countries" := by
      simpa [operation, Selection.branches, FieldHead.responseKey] using member
    subst root
    cases carried
    refine .array fun item inside => ?_
    simp only [List.mem_cons, List.not_mem_nil, or_false] at inside
    rcases inside with rfl | rfl
    all_goals
      refine .object (fun key => ?_) fun key found member carried => ?_
      · rw [OrderedMap.get?_isSome_iff]
        simp [operation, OrderedMap.keys, Selection.responseKeys, Selection.leafKeys,
          Selection.branches, Selection.merged, FieldHead.responseKey]
      · simp [operation, Selection.branches, Selection.merged, FieldHead.responseKey] at member

theorem distinct : ∀ root field, Selection.last? operation.selections root = some field →
    Selection.Distinct field.2 := by
  intro root field found
  have member := Selection.mem_of_last? found
  simp only [operation, Selection.branches, List.filterMap_cons, List.filterMap_nil,
    List.mem_singleton, Prod.mk.injEq] at member
  obtain ⟨rfl, rfl⟩ := member
  exact .intro (by decide) (by decide) fun key field found => by cases found

end Countries

open Countries in
theorem Client.answer_unchanged_countries :
    lookupRoots filled 2 (Client.standard.lookupName .standard) (document.expanded none) ≠ .ok [] ∧
      ∃ opening returned, (Client.standard.begin call filled 2).result = .ok opening ∧
        (Client.standard.finish opening delivery filled 3).result = .ok returned ∧
        Json.Same (dataOf returned) (.object [("countries", value)]) := by
  have delivered : delivery.answer call.endpoint =
      .ok [("data", .object [("countries", value)])] := except_ok_of_toOption (by decide +kernel)
  have unique : ((Selection.branches operation.selections).map Prod.fst).Nodup := by decide
  have single : document.operations = [operation] := rfl
  obtain ⟨unchanged, returns⟩ :=
    answer_unchanged_iff queries single rfl rfl filled filled 2 3 delivered rfl conforms
  have ready : filled.Open := show filled ≠ .tables none by decide +kernel
  have found : (lookupRoots filled 2 (Client.standard.lookupName .standard)
      (document.expanded none)).toOption ≠ some [] := by decide +kernel
  obtain ⟨opening, returned, begun, finished⟩ :=
    returns ready ready fun root field found => (distinct root field found).typed
  have covered := Selection.coversRoots_of_distinct unique distinct conforms
  exact ⟨fun none => found (by rw [none]; rfl), opening, returned, begun, finished,
    (unchanged _ _ begun finished).mpr (.inr covered)⟩

/-! ## A relation that is selected twice -/

namespace Twice

def call : Call :=
  ⟨"https://api.example.test/graphql",
    "\x7b country(id: 1) \x7b id name \x7d country(id: 1) \x7b id capital \x7d \x7d", [], [], [], []⟩

def head : FieldHead := ⟨none, "country", [⟨"id", .int "1"⟩], []⟩

def operation : Operation :=
  ⟨.query, none, [], [],
    [.relation head [.leaf ⟨none, "id", [], []⟩, .leaf ⟨none, "name", [], []⟩],
     .relation head [.leaf ⟨none, "id", [], []⟩, .leaf ⟨none, "capital", [], []⟩]]⟩

def document : Document := ⟨[.operation operation]⟩

def data : Json :=
  .object [("country", .object [("id", .int 1), ("name", .string "Peru"), ("capital", .string "Lima")])]

def delivery : Delivery := .answered 200 (Json.print Json.bodyStyle (.object [("data", data)]))

/-- What is left of the country. -/
def rest : Json := .object [("country", .object [("id", .int 1), ("capital", .string "Lima")])]

/-- A store in which the same call has left its record. -/
def record : Record Int :=
  ⟨"country--1", "country", "1", [("id", .int 1), ("capital", .string "Lima")], false, some 601⟩

def store : Store Int :=
  .memory ⟨[("country--1", record)],
    [(.text "country--1", ⟨.text "country--1", .text "country", ["country--1"], false, some 601⟩)]⟩

def opening : Opening Int :=
  ⟨Client.request .standard call "POST",
    Client.queryPlan .standard call document [("country", [record])]⟩

set_option maxRecDepth 4000 in
theorem queries : Client.standard.Queries call .standard document := ⟨rfl, by cbv, by decide⟩

theorem conforms : Selection.Conforms operation.selections data := by
  refine .object (fun key => ?_) fun key found member carried => ?_
  · rw [OrderedMap.get?_isSome_iff]
    simp [operation, head, OrderedMap.keys, Selection.responseKeys, Selection.leafKeys,
      Selection.branches, FieldHead.responseKey]
  · have root : key = "country" := by
      simpa [operation, head, Selection.branches, FieldHead.responseKey] using member
    subst root
    cases carried
    refine .object (fun key => ?_) fun key found member carried => ?_
    · rw [OrderedMap.get?_isSome_iff]
      simp [operation, head, OrderedMap.keys, Selection.responseKeys, Selection.leafKeys,
        Selection.branches, Selection.merged, FieldHead.responseKey]
      tauto
    · simp [operation, head, Selection.branches, Selection.merged, FieldHead.responseKey] at member

end Twice

open Twice in
/-- The second time the call is made, the name of the country is missing. -/
theorem Client.answer_loses_name :
    Client.standard.Queries call .standard document ∧ document.operations = [operation] ∧
      document.fragments = [] ∧ Selection.anySpreads operation.selections = false ∧
      delivery.answer call.endpoint = .ok [("data", data)] ∧
      Selection.Conforms operation.selections data ∧
      (Client.standard.begin call store 2).result = .ok opening ∧
      (Client.standard.finish opening delivery store 3).result = .ok [("data", rest)] ∧
      ¬Json.Same rest data := by
  refine ⟨queries, rfl, rfl, rfl, except_ok_of_toOption (by decide +kernel), conforms,
    (begin_ok_iff queries).mpr ⟨[("country", [record])],
      except_ok_of_toOption (by decide +kernel), rfl⟩, except_ok_of_toOption (by decide +kernel), ?_⟩
  intro same
  have countries := (Json.same_object.mp same).2 "country" _ _ rfl rfl
  have names := (Json.same_object.mp countries).1 "name"
  simp [OrderedMap.get?] at names

end GraphCache
