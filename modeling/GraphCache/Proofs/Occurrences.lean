import GraphCache.Proofs.OrderedMap
import GraphCache.Proofs.Outcomes
import GraphCache.Record.Filing

/-! Filing an answer, told by its objects in the order in which they are met. What a
batch holds in the end depends on that order alone: every key that an object has is
held, and of several values met under one key and field the last one stays. Every root
with a value leaves one index entry, which names the keys of its own objects. -/
namespace GraphCache

/-- In lists that are related one by one, every member of the second is related to one of the
first. -/
theorem exists_related {α β : Type} {related : α → β → Prop} {left : List α} {right : List β}
    (all : List.Forall₂ related left right) {second : β} (member : second ∈ right) :
    ∃ first ∈ left, related first second := by
  induction all with
  | nil => cases member
  | cons own others ih =>
    obtain rfl | later := List.mem_cons.mp member
    · exact ⟨_, List.mem_cons_self, own⟩
    · obtain ⟨first, inside, same⟩ := ih later
      exact ⟨first, List.mem_cons_of_mem _ inside, same⟩

/-- An object of an answer with the field it was met under and the node of that field. -/
structure Occurrence where
  fieldKey : String
  node : Node
  object : OrderedMap String Json

/-- What an object carries of a field that its node requests. -/
def Occurrence.carried? (occurrence : Occurrence) (field : String) : Option Json :=
  if OrderedMap.contains occurrence.node.fields field then
    OrderedMap.get? occurrence.object field
  else none

mutual

/-- The objects below a field of an object, each after the objects inside it. -/
def Entry.occurrences (fieldKey : String) (object : OrderedMap String Json) :
    Entry → List Occurrence
  | .relation entries =>
    (objectsOf ((OrderedMap.get? object fieldKey).getD .null)).flatMap fun inner =>
      Entry.occurrencesIn inner entries ++ [⟨fieldKey, entries, inner⟩]
  | .requested => []
  | .literal _ => []

/-- The objects below the fields of an object, field by field. -/
def Entry.occurrencesIn (object : OrderedMap String Json) :
    List (String × Entry) → List Occurrence
  | [] => []
  | (key, entry) :: rest =>
    (if isReserved key then [] else entry.occurrences key object) ++
      Entry.occurrencesIn object rest

end

/-- The objects of a value under a node, each after the objects inside it. -/
def Node.occurrences (fieldKey : String) (node : Node) (value : Json) : List Occurrence :=
  (objectsOf value).flatMap fun object =>
    Entry.occurrencesIn object node ++ [⟨fieldKey, node, object⟩]

namespace Prototype

/-- The roots for which the data has a value that is not null, with that value. -/
def carriedRoots (prototype : Prototype) (data : OrderedMap String Json) :
    List (String × Node × Json) :=
  prototype.filterMap fun root =>
    match OrderedMap.get? data root.1 with
    | none => none
    | some .null => none
    | some value => some (root.1, root.2, value)

theorem mem_of_carried {prototype : Prototype} {data : OrderedMap String Json}
    {root : String × Node × Json} (carried : root ∈ prototype.carriedRoots data) :
    (root.1, root.2.1) ∈ prototype := by
  obtain ⟨entry, member, value⟩ := List.mem_filterMap.mp carried
  split at value <;> cases value
  exact member

/-- The objects of an answer in the order in which they are filed. -/
def occurrences (prototype : Prototype) (data : OrderedMap String Json) : List Occurrence :=
  (prototype.carriedRoots data).flatMap fun root => root.2.1.occurrences root.1 root.2.2

end Prototype

/-! ## Nodes of objects -/

/-- A property that the nodes of all fields below a node have if it has it. -/
def Node.Inherited (property : Node → Prop) : Prop :=
  ∀ node key entries, property node → isReserved key = false →
    (key, Entry.relation entries) ∈ node → property entries

mutual

private theorem occurrences_inherit {property : Node → Prop}
    (inherited : Node.Inherited property) (fieldKey : String) (object : OrderedMap String Json)
    (entry : Entry) (own : ∀ entries, entry = .relation entries → property entries) :
    ∀ occurrence ∈ entry.occurrences fieldKey object, property occurrence.node := by
  match entry with
  | .requested => simp [Entry.occurrences]
  | .literal _ => simp [Entry.occurrences]
  | .relation entries =>
    intro occurrence member
    rw [Entry.occurrences] at member
    obtain ⟨inner, _, inside⟩ := List.mem_flatMap.mp member
    have here := own entries rfl
    obtain below | last := List.mem_append.mp inside
    · exact occurrencesIn_inherit inherited inner entries
        (fun key below plain written => inherited entries key below here plain written)
        occurrence below
    · rw [List.mem_singleton.mp last]
      exact here

private theorem occurrencesIn_inherit {property : Node → Prop}
    (inherited : Node.Inherited property) (object : OrderedMap String Json)
    (entries : List (String × Entry))
    (each : ∀ key inner, isReserved key = false → (key, Entry.relation inner) ∈ entries →
      property inner) :
    ∀ occurrence ∈ Entry.occurrencesIn object entries, property occurrence.node := by
  match entries with
  | [] => simp [Entry.occurrencesIn]
  | (key, entry) :: rest =>
    intro occurrence member
    rw [Entry.occurrencesIn] at member
    obtain own | later := List.mem_append.mp member
    · split at own
      · cases own
      · rename_i plain
        refine occurrences_inherit inherited key object entry (fun inner same => ?_) occurrence own
        exact each key inner (by simpa using plain) (same ▸ List.mem_cons_self)
    · exact occurrencesIn_inherit inherited object rest
        (fun name inner plain written => each name inner plain (List.mem_cons_of_mem _ written))
        occurrence later

end

/-- What all roots have and fields inherit, the nodes of all objects have. -/
theorem Prototype.occurrences_inherit {property : Node → Prop}
    (inherited : Node.Inherited property) {prototype : Prototype}
    (roots : ∀ root ∈ prototype, property root.2) (data : OrderedMap String Json) :
    ∀ occurrence ∈ prototype.occurrences data, property occurrence.node := by
  intro occurrence member
  obtain ⟨root, carried, below⟩ := List.mem_flatMap.mp member
  have own := roots _ (mem_of_carried carried)
  obtain ⟨object, _, inside⟩ := List.mem_flatMap.mp below
  obtain inner | last := List.mem_append.mp inside
  · exact occurrencesIn_inherit inherited object root.2.1
      (fun key below plain written => inherited _ key below own plain written) occurrence inner
  · rw [List.mem_singleton.mp last]
    exact own

namespace Filing

variable {τ : Type}

/-- The key under which an object is filed, if it can be addressed. -/
def keyOf? (filing : Filing τ) (occurrence : Occurrence) : Option String :=
  match filing.categoryOf occurrence.fieldKey occurrence.node with
  | .ok (.text name) => (entityIdOf occurrence.object filing.custom).map (entityKey name)
  | _ => none

/-- An object has a key exactly if it has an identifier. -/
def Addresses (filing : Filing τ) (occurrence : Occurrence) : Prop :=
  (filing.keyOf? occurrence).isSome = (entityIdOf occurrence.object filing.custom).isSome

/-- The keys of the objects of a value, in its order. -/
def keysOf (filing : Filing τ) (fieldKey : String) (node : Node) (value : Json) : List String :=
  (objectsOf value).filterMap fun object => filing.keyOf? ⟨fieldKey, node, object⟩

/-- What an object leaves behind under a key and a field. -/
def left? (filing : Filing τ) (key field : String) (occurrence : Occurrence) : Option Json :=
  if filing.keyOf? occurrence = some key then occurrence.carried? field else none

/-- The value of a field in the last object that was filed under a key, carries the field
and was asked for it. -/
def lastCarried? (filing : Filing τ) (occurrences : List Occurrence) (key field : String) :
    Option Json :=
  occurrences.reverse.findSome? (filing.left? key field)

theorem lastCarried?_snoc (filing : Filing τ) (occurrences : List Occurrence)
    (occurrence : Occurrence) (key field : String) :
    filing.lastCarried? (occurrences ++ [occurrence]) key field =
      (filing.left? key field occurrence).or (filing.lastCarried? occurrences key field) := by
  simp only [lastCarried?, List.reverse_append, List.reverse_singleton, List.singleton_append,
    List.findSome?_cons]
  cases filing.left? key field occurrence <;> rfl

/-- A field that some object leaves behind is found. -/
theorem lastCarried?_isSome (filing : Filing τ) {occurrences : List Occurrence}
    {occurrence : Occurrence} {key field : String} (member : occurrence ∈ occurrences)
    (carried : (filing.left? key field occurrence).isSome) :
    (filing.lastCarried? occurrences key field).isSome := by
  rw [lastCarried?, List.findSome?_isSome_iff]
  exact ⟨occurrence, List.mem_reverse.mpr member, carried⟩

/-! ## The data of one record -/

private theorem get?_carried (fields : List (String × Entry)) (object : OrderedMap String Json)
    (field : String) :
    OrderedMap.get? (fields.filterMap fun entry =>
        (OrderedMap.get? object entry.1).map fun value => (entry.1, value)) field =
      if OrderedMap.contains fields field then OrderedMap.get? object field else none := by
  induction fields with
  | nil => rfl
  | cons entry rest ih =>
    by_cases same : entry.1 = field
    · subst same
      cases found : OrderedMap.get? object entry.1 with
      | none =>
        simp only [List.filterMap_cons, found, Option.map_none, ih, ite_self]
      | some value => simp [found, OrderedMap.get?, OrderedMap.contains]
    · have skipped : OrderedMap.contains (entry :: rest) field = OrderedMap.contains rest field := by
        simp [OrderedMap.contains, OrderedMap.get?, same]
      rw [skipped, ← ih]
      cases found : OrderedMap.get? object entry.1 <;>
        simp [found, OrderedMap.get?, same]

private theorem contains_reverse (fields : List (String × Entry)) (field : String) :
    OrderedMap.contains fields.reverse field = OrderedMap.contains fields field := by
  rw [Bool.eq_iff_iff]
  simp only [OrderedMap.contains, OrderedMap.get?_isSome_iff]
  simp [OrderedMap.keys]

/-- The data of a record is what its object carries of the requested fields. -/
theorem get?_requestedData (occurrence : Occurrence) (field : String) :
    OrderedMap.get? (requestedData occurrence.node occurrence.object) field =
      occurrence.carried? field := by
  rw [requestedData, OrderedMap.get?_ofList, ← List.filterMap_reverse, get?_carried,
    contains_reverse]
  rfl

/-! ## Filing, object by object -/

/-- The record that an object leaves behind by itself, if it can be addressed. -/
def recordOf? (filing : Filing τ) (occurrence : Occurrence) : Option (Record τ) :=
  match filing.categoryOf occurrence.fieldKey occurrence.node with
  | .ok (.text name) => (entityIdOf occurrence.object filing.custom).map fun identifier =>
    ⟨entityKey name identifier, name, identifier,
      requestedData occurrence.node occurrence.object, filing.fromMutation, filing.expiresAt⟩
  | _ => none

/-- Records with one more. The first record under a key stays, with the data of the later
ones over its own. -/
def put (entities : OrderedMap String (Record τ)) (record : Record τ) :
    OrderedMap String (Record τ) :=
  OrderedMap.insert entities record.key <|
    match OrderedMap.get? entities record.key with
    | some existing => { existing with data := OrderedMap.overlay existing.data record.data }
    | none => record

/-- Records with those that the objects leave behind one after another. -/
def filed (filing : Filing τ) (entities : OrderedMap String (Record τ))
    (occurrences : List Occurrence) : OrderedMap String (Record τ) :=
  (occurrences.filterMap filing.recordOf?).foldl put entities

theorem filed_append (filing : Filing τ) (entities : OrderedMap String (Record τ))
    (first second : List Occurrence) :
    filing.filed entities (first ++ second) = filing.filed (filing.filed entities first) second := by
  simp [filed]

theorem key_recordOf? (filing : Filing τ) (occurrence : Occurrence) :
    (filing.recordOf? occurrence).map Record.key = filing.keyOf? occurrence := by
  unfold recordOf? keyOf?
  split
  · rw [Option.map_map]
    rfl
  · rfl

/-- A record has what its object carries, and expires with all that is filed. -/
theorem recordOf?_data {filing : Filing τ} {occurrence : Occurrence} {record : Record τ}
    (found : filing.recordOf? occurrence = some record) :
    record.data = requestedData occurrence.node occurrence.object ∧
      record.expiresAt = filing.expiresAt := by
  unfold recordOf? at found
  split at found
  · obtain ⟨identifier, _, rfl⟩ := Option.map_eq_some_iff.mp found
    exact ⟨rfl, rfl⟩
  · cases found

/-- Every record that is left behind is that of one of the objects, but for its data. -/
theorem mem_filed {filing : Filing τ} {occurrences : List Occurrence}
    {entry : String × Record τ} (member : entry ∈ filing.filed [] occurrences) :
    ∃ occurrence ∈ occurrences, ∃ own, filing.recordOf? occurrence = some own ∧
      entry = (own.key, { own with data := entry.2.data }) := by
  -- Records that are the objects' own but for their data stay so when one more is put to them.
  let Own (entry : String × Record τ) : Prop := ∃ own ∈ occurrences.filterMap filing.recordOf?,
    entry = (own.key, { own with data := entry.2.data })
  have kept (records : List (Record τ)) (known : records ⊆ occurrences.filterMap filing.recordOf?)
      (entities : OrderedMap String (Record τ)) (each : ∀ entry ∈ entities, Own entry) :
      ∀ entry ∈ records.foldl put entities, Own entry := by
    induction records generalizing entities with
    | nil => exact each
    | cons record rest ih =>
      obtain ⟨first, others⟩ := List.cons_subset.mp known
      refine ih others _ fun entry inside => ?_
      obtain old | rfl := OrderedMap.mem_of_mem_insert inside
      · exact each entry old
      · cases present : OrderedMap.get? entities record.key with
        | none => exact ⟨record, first, rfl⟩
        | some existing =>
          obtain ⟨own, listed, same⟩ := each _ (OrderedMap.mem_of_get?_eq_some present)
          obtain ⟨key, shape⟩ := Prod.mk.inj same
          exact ⟨own, listed, by rw [key, shape]⟩
  obtain ⟨own, listed, same⟩ := kept _ (List.Subset.refl _) [] (by simp) entry member
  obtain ⟨occurrence, inside, found⟩ := List.mem_filterMap.mp listed
  exact ⟨occurrence, inside, own, found, same⟩

/-- Filing one object puts its record to the others and keeps the index. It succeeds only with an
object that has a key if it has an identifier. -/
theorem fileObject_filed {filing : Filing τ} {batch after : Batch τ} {category : Label}
    {key : Option String} (occurrence : Occurrence)
    (categorized : filing.categoryOf occurrence.fieldKey occurrence.node = .ok category)
    (done : filing.fileObject occurrence.node category occurrence.object batch = .ok (after, key)) :
    after.entities = filing.filed batch.entities [occurrence] ∧ after.queries = batch.queries ∧
      key = filing.keyOf? occurrence ∧ filing.Addresses occurrence := by
  rw [Addresses]
  simp only [fileObject] at done
  cases identified : entityIdOf occurrence.object filing.custom with
  | none =>
    have keyless : filing.recordOf? occurrence = none := by
      cases category <;> simp [recordOf?, categorized, identified]
    simp only [identified] at done
    cases done
    exact ⟨by simp [filed, keyless], rfl, by simp [← key_recordOf?, keyless],
      by simp [← key_recordOf?, keyless]⟩
  | some identifier =>
    cases category with
    | displaced mark => simp [identified] at done
    | text name =>
      obtain ⟨record, same, found⟩ : ∃ record, record = ⟨entityKey name identifier, name, identifier,
          requestedData occurrence.node occurrence.object, filing.fromMutation, filing.expiresAt⟩ ∧
          filing.recordOf? occurrence = some record :=
        ⟨_, rfl, by simp [recordOf?, categorized, identified]⟩
      have put : filing.filed batch.entities [occurrence] = put batch.entities record := by
        rw [filed, List.filterMap_cons, found]
        rfl
      simp only [identified] at done
      cases done
      rw [put, same]
      exact ⟨rfl, rfl, by simp [← key_recordOf?, found, same], by simp [← key_recordOf?, found]⟩

/-- Filing an object after what is below it. -/
private theorem fileWithin_filed {filing : Filing τ} {batch below after : Batch τ}
    {fieldKey : String} {node : Node} {category : Label} {object : OrderedMap String Json}
    {key : Option String}
    (inside : below.entities = filing.filed batch.entities (Entry.occurrencesIn object node) ∧
      below.queries = batch.queries ∧
      ∀ occurrence ∈ Entry.occurrencesIn object node, filing.Addresses occurrence)
    (categorized : filing.categoryOf fieldKey node = .ok category)
    (done : filing.fileObject node category object below = .ok (after, key)) :
    after.entities = filing.filed batch.entities
        (Entry.occurrencesIn object node ++ [⟨fieldKey, node, object⟩]) ∧
      after.queries = batch.queries ∧ key = filing.keyOf? ⟨fieldKey, node, object⟩ ∧
      ∀ occurrence ∈ Entry.occurrencesIn object node ++ [⟨fieldKey, node, object⟩],
        filing.Addresses occurrence := by
  obtain ⟨early, kept, others⟩ := inside
  obtain ⟨entities, queries, keyed, addressed⟩ :=
    fileObject_filed ⟨fieldKey, node, object⟩ categorized done
  rw [filed_append, ← early]
  refine ⟨entities, queries.trans kept, keyed, List.forall_mem_append.mpr ⟨others, ?_⟩⟩
  exact List.forall_mem_singleton.mpr addressed

/-- Filing the objects of a value one after another, each after what is below it. -/
private theorem fileInner_filed {filing : Filing τ} {fieldKey : String} {node : Node}
    {category : Label}
    (inside : ∀ (inner : OrderedMap String Json) {batch below : Batch τ},
      filing.fileFields inner batch node = .ok below →
      below.entities = filing.filed batch.entities (Entry.occurrencesIn inner node) ∧
        below.queries = batch.queries ∧
        ∀ occurrence ∈ Entry.occurrencesIn inner node, filing.Addresses occurrence)
    (categorized : filing.categoryOf fieldKey node = .ok category)
    {objects : List (OrderedMap String Json)} {batch after : Batch τ}
    (done : objects.foldlM (fun filed inner => do
      let below ← filing.fileFields inner filed node
      return (← filing.fileObject node category inner below).1) batch = .ok after) :
    after.entities = filing.filed batch.entities (objects.flatMap fun inner =>
        Entry.occurrencesIn inner node ++ [⟨fieldKey, node, inner⟩]) ∧
      after.queries = batch.queries ∧
      ∀ occurrence ∈ objects.flatMap fun inner =>
        Entry.occurrencesIn inner node ++ [⟨fieldKey, node, inner⟩], filing.Addresses occurrence := by
  induction objects generalizing batch with
  | nil => cases done; exact ⟨rfl, rfl, by simp⟩
  | cons inner rest ih =>
    simp only [List.foldlM_cons, bind, except_bind_ok, pure, Except.pure, Except.ok.injEq] at done
    obtain ⟨middle, ⟨below, entered, ⟨⟨_, key⟩, own, rfl⟩⟩, later⟩ := done
    obtain ⟨early, kept, _, first⟩ := fileWithin_filed (inside inner entered) categorized own
    obtain ⟨late, same, others⟩ := ih later
    rw [List.flatMap_cons, filed_append, ← early]
    exact ⟨late, same.trans kept, List.forall_mem_append.mpr ⟨first, others⟩⟩

mutual

/-- Filing what a field leads to puts the records of the objects there to the others, all of which
have a key if they have an identifier. -/
theorem fileField_filed (filing : Filing τ) (fieldKey : String) (object : OrderedMap String Json)
    (entry : Entry) {batch after : Batch τ}
    (done : filing.fileField fieldKey object batch entry = .ok after) :
    after.entities = filing.filed batch.entities (entry.occurrences fieldKey object) ∧
      after.queries = batch.queries ∧
      ∀ occurrence ∈ entry.occurrences fieldKey object, filing.Addresses occurrence := by
  match entry with
  | .requested => cases done; exact ⟨rfl, rfl, by simp [Entry.occurrences]⟩
  | .literal _ => cases done; exact ⟨rfl, rfl, by simp [Entry.occurrences]⟩
  | .relation entries =>
    have inside : ∀ (inner : OrderedMap String Json) {batch below : Batch τ},
        filing.fileFields inner batch entries = .ok below →
        below.entities = filing.filed batch.entities (Entry.occurrencesIn inner entries) ∧
          below.queries = batch.queries ∧
          ∀ occurrence ∈ Entry.occurrencesIn inner entries, filing.Addresses occurrence :=
      fun inner _ _ done => fileFields_filed filing inner entries done
    rw [Entry.occurrences]
    cases found : OrderedMap.get? object fieldKey with
    | none =>
      simp only [fileField, found] at done
      cases done
      exact ⟨rfl, rfl, by simp [objectsOf]⟩
    | some value =>
      simp only [Option.getD_some]
      by_cases missing : value = .null
      · subst missing
        simp only [fileField, found] at done
        cases done
        exact ⟨rfl, rfl, by simp [objectsOf]⟩
      · simp only [fileField, found, bind, except_bind_ok] at done
        obtain ⟨category, categorized, folded⟩ := done
        exact fileInner_filed inside categorized folded

/-- Filing what the fields of an object lead to, field by field. -/
theorem fileFields_filed (filing : Filing τ) (object : OrderedMap String Json)
    (entries : List (String × Entry)) {batch after : Batch τ}
    (done : filing.fileFields object batch entries = .ok after) :
    after.entities = filing.filed batch.entities (Entry.occurrencesIn object entries) ∧
      after.queries = batch.queries ∧
      ∀ occurrence ∈ Entry.occurrencesIn object entries, filing.Addresses occurrence := by
  match entries with
  | [] => cases done; exact ⟨rfl, rfl, by simp [Entry.occurrencesIn]⟩
  | (key, entry) :: rest =>
    by_cases reserved : isReserved key = true
    · simp only [fileFields, reserved, ↓reduceIte] at done
      simpa [Entry.occurrencesIn, reserved] using fileFields_filed filing object rest done
    · simp only [fileFields, reserved, Bool.false_eq_true, ↓reduceIte, bind, except_bind_ok] at done
      obtain ⟨middle, first, later⟩ := done
      obtain ⟨early, kept, own⟩ := fileField_filed filing key object entry first
      obtain ⟨late, same, others⟩ := fileFields_filed filing object rest later
      rw [Entry.occurrencesIn, if_neg reserved, filed_append, ← early]
      exact ⟨late, same.trans kept, List.forall_mem_append.mpr ⟨own, others⟩⟩

end

/-! ## Filing roots -/

/-- The index entry of a root: it stands under the root's key and names the keys of the
root's objects in their order. Every object with an identifier has one. -/
structure Indexes (filing : Filing τ) (root : String × Node × Json) (entry : IndexEntry τ) :
    Prop where
  key : root.2.1.queryKey filing.custom = .ok entry.key
  category : filing.categoryOf root.1 root.2.1 = .ok entry.typeName
  entityKeys : entry.entityKeys = filing.keysOf root.1 root.2.1 root.2.2
  addressed : ∀ object ∈ objectsOf root.2.2,
    (filing.keyOf? ⟨root.1, root.2.1, object⟩).isSome = (entityIdOf object filing.custom).isSome
  expires : entry.expiresAt = filing.expiresAt

/-- Filing the objects of a root one after another, with their keys in order. -/
private theorem fileItems_filed {filing : Filing τ} {fieldKey : String} {node : Node}
    {category : Label} (categorized : filing.categoryOf fieldKey node = .ok category)
    {objects : List (OrderedMap String Json)} {batch after : Batch τ} {keys afterKeys : List String}
    (done : objects.foldlM (fun state object => do
      let below ← filing.fileFields object state.1 node
      let (filed, key) ← filing.fileObject node category object below
      return (filed, state.2 ++ key.toList)) (batch, keys) = .ok (after, afterKeys)) :
    after.entities = filing.filed batch.entities (objects.flatMap fun object =>
        Entry.occurrencesIn object node ++ [⟨fieldKey, node, object⟩]) ∧
      after.queries = batch.queries ∧
      (afterKeys = keys ++ objects.filterMap fun object => filing.keyOf? ⟨fieldKey, node, object⟩) ∧
      ∀ occurrence ∈ objects.flatMap fun object =>
        Entry.occurrencesIn object node ++ [⟨fieldKey, node, object⟩], filing.Addresses occurrence := by
  induction objects generalizing batch keys with
  | nil => cases done; simp [filed]
  | cons object rest ih =>
    simp only [List.foldlM_cons, bind, except_bind_ok, pure, Except.pure, Except.ok.injEq] at done
    obtain ⟨_, ⟨below, entered, ⟨⟨middle, key⟩, own, rfl⟩⟩, later⟩ := done
    obtain ⟨early, kept, keyed, addressed⟩ :=
      fileWithin_filed (fileFields_filed filing object node entered) categorized own
    obtain ⟨late, same, named, others⟩ := ih later
    rw [List.flatMap_cons, filed_append, ← early]
    refine ⟨late, same.trans kept, ?_, List.forall_mem_append.mpr ⟨addressed, others⟩⟩
    rw [named, keyed]
    cases found : filing.keyOf? ⟨fieldKey, node, object⟩ <;> simp [found]

/-- Filing a root puts the records of its objects to the others, all of which have a key if they have
an identifier, and adds its own index entry. -/
theorem fileRoot_filed {filing : Filing τ} {fieldKey : String} {node : Node} {value : Json}
    {batch after : Batch τ} (done : filing.fileRoot fieldKey node value batch = .ok after) :
    after.entities = filing.filed batch.entities (node.occurrences fieldKey value) ∧
      (∀ occurrence ∈ node.occurrences fieldKey value, filing.Addresses occurrence) ∧
      ∃ entry, after.queries = batch.queries ++ [entry] ∧
        filing.Indexes (fieldKey, node, value) entry := by
  simp only [fileRoot, bind, except_bind_ok, pure, Except.pure, Except.ok.injEq] at done
  obtain ⟨category, categorized, ⟨middle, keys⟩, folded, key, named, rfl⟩ := done
  obtain ⟨objects, kept, keyed, addressed⟩ := fileItems_filed categorized folded
  refine ⟨objects, addressed, ⟨key, category, keys, filing.fromMutation, filing.expiresAt⟩, ?_, ?_⟩
  · simp [kept]
  · refine ⟨named, categorized, keyed, fun object inside => addressed ⟨fieldKey, node, object⟩ ?_, rfl⟩
    exact List.mem_flatMap.mpr ⟨object, inside, List.mem_append_right _ (List.mem_singleton_self _)⟩

/-- Filing the roots that the data has a value for. -/
theorem fileRoots_filed {filing : Filing τ} {data : OrderedMap String Json} {prototype : Prototype}
    {batch after : Batch τ} (done : filing.fileRoots data prototype batch = .ok after) :
    after.entities = filing.filed batch.entities (prototype.occurrences data) ∧
      (∀ occurrence ∈ prototype.occurrences data, filing.Addresses occurrence) ∧
      ∃ entries, after.queries = batch.queries ++ entries ∧
        List.Forall₂ filing.Indexes (prototype.carriedRoots data) entries := by
  induction prototype generalizing batch with
  | nil =>
    cases done
    exact ⟨rfl, by simp [Prototype.occurrences, Prototype.carriedRoots], [], by simp, .nil⟩
  | cons root rest ih =>
    obtain ⟨fieldKey, node⟩ := root
    cases found : OrderedMap.get? data fieldKey with
    | none =>
      simp only [fileRoots, found] at done
      simpa [Prototype.occurrences, Prototype.carriedRoots, found] using ih done
    | some value =>
      by_cases missing : value = .null
      · subst missing
        simp only [fileRoots, found] at done
        simpa [Prototype.occurrences, Prototype.carriedRoots, found] using ih done
      · simp only [fileRoots, found, bind, except_bind_ok] at done
        obtain ⟨middle, first, later⟩ := done
        obtain ⟨early, own, entry, indexed, described⟩ := fileRoot_filed first
        obtain ⟨late, addressed, entries, others, all⟩ := ih later
        have carried : Prototype.carriedRoots ((fieldKey, node) :: rest) data =
            (fieldKey, node, value) :: Prototype.carriedRoots rest data := by
          cases value <;> simp_all [Prototype.carriedRoots]
        rw [Prototype.occurrences, carried, List.flatMap_cons, filed_append, ← early]
        exact ⟨late, List.forall_mem_append.mpr ⟨own, addressed⟩, entry :: entries,
          by simp [others, indexed], .cons described all⟩

/-- The batch of an answer is made of the records that the answer's objects leave behind in
the order in which they are met, and of one index entry for every root with a value. Each
object with an identifier has a key. -/
theorem batchOf_filed {filing : Filing τ} {data : Json} {fields : OrderedMap String Json}
    {prototype : Prototype} {batch : Batch τ} (read : dataFields data = .ok fields)
    (done : filing.batchOf prototype data = .ok batch) :
    batch.entities = filing.filed [] (prototype.occurrences fields) ∧
      List.Forall₂ filing.Indexes (prototype.carriedRoots fields) batch.queries ∧
      ∀ occurrence ∈ prototype.occurrences fields, filing.Addresses occurrence := by
  by_cases empty : prototype = []
  · subst empty
    cases done
    exact ⟨rfl, .nil, by simp [Prototype.occurrences, Prototype.carriedRoots]⟩
  · have nonempty : prototype.isEmpty = false := by simpa using empty
    simp only [batchOf, nonempty, read, bind, Except.bind, Bool.false_eq_true,
      ↓reduceIte] at done
    obtain ⟨entities, addressed, entries, indexed, all⟩ := fileRoots_filed done
    exact ⟨entities, by simpa [Batch.empty, indexed] using all, addressed⟩

/-! ## What a batch holds -/

/-- A batch that holds exactly what these objects leave behind, in this order. -/
structure Holds (filing : Filing τ) (occurrences : List Occurrence)
    (entities : OrderedMap String (Record τ)) : Prop where
  unique : (OrderedMap.keys entities).Nodup
  keyed : ∀ entry ∈ entities, entry.2.key = entry.1
  fields : ∀ entry ∈ entities, (OrderedMap.keys entry.2.data).Nodup
  expires : ∀ entry ∈ entities, entry.2.expiresAt = filing.expiresAt
  present : ∀ occurrence ∈ occurrences, ∀ key, filing.keyOf? occurrence = some key →
    (OrderedMap.get? entities key).isSome
  carries : ∀ key field, ((OrderedMap.get? entities key).bind fun record =>
    OrderedMap.get? record.data field) = filing.lastCarried? occurrences key field

theorem holds_nil (filing : Filing τ) : filing.Holds [] [] where
  unique := List.nodup_nil
  keyed := by simp
  fields := by simp
  expires := by simp
  present := by simp
  carries := by simp [lastCarried?]

/-- An object without a key leaves nothing behind. -/
private theorem Holds.skip {filing : Filing τ} {occurrences : List Occurrence}
    {entities : OrderedMap String (Record τ)} (held : filing.Holds occurrences entities)
    {occurrence : Occurrence} (keyless : filing.keyOf? occurrence = none) :
    filing.Holds (occurrences ++ [occurrence]) entities where
  unique := held.unique
  keyed := held.keyed
  fields := held.fields
  expires := held.expires
  present := by
    intro other member key filed
    rcases List.mem_append.mp member with early | late
    · exact held.present other early key filed
    · rw [List.mem_singleton.mp late, keyless] at filed
      cases filed
  carries := by
    intro key field
    rw [held.carries, lastCarried?_snoc]
    simp [left?, keyless]

/-- An object with a key leaves its fields behind, over those of the objects before it. -/
private theorem Holds.put {filing : Filing τ} {occurrences : List Occurrence}
    {entities : OrderedMap String (Record τ)} (held : filing.Holds occurrences entities)
    {occurrence : Occurrence} {key : String} (filed : filing.keyOf? occurrence = some key)
    {record : Record τ} (own : record.key = key) (unique : (OrderedMap.keys record.data).Nodup)
    (expires : record.expiresAt = filing.expiresAt)
    (reads : ∀ field, OrderedMap.get? record.data field = (occurrence.carried? field).or
      ((OrderedMap.get? entities key).bind fun held => OrderedMap.get? held.data field)) :
    filing.Holds (occurrences ++ [occurrence]) (OrderedMap.insert entities key record) where
  unique := OrderedMap.keys_insert_nodup held.unique key record
  keyed := by
    intro entry member
    rcases OrderedMap.mem_of_mem_insert member with old | rfl
    · exact held.keyed entry old
    · exact own
  fields := by
    intro entry member
    rcases OrderedMap.mem_of_mem_insert member with old | rfl
    · exact held.fields entry old
    · exact unique
  expires := by
    intro entry member
    rcases OrderedMap.mem_of_mem_insert member with old | rfl
    · exact held.expires entry old
    · exact expires
  present := by
    intro other member probe found
    rw [OrderedMap.get?_insert]
    by_cases same : key = probe
    · simp [same]
    · rcases List.mem_append.mp member with early | late
      · simpa [same] using held.present other early probe found
      · rw [List.mem_singleton.mp late, filed] at found
        exact absurd (Option.some.inj found) same
  carries := by
    intro probe field
    rw [OrderedMap.get?_insert, lastCarried?_snoc, left?, filed, ← held.carries]
    by_cases same : key = probe
    · subst same
      simpa using reads field
    · simp [same]

/-- So does every object in turn. -/
theorem Holds.filed {filing : Filing τ} {earlier : List Occurrence}
    {entities : OrderedMap String (Record τ)} (held : filing.Holds earlier entities)
    (occurrences : List Occurrence) :
    filing.Holds (earlier ++ occurrences) (filing.filed entities occurrences) := by
  induction occurrences generalizing earlier entities with
  | nil => simpa [Filing.filed] using held
  | cons occurrence rest ih =>
    have step : filing.Holds (earlier ++ [occurrence]) (filing.filed entities [occurrence]) := by
      cases found : filing.recordOf? occurrence with
      | none =>
        have keyless : filing.keyOf? occurrence = none := by simp [← key_recordOf?, found]
        simpa [Filing.filed, found] using held.skip keyless
      | some record =>
        have keyed : filing.keyOf? occurrence = some record.key := by simp [← key_recordOf?, found]
        obtain ⟨data, expires⟩ := recordOf?_data found
        have unique : (OrderedMap.keys record.data).Nodup := data ▸ OrderedMap.keys_ofList_nodup _
        have reads : ∀ field, OrderedMap.get? record.data field = occurrence.carried? field :=
          fun field => data ▸ get?_requestedData occurrence field
        simp only [Filing.filed, List.filterMap_cons, found, List.filterMap_nil, List.foldl_cons,
          List.foldl_nil, Filing.put]
        cases present : OrderedMap.get? entities record.key with
        | none =>
          refine held.put keyed rfl unique expires fun field => ?_
          simp [present, reads]
        | some existing =>
          have member := OrderedMap.mem_of_get?_eq_some present
          refine held.put keyed (held.keyed _ member)
            (OrderedMap.keys_overlay_nodup (held.fields _ member) _) (held.expires _ member)
            fun field => ?_
          simp only [present, Option.bind_some]
          rw [OrderedMap.get?_overlay_of_nodup unique, reads]
    have later := ih step
    rwa [List.append_assoc, List.singleton_append, ← filed_append] at later

theorem holds_filed (filing : Filing τ) (occurrences : List Occurrence) :
    filing.Holds occurrences (filing.filed [] occurrences) :=
  filing.holds_nil.filed occurrences

/-- The batch of an answer holds what the answer's objects leave behind in the order in
which they are met, and one index entry for every root with a value. -/
theorem batchOf_holds {filing : Filing τ} {data : Json} {fields : OrderedMap String Json}
    {prototype : Prototype} {batch : Batch τ} (read : dataFields data = .ok fields)
    (done : filing.batchOf prototype data = .ok batch) :
    filing.Holds (prototype.occurrences fields) batch.entities ∧
      List.Forall₂ filing.Indexes (prototype.carriedRoots fields) batch.queries := by
  obtain ⟨entities, indexed, _⟩ := batchOf_filed read done
  exact ⟨entities ▸ filing.holds_filed _, indexed⟩

/-- Every batch is filed from some fields. Without roots the data is not read, and any will do. -/
theorem exists_batchOf_filed {filing : Filing τ} {data : Json} {prototype : Prototype}
    {batch : Batch τ} (done : filing.batchOf prototype data = .ok batch) :
    ∃ fields, (prototype = [] ∨ dataFields data = .ok fields) ∧
      batch.entities = filing.filed [] (prototype.occurrences fields) ∧
      filing.Holds (prototype.occurrences fields) batch.entities ∧
      List.Forall₂ filing.Indexes (prototype.carriedRoots fields) batch.queries := by
  by_cases empty : prototype = []
  · subst empty
    cases done
    exact ⟨[], .inl rfl, rfl, filing.holds_nil, .nil⟩
  · have nonempty : prototype.isEmpty = false := by simpa using empty
    have made := done
    simp only [batchOf, nonempty, Bool.false_eq_true, ↓reduceIte, bind, except_bind_ok] at made
    obtain ⟨fields, read, _⟩ := made
    obtain ⟨entities, indexed, _⟩ := batchOf_filed read done
    exact ⟨fields, .inr read, entities, entities ▸ filing.holds_filed _, indexed⟩

/-- An index entry names keys of records of its own batch only. -/
theorem Holds.names {filing : Filing τ} {prototype : Prototype} {fields : OrderedMap String Json}
    {batch : Batch τ} (held : filing.Holds (prototype.occurrences fields) batch.entities)
    (all : List.Forall₂ filing.Indexes (prototype.carriedRoots fields) batch.queries)
    {entry : IndexEntry τ} (member : entry ∈ batch.queries) {name : String}
    (named : name ∈ entry.entityKeys) : (OrderedMap.get? batch.entities name).isSome := by
  obtain ⟨root, carried, indexed⟩ := exists_related all member
  rw [indexed.entityKeys] at named
  obtain ⟨object, inside, keyed⟩ := List.mem_filterMap.mp named
  refine held.present ⟨root.1, root.2.1, object⟩ ?_ name keyed
  refine List.mem_flatMap.mpr ⟨root, carried, List.mem_flatMap.mpr ⟨object, inside, ?_⟩⟩
  exact List.mem_append_right _ (List.mem_singleton_self _)

end Filing
end GraphCache
