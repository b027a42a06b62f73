import GraphCache.Proofs.OrderedMap
import GraphCache.Store.Basic
import Mathlib.Algebra.Order.Ring.Int

/-! What a store holds, whichever kind it is. Both kinds hold a content under the key
of an entity and an index under a label, and a lookup shows the live contents that a
live index names. Writing changes contents and indices by one law that is the same for
both kinds, as long as times are exact and a batch files every record under its key. -/
namespace GraphCache

/-- Times that are compared, added and kept without rounding. -/
class Instant.Exact (τ : Type) [LinearOrder τ] [Add τ] [Instant τ] : Prop where
  reached_iff (deadline now : τ) : Instant.reached deadline now = true ↔ deadline ≤ now
  after_eq (now lifetime : τ) : Instant.after now lifetime = now + lifetime
  kept_eq (deadline : τ) : Instant.kept deadline = deadline

instance : Instant.Exact Int where
  reached_iff deadline now := by simp [Instant.reached]
  after_eq _ _ := rfl
  kept_eq _ := rfl

/-- What is shown of an entity when it is looked up. -/
structure Content (τ : Type) where
  key : String
  data : OrderedMap String Json
  fromMutation : Bool
  expiresAt : Option τ
deriving DecidableEq, Repr

/-- The entities that an index entry names, until it expires. -/
structure Index (τ : Type) where
  entityKeys : List String
  expiresAt : Option τ
deriving DecidableEq, Repr

section Plain
variable {τ : Type}

def Record.content (record : Record τ) : Content τ :=
  ⟨record.key, record.data, record.fromMutation, record.expiresAt⟩

def EntityRow.content (key : String) (row : EntityRow τ) : Content τ :=
  ⟨key, row.data, row.fromMutation, row.expiresAt⟩

def IndexEntry.index (entry : IndexEntry τ) : Index τ := ⟨entry.entityKeys, entry.expiresAt⟩

def QueryRow.index (row : QueryRow τ) : Index τ := ⟨row.entityKeys, row.expiresAt⟩

namespace Store

def content? (store : Store τ) (key : String) : Option (Content τ) :=
  match store with
  | memory state => (OrderedMap.get? state.entities key).map Record.content
  | tables (some state) => (OrderedMap.get? state.entities key).map (EntityRow.content key)
  | tables none => none

/-- The label as a store files it: a table has only texts. -/
def filedAs (store : Store τ) (label : Label) : Label :=
  match store with
  | memory _ => label
  | tables _ => .text label.toText

def index? (store : Store τ) (label : Label) : Option (Index τ) :=
  match store with
  | memory state => (OrderedMap.get? state.queries label).map IndexEntry.index
  | tables (some state) => (OrderedMap.get? state.queries label.toText).map QueryRow.index
  | tables none => none

end Store

/-- The two kinds of stores. -/
inductive Keeping where
  | memory
  | tables
deriving DecidableEq, Repr

def Store.kind : Store τ → Keeping
  | .memory _ => .memory
  | .tables _ => .tables

/-- A store of a kind that holds nothing. -/
def Keeping.empty : Keeping → Store τ
  | .memory => .memory .empty
  | .tables => .tables (some .empty)

/-- The record that is held under a key, live or not. -/
def Store.record? (store : Store τ) (key : String) : Option (Record τ) :=
  match store with
  | .memory state => OrderedMap.get? state.entities key
  | .tables (some state) => (OrderedMap.get? state.entities key).map (Table.toRecord key)
  | .tables none => none

theorem Store.content?_eq (store : Store τ) (key : String) :
    store.content? key = (store.record? key).map Record.content := by
  match store with
  | .memory state => rfl
  | .tables (some state) =>
    simp only [content?, record?, Option.map_map]
    rfl
  | .tables none => rfl

/-- The records that a batch writes under a key. -/
def Batch.writesOf (batch : Batch τ) (key : String) : List (Record τ) :=
  batch.entities.filterMap fun entry => if entry.1 = key then some entry.2 else none

/-- A batch with unique keys writes one record under each of them. -/
theorem Batch.writesOf_eq {batch : Batch τ} (unique : (OrderedMap.keys batch.entities).Nodup)
    (key : String) : batch.writesOf key = (OrderedMap.get? batch.entities key).toList := by
  rw [writesOf]
  generalize batch.entities = entities at unique
  induction entities with
  | nil => rfl
  | cons entry rest ih =>
    obtain ⟨fresh, tail⟩ := List.nodup_cons.mp unique
    rw [List.filterMap_cons, ih tail]
    by_cases same : entry.1 = key
    · have absent : OrderedMap.get? rest key = none :=
        (OrderedMap.get?_eq_none_iff rest key).mpr (same ▸ fresh)
      simp [OrderedMap.get?, same, absent]
    · simp [OrderedMap.get?, same]

/-- Every record is filed under its own key. -/
def Batch.Keyed (batch : Batch τ) : Prop := ∀ entry ∈ batch.entities, entry.2.key = entry.1

end Plain

variable {τ : Type} [Instant τ]

/-- A record over what is held: the fields of what is still live stay where the record
has none. -/
def Record.over (record : Record τ) (now : τ) (held : Option (Content τ)) : Content τ :=
  match held with
  | none => record.content
  | some held =>
    if hasExpired held.expiresAt now then record.content
    else { record.content with data := OrderedMap.overlay held.data record.data }

/-- What is held under a key after some writes. -/
def contentAfter (now : τ) (writes : OrderedMap String (Record τ)) (key : String)
    (held : Option (Content τ)) : Option (Content τ) :=
  writes.foldl (fun held write => if write.1 = key then some (write.2.over now held) else held) held

/-- The live contents that a live index names, in its order. -/
def shownBy (content? : String → Option (Content τ)) (now : τ) (index : Option (Index τ)) :
    List (Content τ) :=
  match index with
  | none => []
  | some index =>
    if hasExpired index.expiresAt now then []
    else (index.entityKeys.filterMap content?).filter fun content => !hasExpired content.expiresAt now

/-! ## Reading -/

namespace Store

private theorem memory_lookup_shows (state : Memory τ) (now : τ) (label : Label) :
    (state.lookup now label).map Record.content =
      shownBy (Store.memory state).content? now ((Store.memory state).index? label) := by
  simp only [Memory.lookup, index?]
  cases OrderedMap.get? state.queries label with
  | none => rfl
  | some entry =>
    by_cases expired : hasExpired entry.expiresAt now = true
    · simp [IndexEntry.isLive, shownBy, IndexEntry.index, expired]
    · simp only [IndexEntry.isLive, shownBy, IndexEntry.index, expired, Option.map_some,
        Bool.not_false, ↓reduceIte, Bool.false_eq_true, List.filter_filterMap, List.map_filterMap]
      refine List.filterMap_congr fun key _ => ?_
      simp only [content?]
      cases OrderedMap.get? state.entities key with
      | none => rfl
      | some record =>
        by_cases gone : hasExpired record.expiresAt now = true <;>
          simp [Record.isLive, Record.content, Option.filter_some, gone]

private theorem table_lookup_shows (state : Table τ) (now : τ) (label : Label) :
    (state.lookup now label.toText).map Record.content =
      shownBy (Store.tables (some state)).content? now
        ((Store.tables (some state)).index? label) := by
  simp only [Table.lookup, index?]
  cases OrderedMap.get? state.queries label.toText with
  | none => rfl
  | some row =>
    by_cases expired : hasExpired row.expiresAt now = true
    · simp [shownBy, QueryRow.index, expired]
    · simp only [shownBy, QueryRow.index, expired, Option.map_some, ↓reduceIte,
        Bool.false_eq_true, List.filter_filterMap, List.map_filterMap]
      refine List.filterMap_congr fun key _ => ?_
      simp only [content?]
      cases OrderedMap.get? state.entities key with
      | none => rfl
      | some row =>
        by_cases gone : hasExpired row.expiresAt now = true <;>
          simp [Table.toRecord, Record.content, EntityRow.content, Option.filter_some, gone]

/-- A store that can be read: its tables, if it keeps any, are there. -/
def Open (store : Store τ) : Prop := store ≠ .tables none

omit [Instant τ] in
theorem open_memory (state : Memory τ) : (memory state).Open := by simp [Open]

omit [Instant τ] in
theorem open_tables (state : Table τ) : (tables (some state)).Open := by simp [Open]

omit [Instant τ] in
/-- Nothing is left of it when it is cleared. -/
theorem clear_ok {store : Store τ} (ready : store.Open) : store.clear = .ok store.kind.empty := by
  match store with
  | .memory state => rfl
  | .tables (some state) => rfl
  | .tables none => exact absurd rfl ready

private theorem rowKey?_of_hashable {label : Label} (hashable : label.hashable = .ok label) :
    label.rowKey? = some label.toText := by
  cases label with
  | text value => rfl
  | displaced mark => cases mark <;> first | rfl | cases hashable

/-- A label that can be looked up at all finds the live contents of its live index. -/
theorem recall_shows {store : Store τ} {now : τ} {label : Label} {records : List (Record τ)}
    (hashable : label.hashable = .ok label) (found : store.recall now label = .ok records) :
    records.map Record.content = shownBy store.content? now (store.index? label) := by
  cases store with
  | memory state =>
    have same : records = state.lookup now label := by
      cases label with
      | text key => cases found; rfl
      | displaced mark =>
        simp only [Store.recall, hashable, Except.mapError, bind, Except.bind] at found
        cases found; rfl
    rw [same, memory_lookup_shows]
  | tables state =>
    cases state with
    | none => cases label <;> cases found
    | some state =>
      have same : records = state.lookup now label.toText := by
        cases label with
        | text key => cases found; rfl
        | displaced mark =>
          simp only [Store.recall, rowKey?_of_hashable hashable] at found
          cases found; rfl
      rw [same, table_lookup_shows]

/-- A store that can be read answers for every label that can be looked up. -/
theorem recall_ok {store : Store τ} {now : τ} {label : Label} (ready : store.Open)
    (hashable : label.hashable = .ok label) : ∃ records, store.recall now label = .ok records := by
  cases store with
  | memory state =>
    cases label with
    | text key => exact ⟨_, rfl⟩
    | displaced mark =>
      exact ⟨state.lookup now (.displaced mark), by
        simp [Store.recall, hashable, Except.mapError, bind, Except.bind, pure, Except.pure]⟩
  | tables state =>
    cases state with
    | none => exact absurd rfl ready
    | some state =>
      cases label with
      | text key => exact ⟨_, rfl⟩
      | displaced mark =>
        exact ⟨state.lookup now (Label.displaced mark).toText, by
          simp [Store.recall, rowKey?_of_hashable hashable]⟩

end Store

/-! ## Writing -/

/-- With unique keys only the record of a key itself changes what is held there. -/
theorem contentAfter_eq {now : τ} {writes : OrderedMap String (Record τ)}
    (unique : (OrderedMap.keys writes).Nodup) (key : String) (held : Option (Content τ)) :
    contentAfter now writes key held =
      match OrderedMap.get? writes key with
      | some record => some (record.over now held)
      | none => held := by
  induction writes generalizing held with
  | nil => rfl
  | cons write rest ih =>
    obtain ⟨fresh, tail⟩ := List.nodup_cons.mp unique
    rw [contentAfter, List.foldl_cons, ← contentAfter, ih tail]
    by_cases same : write.1 = key
    · have absent : OrderedMap.get? rest key = none :=
        (OrderedMap.get?_eq_none_iff rest key).mpr (same ▸ fresh)
      simp [OrderedMap.get?, same, absent]
    · simp [OrderedMap.get?, same]

omit [Instant τ] in
private theorem batch_empty {batch : Batch τ} (empty : batch.size = 0) : batch = .empty := by
  obtain ⟨entities, queries⟩ := Nat.add_eq_zero_iff.mp empty
  exact congrArg₂ Batch.mk (List.eq_nil_of_length_eq_zero entities)
    (List.eq_nil_of_length_eq_zero queries)

namespace Keeping

omit [Instant τ] in
theorem open_empty (kind : Keeping) : (kind.empty : Store τ).Open := by
  cases kind
  · exact Store.open_memory _
  · exact Store.open_tables _

/-- A deadline as a store of a kind keeps it. -/
def keeps : Keeping → Option τ → Option τ
  | memory, deadline => deadline
  | tables, deadline => deadline.map Instant.kept

/-- What is held under a key when a record has been written there. Tables keep the type
and the identifier that came first. -/
def rewritten (kind : Keeping) (key : String) (now : τ) (held : Option (Record τ))
    (record : Record τ) : Record τ :=
  let data := (record.over now (held.map Record.content)).data
  match kind with
  | memory => { record with data := data }
  | tables =>
    { record with
      key := key
      typeName := (held.getD record).typeName
      entityId := (held.getD record).entityId
      data := data
      expiresAt := record.expiresAt.map Instant.kept }

/-- What is held under a key when records have been written there one after another. -/
def recordAfter (kind : Keeping) (key : String) (now : τ) (held : Option (Record τ))
    (records : List (Record τ)) : Option (Record τ) :=
  records.foldl (fun held record => some (kind.rewritten key now held record)) held

theorem rewritten_data (kind : Keeping) (key : String) (now : τ) (held : Option (Record τ))
    (record : Record τ) : (kind.rewritten key now held record).data =
      (record.over now (held.map Record.content)).data := by
  cases kind <;> rfl

theorem rewritten_fromMutation (kind : Keeping) (key : String) (now : τ)
    (held : Option (Record τ)) (record : Record τ) :
    (kind.rewritten key now held record).fromMutation = record.fromMutation := by
  cases kind <;> rfl

theorem rewritten_expiresAt (kind : Keeping) (key : String) (now : τ)
    (held : Option (Record τ)) (record : Record τ) :
    (kind.rewritten key now held record).expiresAt = kind.keeps record.expiresAt := by
  cases kind <;> rfl

/-- What every written record has, whatever was held before it, what is held in the end has too. -/
theorem recordAfter_induction (kind : Keeping) {key : String} {now : τ} {records : List (Record τ)}
    {motive : Record τ → Prop}
    (rewritten : ∀ record ∈ records, ∀ held : Option (Record τ),
      (∀ before, held = some before → motive before) → motive (kind.rewritten key now held record))
    {held : Option (Record τ)} (before : ∀ record, held = some record → motive record) :
    ∀ record, kind.recordAfter key now held records = some record → motive record := by
  induction records generalizing held with
  | nil => exact before
  | cons record rest ih =>
    obtain ⟨own, others⟩ := List.forall_mem_cons.mp rewritten
    refine ih others fun written same => ?_
    cases same
    exact own held before

end Keeping

private theorem memory_writeRecord (now : τ) (entities : OrderedMap String (Record τ))
    (record : Record τ) (key probe : String) :
    OrderedMap.get? (Memory.writeRecord now entities key record) probe =
      if key = probe then
        some (Keeping.memory.rewritten probe now (OrderedMap.get? entities probe) record)
      else OrderedMap.get? entities probe := by
  rw [Memory.writeRecord, OrderedMap.get?_insert]
  by_cases same : key = probe
  · subst same
    cases OrderedMap.get? entities key with
    | none => simp [Keeping.rewritten, Record.over, Record.content]
    | some held =>
      by_cases gone : hasExpired held.expiresAt now = true <;>
        simp [Keeping.rewritten, Record.over, Record.isLive, Record.content, gone]
  · simp [same]

private theorem table_writeRow (now : τ) (rows : OrderedMap String (EntityRow τ))
    (record : Record τ) (key probe : String) :
    (OrderedMap.get? (Table.writeRow now rows key record) probe).map (Table.toRecord probe) =
      if key = probe then
        some (Keeping.tables.rewritten probe now
          ((OrderedMap.get? rows probe).map (Table.toRecord probe)) record)
      else (OrderedMap.get? rows probe).map (Table.toRecord probe) := by
  rw [Table.writeRow, OrderedMap.get?_insert]
  by_cases same : key = probe
  · subst same
    cases OrderedMap.get? rows key with
    | none => simp [Keeping.rewritten, Table.toRecord, Record.over, Record.content]
    | some held =>
      by_cases gone : hasExpired held.expiresAt now = true <;>
        simp [Keeping.rewritten, Table.toRecord, Record.over, Record.content, gone]
  · simp [same]

/-- Writing entries one after another, when each changes what is held under its own key only. -/
private theorem foldl_writes {σ : Type} (read : σ → Option (Record τ))
    (write : σ → String → Record τ → σ) {kind : Keeping} {key : String} {now : τ}
    (each : ∀ state name record, read (write state name record) =
      if name = key then some (kind.rewritten key now (read state) record) else read state)
    (entries : OrderedMap String (Record τ)) (state : σ) :
    read (entries.foldl (fun state entry => write state entry.1 entry.2) state) =
      kind.recordAfter key now (read state)
        (entries.filterMap fun entry => if entry.1 = key then some entry.2 else none) := by
  induction entries generalizing state with
  | nil => rfl
  | cons entry rest ih =>
    rw [List.foldl_cons, ih, each, List.filterMap_cons]
    by_cases same : entry.1 = key
    · simp only [same, ↓reduceIte]
      rfl
    · simp only [same, ↓reduceIte]

namespace Store

/-- A write goes into memory, or into tables that are there, or nothing is written. -/
theorem write_cases {store after : Store τ} {now : τ} {batch : Batch τ}
    (written : store.write now batch = .ok after) :
    (∃ state, store = memory state ∧ after = memory (state.write now batch)) ∨
      (∃ state, store = tables (some state) ∧ after = tables (some (state.write now batch))) ∨
      store = tables none ∧ after = tables none ∧ batch = .empty := by
  match store, written with
  | memory state, written => exact .inl ⟨state, rfl, (Except.ok.inj written).symm⟩
  | tables (some state), written => exact .inr (.inl ⟨state, rfl, (Except.ok.inj written).symm⟩)
  | tables none, written =>
    rw [write] at written
    split at written
    · rename_i empty
      exact .inr (.inr ⟨rfl, (Except.ok.inj written).symm, batch_empty empty⟩)
    · cases written

theorem Open.write {store after : Store τ} (ready : store.Open) {now : τ} {batch : Batch τ}
    (written : store.write now batch = .ok after) : after.Open := by
  obtain ⟨state, rfl, rfl⟩ | ⟨state, rfl, rfl⟩ | ⟨rfl, rfl, _⟩ := write_cases written
  · exact open_memory _
  · exact open_tables _
  · exact ready

theorem kind_write {store after : Store τ} {now : τ} {batch : Batch τ}
    (written : store.write now batch = .ok after) : after.kind = store.kind := by
  obtain ⟨state, rfl, rfl⟩ | ⟨state, rfl, rfl⟩ | ⟨rfl, rfl, _⟩ := write_cases written <;> rfl

/-- Writing puts the records of a batch over what is held under their keys. -/
theorem record?_write {store after : Store τ} {now : τ} {batch : Batch τ}
    (written : store.write now batch = .ok after) (key : String) :
    after.record? key =
      store.kind.recordAfter key now (store.record? key) (batch.writesOf key) := by
  obtain ⟨state, rfl, rfl⟩ | ⟨state, rfl, rfl⟩ | ⟨rfl, rfl, rfl⟩ := write_cases written
  · exact foldl_writes (fun entities => OrderedMap.get? entities key) (Memory.writeRecord now)
      (fun entities name record => memory_writeRecord now entities record name key)
      batch.entities state.entities
  · exact foldl_writes (fun rows => (OrderedMap.get? rows key).map (Table.toRecord key))
      (Table.writeRow now) (fun rows name record => table_writeRow now rows record name key)
      batch.entities state.entities
  · rfl

/-- The last entry of a batch that a store files under the same label. -/
def entryFor? (store : Store τ) (queries : List (IndexEntry τ)) (label : Label) :
    Option (IndexEntry τ) :=
  queries.reverse.find? fun entry => decide (store.filedAs entry.key = store.filedAs label)

/-- Writing puts every index in the place of what stood under its label, with its deadline
as the store keeps it. -/
theorem index?_write_kept {store after : Store τ} {now : τ} {batch : Batch τ}
    (written : store.write now batch = .ok after) (label : Label) :
    after.index? label =
      ((store.entryFor? batch.queries label).map fun entry =>
        ⟨entry.entityKeys, store.kind.keeps entry.expiresAt⟩).or (store.index? label) := by
  obtain ⟨state, rfl, rfl⟩ | ⟨state, rfl, rfl⟩ | ⟨rfl, rfl, rfl⟩ := write_cases written
  · simp only [index?, Memory.write, entryFor?, filedAs]
    rw [OrderedMap.get?_foldl_insert batch.queries IndexEntry.key fun entry => entry, Option.map_or,
      Option.map_map]
    rfl
  · simp only [index?, Table.write, entryFor?, filedAs, Label.text.injEq]
    rw [OrderedMap.get?_foldl_insert batch.queries (fun entry => entry.key.toText), Option.map_or,
      Option.map_map]
    rfl
  · rfl

end Store

section Exact
variable [LinearOrder τ] [Add τ] [Instant.Exact τ]

theorem Keeping.keeps_eq (kind : Keeping) (deadline : Option τ) :
    kind.keeps deadline = deadline := by
  cases kind <;> cases deadline <;> simp [keeps, Instant.Exact.kept_eq]

private theorem content_rewritten (kind : Keeping) {key : String} {record : Record τ}
    (keyed : record.key = key) (now : τ) (held : Option (Record τ)) :
    (kind.rewritten key now held record).content = record.over now (held.map Record.content) := by
  have kept := kind.keeps_eq record.expiresAt
  have own : (record.over now (held.map Record.content)) =
      { record.content with data := (record.over now (held.map Record.content)).data } := by
    cases held with
    | none => rfl
    | some held =>
      simp only [Option.map_some, Record.over]
      split <;> rfl
  rw [own]
  cases kind with
  | memory => rfl
  | tables =>
    simp only [Keeping.keeps] at kept
    simp only [Keeping.rewritten, Record.content, kept, keyed]

private theorem content_recordAfter (kind : Keeping) {writes : OrderedMap String (Record τ)}
    (keyed : ∀ entry ∈ writes, entry.2.key = entry.1) (key : String) (now : τ)
    (held : Option (Record τ)) :
    (kind.recordAfter key now held (writes.filterMap fun entry =>
        if entry.1 = key then some entry.2 else none)).map Record.content =
      contentAfter now writes key (held.map Record.content) := by
  induction writes generalizing held with
  | nil => rfl
  | cons write rest ih =>
    obtain ⟨own, others⟩ := List.forall_mem_cons.mp keyed
    by_cases same : write.1 = key
    · have step := ih others (some (kind.rewritten key now held write.2))
      rw [Option.map_some, content_rewritten kind (own.trans same)] at step
      simpa [contentAfter, Keeping.recordAfter, same] using step
    · simpa [contentAfter, Keeping.recordAfter, same] using ih others held

namespace Store

/-- Writing overlays every content that is live with the records of the batch, and puts
them in place of all others. -/
theorem content?_write {store after : Store τ} {now : τ} {batch : Batch τ} (keyed : batch.Keyed)
    (written : store.write now batch = .ok after) (key : String) :
    after.content? key = contentAfter now batch.entities key (store.content? key) := by
  rw [content?_eq, content?_eq, record?_write written, Batch.writesOf,
    content_recordAfter store.kind keyed]

/-- Writing puts every index in the place of what stood under its label. -/
theorem index?_write {store after : Store τ} {now : τ} {batch : Batch τ}
    (written : store.write now batch = .ok after) (label : Label) :
    after.index? label =
      ((store.entryFor? batch.queries label).map IndexEntry.index).or (store.index? label) := by
  rw [index?_write_kept written]
  simp only [Keeping.keeps_eq]
  rfl

end Store
end Exact

namespace Store

/-- Filing an answer is writing its batch, even when that is empty. -/
theorem deposit_writes {store after : Store τ} {settings : StoreSettings τ} {now : τ}
    {deposit : Deposit τ} {batch : Batch τ}
    (filed : store.deposit settings now deposit = .ok (after, batch)) :
    (deposit.filing settings now).batchOf deposit.prototype deposit.data = .ok batch ∧
      store.write now batch = .ok after := by
  simp only [Store.deposit, bind, Except.bind] at filed
  cases made : (deposit.filing settings now).batchOf deposit.prototype deposit.data with
  | error fault => simp [made, Except.mapError] at filed
  | ok batch' =>
    simp only [made, Except.mapError] at filed
    split at filed
    · rename_i empty
      cases filed
      obtain rfl := batch_empty empty
      refine ⟨rfl, ?_⟩
      match store with
      | .memory state => rfl
      | .tables (some state) => rfl
      | .tables none => rfl
    · cases put : store.write now batch' with
      | error fault => simp [put] at filed
      | ok after' =>
        simp only [put] at filed
        cases filed
        exact ⟨rfl, put⟩

end Store
end GraphCache
