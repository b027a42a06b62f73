import GraphCache.Proofs.StoreRefinement

/-! What a store shows is told by what has been written since everything was dropped last.
Of an entity the last write decides whether it is shown. Its data goes back as far as every
write found the one before it still live: a write that came too late for its predecessor
cuts off all that was written earlier, even if the clock goes back afterwards. -/
namespace GraphCache

/-! ## Histories -/

/-- What happens to a store: a batch is written, everything is dropped, or its clock is set,
forwards or backwards. -/
inductive Change (τ : Type) where
  | write (batch : Batch τ)
  | clear
  | clock (now : τ)

/-- A record that was written under a key, and the time of the write. -/
structure KeyWrite (τ : Type) where
  time : τ
  record : Record τ

section Plain
variable {τ : Type}

/-- The batches that have been written since everything was dropped last, after some that
had been written before, each with the time of its write. -/
def batchesSince : (earlier : List (τ × Batch τ)) → (now : τ) → List (Change τ) →
    List (τ × Batch τ)
  | earlier, _, [] => earlier
  | earlier, now, .write batch :: rest => batchesSince (earlier ++ [(now, batch)]) now rest
  | _, now, .clear :: rest => batchesSince [] now rest
  | earlier, _, .clock now :: rest => batchesSince earlier now rest

/-- The writes of a key, in order. -/
def keyWrites (batches : List (τ × Batch τ)) (key : String) : List (KeyWrite τ) :=
  batches.flatMap fun batch => (batch.2.writesOf key).map fun record => ⟨batch.1, record⟩

namespace Keeping

/-- The label as a store of a kind files it. -/
def filedAs : Keeping → Label → Label
  | .memory, label => label
  | .tables, label => .text label.toText

/-- The index entry that was written last under a text. -/
def lastEntry? (kind : Keeping) (batches : List (τ × Batch τ)) (key : String) :
    Option (IndexEntry τ) :=
  (batches.flatMap fun batch => batch.2.queries).reverse.find? fun entry =>
    decide (kind.filedAs entry.key = .text key)

end Keeping

/-- No field stands twice in the data of a record. -/
def Batch.Mapped (batch : Batch τ) : Prop :=
  ∀ entry ∈ batch.entities, (OrderedMap.keys entry.2.data).Nodup

end Plain

variable {τ : Type} [Instant τ]

/-- The world after a change. -/
def World.change (world : World τ) : Change τ → Except Failure (World τ)
  | .write batch => do return { world with store := ← world.store.write world.now batch }
  | .clear => do return { world with store := ← world.store.clear }
  | .clock now => .ok { world with now := now }

/-- The world after some changes. -/
def World.run : World τ → List (Change τ) → Except Failure (World τ)
  | world, [] => .ok world
  | world, change :: rest => do (← world.change change).run rest

namespace Keeping

/-- Whether a write is still live at an instant. -/
def Lives (kind : Keeping) (write : KeyWrite τ) (now : τ) : Prop :=
  hasExpired (kind.keeps write.record.expiresAt) now = false

/-- From a position on every write was still live when the next one was made. -/
def LiveFrom (kind : Keeping) (writes : List (KeyWrite τ)) (first : Nat) : Prop :=
  ∀ i earlier later, first ≤ i → writes[i]? = some earlier → writes[i + 1]? = some later →
    kind.Lives earlier later.time

/-- A record that tells what was written under a key: whether it comes from a mutation and
when it expires from the last write, every field from the latest write that carries it, as
far back as the writes are live one after another. Memory takes the names from the last
write, tables from the first one. -/
structure Reflects (kind : Keeping) (key : String) (writes : List (KeyWrite τ))
    (record : Record τ) : Prop where
  last : ∃ last, writes.getLast? = some last ∧
    record.fromMutation = last.record.fromMutation ∧
    record.expiresAt = kind.keeps last.record.expiresAt
  names : match kind with
    | .memory => ∃ last, writes.getLast? = some last ∧ record.key = last.record.key ∧
        record.typeName = last.record.typeName ∧ record.entityId = last.record.entityId
    | .tables => record.key = key ∧ ∃ first, writes.head? = some first ∧
        record.typeName = first.record.typeName ∧ record.entityId = first.record.entityId
  fields : ∃ first, IsLeast {first | first < writes.length ∧ kind.LiveFrom writes first} first ∧
    ∀ field, OrderedMap.get? record.data field =
      (writes.drop first).reverse.findSome? fun write => OrderedMap.get? write.record.data field

/-- What a store of a kind holds under a key after these writes. -/
def recordFrom (kind : Keeping) (key : String) (writes : List (KeyWrite τ)) : Option (Record τ) :=
  writes.foldl (fun held write => some (kind.rewritten key write.time held write.record)) none

/-! ## One more write -/

variable {kind : Keeping} {key : String} {writes : List (KeyWrite τ)}

theorem recordFrom_snoc (write : KeyWrite τ) :
    kind.recordFrom key (writes ++ [write]) =
      some (kind.rewritten key write.time (kind.recordFrom key writes) write.record) := by
  simp [recordFrom, List.foldl_append]

omit [Instant τ] in
private theorem getElem?_snoc_before {write : KeyWrite τ} {i : Nat} (before : i < writes.length) :
    (writes ++ [write])[i]? = writes[i]? :=
  List.getElem?_append_left before

/-- After the first write of a key the store holds just what was written. -/
private theorem reflects_single {write : KeyWrite τ} :
    kind.Reflects key [write] (kind.rewritten key write.time none write.record) := by
  refine ⟨⟨write, rfl, kind.rewritten_fromMutation .., kind.rewritten_expiresAt ..⟩, ?_, 0, ?_, ?_⟩
  · cases kind with
    | memory => exact ⟨write, rfl, rfl, rfl, rfl⟩
    | tables => exact ⟨rfl, write, rfl, rfl, rfl⟩
  · refine ⟨⟨Nat.zero_lt_one, fun i earlier later _ _ next => ?_⟩, fun _ _ => Nat.zero_le _⟩
    simp at next
  · intro field
    rw [kind.rewritten_data]
    cases found : OrderedMap.get? write.record.data field <;>
      simp [Record.over, Record.content, found]

/-- The live writes go on with one more write where the last one was still live. -/
private theorem liveFrom_snoc_iff {first : Nat} {last write : KeyWrite τ}
    (ended : writes.getLast? = some last) (inside : first < writes.length) :
    kind.LiveFrom (writes ++ [write]) first ↔
      kind.LiveFrom writes first ∧ kind.Lives last write.time := by
  constructor
  · intro lives
    refine ⟨fun i earlier later after here next => ?_, ?_⟩
    · have bound : i + 1 < writes.length := (List.getElem?_eq_some_iff.mp next).1
      refine lives i earlier later after ?_ ?_
      · rw [getElem?_snoc_before (by omega), here]
      · rw [getElem?_snoc_before bound, next]
    · refine lives (writes.length - 1) last write (by omega) ?_ ?_
      · rw [getElem?_snoc_before (by omega), ← List.getLast?_eq_getElem?, ended]
      · rw [Nat.sub_add_cancel (by omega), List.getElem?_concat_length]
  · rintro ⟨lives, live⟩ i earlier later after here next
    have bound : i + 1 < (writes ++ [write]).length := (List.getElem?_eq_some_iff.mp next).1
    rw [List.length_append, List.length_singleton] at bound
    rw [getElem?_snoc_before (by omega)] at here
    by_cases before : i + 1 < writes.length
    · rw [getElem?_snoc_before before] at next
      exact lives i earlier later after here next
    · have place : i + 1 = writes.length := by omega
      rw [place, List.getElem?_concat_length] at next
      rw [List.getLast?_eq_getElem?, ← place, Nat.add_sub_cancel, here] at ended
      cases ended
      cases next
      exact live

/-- Where the last write was still live, the live writes go back as far as before. -/
private theorem liveFrom_snoc {first : Nat} {last write : KeyWrite τ}
    (ended : writes.getLast? = some last) (live : kind.Lives last write.time)
    (least : IsLeast {first | first < writes.length ∧ kind.LiveFrom writes first} first) :
    IsLeast {first | first < (writes ++ [write]).length ∧ kind.LiveFrom (writes ++ [write]) first}
      first := by
  obtain ⟨⟨inside, lives⟩, lowest⟩ := least
  have length : (writes ++ [write]).length = writes.length + 1 := by simp
  refine ⟨⟨by omega, (liveFrom_snoc_iff ended inside).mpr ⟨lives, live⟩⟩, fun other found => ?_⟩
  by_cases before : other < writes.length
  · exact lowest ⟨before, ((liveFrom_snoc_iff ended before).mp found.2).1⟩
  · omega

/-- Where the last write had expired, the live writes begin anew. -/
private theorem liveFrom_anew {last write : KeyWrite τ} (ended : writes.getLast? = some last)
    (gone : ¬kind.Lives last write.time) :
    IsLeast {first | first < (writes ++ [write]).length ∧ kind.LiveFrom (writes ++ [write]) first}
      writes.length := by
  have length : (writes ++ [write]).length = writes.length + 1 := by simp
  refine ⟨⟨by omega, fun i earlier later after _ next => ?_⟩, fun other found => ?_⟩
  · have bound : i + 1 < (writes ++ [write]).length := (List.getElem?_eq_some_iff.mp next).1
    omega
  · by_contra earlier
    exact gone ((liveFrom_snoc_iff ended (by omega)).mp found.2).2

/-- One more write keeps a record that tells what was written. -/
private theorem Reflects.snoc {held : Record τ} (reflects : kind.Reflects key writes held)
    {write : KeyWrite τ} (unique : (OrderedMap.keys write.record.data).Nodup) :
    kind.Reflects key (writes ++ [write])
      (kind.rewritten key write.time (some held) write.record) := by
  obtain ⟨⟨last, ended, _, deadline⟩, names, first, least, fields⟩ := reflects
  refine ⟨⟨write, by simp, kind.rewritten_fromMutation .., kind.rewritten_expiresAt ..⟩, ?_, ?_⟩
  · cases kind with
    | memory => exact ⟨write, by simp, rfl, rfl, rfl⟩
    | tables =>
      obtain ⟨_, named, own, type, identifier⟩ := names
      exact ⟨rfl, named, by simp [List.head?_append, own], type, identifier⟩
  · by_cases gone : hasExpired held.expiresAt write.time = true
    · refine ⟨writes.length, liveFrom_anew ended (by simp [Lives, ← deadline, gone]), fun field => ?_⟩
      rw [kind.rewritten_data, List.drop_left]
      cases found : OrderedMap.get? write.record.data field <;>
        simp [Record.over, Record.content, gone, found]
    · have live : kind.Lives last write.time := by simpa [Lives, ← deadline] using gone
      refine ⟨first, liveFrom_snoc ended live least, fun field => ?_⟩
      rw [kind.rewritten_data, List.drop_append_of_le_length least.1.1.le, List.reverse_append]
      simp only [Option.map_some, Record.over, Record.content, gone, Bool.false_eq_true, ↓reduceIte,
        List.reverse_singleton, List.singleton_append, List.findSome?_cons]
      rw [OrderedMap.get?_overlay_of_nodup unique, fields]
      cases OrderedMap.get? write.record.data field <;> rfl

/-- What a store holds under a key that was written tells what was written. -/
theorem recordFrom_reflects (written : writes ≠ [])
    (unique : ∀ write ∈ writes, (OrderedMap.keys write.record.data).Nodup) :
    ∃ record, kind.recordFrom key writes = some record ∧ kind.Reflects key writes record := by
  induction writes using List.reverseRecOn with
  | nil => exact absurd rfl written
  | append_singleton earlier write ih =>
    rw [recordFrom_snoc]
    refine ⟨_, rfl, ?_⟩
    by_cases none : earlier = []
    · subst none
      exact reflects_single
    · obtain ⟨held, found, reflects⟩ := ih none fun other member =>
        unique other (List.mem_append_left _ member)
      rw [found]
      exact reflects.snoc (unique write (by simp))

/-- Where a write found the one before it expired, all that is told was written since. -/
theorem Reflects.cut {record : Record τ} (reflects : kind.Reflects key writes record) {i : Nat}
    {earlier later : KeyWrite τ} (here : writes[i]? = some earlier)
    (next : writes[i + 1]? = some later) (gone : ¬kind.Lives earlier later.time) {field : String}
    {value : Json} (told : OrderedMap.get? record.data field = some value) :
    ∃ write ∈ writes.drop (i + 1), OrderedMap.get? write.record.data field = some value := by
  obtain ⟨_, _, first, least, fields⟩ := reflects
  have after : i + 1 ≤ first := by
    by_contra before
    exact gone (least.1.2 i earlier later (by omega) here next)
  rw [fields] at told
  obtain ⟨write, member, carries⟩ := List.exists_of_findSome?_eq_some told
  refine ⟨write, ?_, carries⟩
  rw [List.mem_reverse, ← Nat.add_sub_cancel' after, ← List.drop_drop] at member
  exact List.mem_of_mem_drop member

end Keeping

/-- Deadlines in double precision are kept as they are. -/
theorem Keeping.keeps_real (kind : Keeping) (count : Binary64) :
    kind.keeps (some (Seconds.real count)) = some (Seconds.real count) := by
  cases kind <;> rfl

/-! ## Reading -/

namespace Store

/-- The keys under which something is held, in the order in which they are found. -/
def heldKeys : Store τ → List String
  | memory state => OrderedMap.keys state.entities
  | tables (some state) => state.records.map Record.key
  | tables none => []

omit [Instant τ] in
private theorem records_perm (state : Table τ) :
    state.records.Perm (state.entities.map fun entry => Table.toRecord entry.1 entry.2) :=
  List.mergeSort_perm _ _

omit [Instant τ] in
private theorem heldKeys_perm (state : Table τ) :
    (heldKeys (tables (some state))).Perm (OrderedMap.keys state.entities) := by
  have named := (records_perm state).map Record.key
  rw [List.map_map] at named
  exact named

omit [Instant τ] in
theorem mem_heldKeys (store : Store τ) (key : String) :
    key ∈ store.heldKeys ↔ (store.record? key).isSome := by
  match store with
  | memory state => exact (OrderedMap.get?_isSome_iff state.entities key).symm
  | tables (some state) =>
    rw [(heldKeys_perm state).mem_iff, ← OrderedMap.get?_isSome_iff]
    simp [record?]
  | tables none => simp [heldKeys, record?]

/-- A search goes through the records that are held. -/
theorem find_shows {store : Store τ} (ready : store.Open) (unique : store.heldKeys.Nodup) (now : τ)
    (typeName : String) (identifier : Option String) :
    store.find now typeName identifier =
      .ok ((store.heldKeys.filterMap store.record?).filter fun record =>
        record.typeName == Text.lowercase typeName && identifier.all (record.entityId == ·) &&
          record.isLive now) := by
  match store with
  | memory state =>
    have all : (OrderedMap.keys state.entities).filterMap (memory state).record? =
        state.entities.map Prod.snd := by
      rw [OrderedMap.keys, List.filterMap_map, ← List.filterMap_eq_map]
      exact List.filterMap_congr fun entry member => OrderedMap.get?_eq_some_of_mem unique member
    simp only [find, Memory.find, heldKeys, all]
  | tables (some state) =>
    have keys : (OrderedMap.keys state.entities).Nodup := (heldKeys_perm state).nodup_iff.mp unique
    have all : (state.records.map Record.key).filterMap (tables (some state)).record? =
        state.records := by
      rw [List.filterMap_map]
      refine (List.filterMap_congr fun record member => ?_).trans List.filterMap_some
      obtain ⟨entry, inside, rfl⟩ := List.mem_map.mp ((records_perm state).mem_iff.mp member)
      simp only [Function.comp_apply, record?, Table.toRecord,
        OrderedMap.get?_eq_some_of_mem keys inside, Option.map_some]
    simp only [find, Table.find, heldKeys, all]
  | tables none => exact absurd rfl ready

/-- A lookup goes through the keys that a live index names. -/
theorem lookup_shows {store : Store τ} (ready : store.Open) (now : τ) (key : String) :
    store.lookup now key = .ok (match store.index? (.text key) with
      | none => []
      | some index =>
        if hasExpired index.expiresAt now then []
        else index.entityKeys.filterMap fun name =>
          (store.record? name).filter (·.isLive now)) := by
  match store with
  | memory state =>
    simp only [lookup, Memory.lookup, index?]
    cases OrderedMap.get? state.queries (.text key) with
    | none => rfl
    | some entry =>
      by_cases gone : hasExpired entry.expiresAt now = true
      · simp [IndexEntry.isLive, IndexEntry.index, gone]
      · simp [IndexEntry.isLive, IndexEntry.index, gone, List.filter_filterMap, record?]
  | tables (some state) =>
    simp only [lookup, Table.lookup, index?, Label.toText]
    cases OrderedMap.get? state.queries key with
    | none => rfl
    | some row =>
      by_cases gone : hasExpired row.expiresAt now = true
      · simp [QueryRow.index, gone]
      · simp only [QueryRow.index, gone, Option.map_some, Bool.false_eq_true, ↓reduceIte, record?]
        congr 1
        refine List.filterMap_congr fun name _ => ?_
        cases OrderedMap.get? state.entities name with
        | none => rfl
        | some row =>
          by_cases past : hasExpired row.expiresAt now = true <;>
            simp [Table.toRecord, Record.isLive, Option.filter_some, past]
  | tables none => exact absurd rfl ready

/-! ## Runs -/

omit [Instant τ] in
theorem filedAs_eq (store : Store τ) (label : Label) :
    store.filedAs label = store.kind.filedAs label := by
  cases store <;> rfl

omit [Instant τ] in
private theorem foldl_keys_nodup {α : Type}
    (write : OrderedMap String α → String → Record τ → OrderedMap String α)
    (each : ∀ state key record, ∃ value, write state key record = OrderedMap.insert state key value)
    (entries : OrderedMap String (Record τ)) {state : OrderedMap String α}
    (unique : (OrderedMap.keys state).Nodup) :
    (OrderedMap.keys (entries.foldl (fun state entry => write state entry.1 entry.2) state)).Nodup := by
  induction entries generalizing state with
  | nil => exact unique
  | cons entry rest ih =>
    obtain ⟨value, same⟩ := each state entry.1 entry.2
    rw [List.foldl_cons]
    exact ih (same ▸ OrderedMap.keys_insert_nodup unique entry.1 value)

theorem heldKeys_write {store after : Store τ} {now : τ} {batch : Batch τ}
    (unique : store.heldKeys.Nodup) (written : store.write now batch = .ok after) :
    after.heldKeys.Nodup := by
  obtain ⟨state, rfl, rfl⟩ | ⟨state, rfl, rfl⟩ | ⟨rfl, rfl, _⟩ := write_cases written
  · exact foldl_keys_nodup (Memory.writeRecord now) (fun _ _ _ => ⟨_, rfl⟩) batch.entities unique
  · have keys : (OrderedMap.keys state.entities).Nodup := (heldKeys_perm state).nodup_iff.mp unique
    exact (heldKeys_perm _).nodup_iff.mpr
      (foldl_keys_nodup (Table.writeRow now) (fun _ _ _ => ⟨_, rfl⟩) batch.entities keys)
  · exact unique

/-- A store of a kind that holds what these batches have written. -/
structure Holds (store : Store τ) (kind : Keeping) (batches : List (τ × Batch τ)) : Prop where
  ready : store.Open
  same : store.kind = kind
  records : ∀ key, store.record? key = kind.recordFrom key (keyWrites batches key)
  indices : ∀ key, store.index? (.text key) =
    (kind.lastEntry? batches key).map fun entry => ⟨entry.entityKeys, kind.keeps entry.expiresAt⟩
  unique : store.heldKeys.Nodup

theorem holds_empty (kind : Keeping) : (kind.empty : Store τ).Holds kind [] where
  ready := kind.open_empty
  same := by cases kind <;> rfl
  records := by cases kind <;> exact fun _ => rfl
  indices := by cases kind <;> exact fun _ => rfl
  unique := by
    cases kind with
    | memory => exact List.nodup_nil
    | tables => simp [Keeping.empty, heldKeys, Table.records, Table.empty]

/-- A write is remembered after the ones before it. -/
theorem Holds.write {store after : Store τ} {kind : Keeping} {batches : List (τ × Batch τ)}
    (holds : store.Holds kind batches) {now : τ} {batch : Batch τ}
    (written : store.write now batch = .ok after) : after.Holds kind (batches ++ [(now, batch)]) where
  ready := holds.ready.write written
  same := (kind_write written).trans holds.same
  records := fun key => by
    rw [record?_write written, holds.records, holds.same]
    simp [keyWrites, Keeping.recordAfter, Keeping.recordFrom, List.foldl_append, List.foldl_map]
  indices := fun key => by
    rw [index?_write_kept written, holds.indices, holds.same, entryFor?]
    simp only [Keeping.lastEntry?, List.flatMap_append, List.flatMap_singleton, List.reverse_append,
      List.find?_append, filedAs_eq, holds.same, Option.map_or]
    congr 1
    cases kind <;> rfl
  unique := heldKeys_write holds.unique written

end Store

private theorem World.run_cons {world next : World τ} {change : Change τ}
    (changed : world.change change = .ok next) (rest : List (Change τ)) :
    world.run (change :: rest) = next.run rest := by
  simp [run, changed, bind, Except.bind]

/-- A run leaves behind what has been written since everything was dropped last. -/
theorem World.run_holds {world : World τ} {kind : Keeping} {earlier : List (τ × Batch τ)}
    (holds : world.store.Holds kind earlier) (changes : List (Change τ)) :
    ∃ last, world.run changes = .ok last ∧
      last.store.Holds kind (batchesSince earlier world.now changes) := by
  induction changes generalizing world earlier with
  | nil => exact ⟨world, rfl, holds⟩
  | cons change rest ih =>
    cases change with
    | write batch =>
      obtain ⟨after, written⟩ := Store.write_ok holds.ready world.now batch
      have changed : world.change (.write batch) = .ok ⟨after, world.now⟩ := by
        simp [World.change, written, bind, Except.bind, pure, Except.pure]
      have next : (World.mk after world.now).store.Holds kind (earlier ++ [(world.now, batch)]) :=
        holds.write written
      rw [World.run_cons changed]
      exact ih next
    | clear =>
      have cleared : world.store.clear = .ok kind.empty := holds.same ▸ Store.clear_ok holds.ready
      have changed : world.change .clear = .ok ⟨kind.empty, world.now⟩ := by
        simp [World.change, cleared, bind, Except.bind, pure, Except.pure]
      have next : (World.mk kind.empty world.now).store.Holds kind [] := Store.holds_empty kind
      rw [World.run_cons changed]
      exact ih next
    | clock now =>
      have next : (World.mk world.store now).store.Holds kind earlier := holds
      exact ih next

omit [Instant τ] in
theorem mem_batchesSince {earlier : List (τ × Batch τ)} {now : τ}
    {changes : List (Change τ)} {entry : τ × Batch τ}
    (member : entry ∈ batchesSince earlier now changes) :
    entry ∈ earlier ∨ Change.write entry.2 ∈ changes := by
  induction changes generalizing earlier now with
  | nil => exact .inl member
  | cons change rest ih =>
    cases change with
    | write batch =>
      obtain before | after := ih member
      · obtain old | new := List.mem_append.mp before
        · exact .inl old
        · rw [List.mem_singleton.mp new]
          exact .inr List.mem_cons_self
      · exact .inr (List.mem_cons_of_mem _ after)
    | clear =>
      obtain before | after := ih member
      · cases before
      · exact .inr (List.mem_cons_of_mem _ after)
    | clock _ => exact (ih member).imp_right (List.mem_cons_of_mem _)

/-! ## What is shown -/

/-- A store that shows, at an instant, what these batches have written: under a key exactly
if its last write is live then, as the writes of the key tell, and nothing that a write has
cut off. Lookups go by the index entry that was written last, searches through all that is
shown. Deadlines are meant as the kind keeps them. -/
structure Store.Shows (store : Store τ) (kind : Keeping) (batches : List (τ × Batch τ)) (now : τ)
    (shown? : String → Option (Record τ)) : Prop where
  exposed : ∀ key, (shown? key).isSome ↔
    ∃ last, (keyWrites batches key).getLast? = some last ∧ kind.Lives last now
  reflects : ∀ key record, shown? key = some record →
    kind.Reflects key (keyWrites batches key) record
  cut : ∀ key record i earlier later, shown? key = some record →
    (keyWrites batches key)[i]? = some earlier → (keyWrites batches key)[i + 1]? = some later →
    ¬kind.Lives earlier later.time → ∀ field value,
      OrderedMap.get? record.data field = some value →
      ∃ write ∈ (keyWrites batches key).drop (i + 1),
        OrderedMap.get? write.record.data field = some value
  lookup : ∀ key, store.lookup now key = .ok (match kind.lastEntry? batches key with
    | none => []
    | some entry =>
      if hasExpired (kind.keeps entry.expiresAt) now then []
      else entry.entityKeys.filterMap shown?)
  find : ∃ keys : List String, keys.Nodup ∧ (∀ key, (shown? key).isSome → key ∈ keys) ∧
    ∀ typeName identifier, store.find now typeName identifier =
      .ok ((keys.filterMap shown?).filter fun record =>
        record.typeName == Text.lowercase typeName && identifier.all (record.entityId == ·))

/-- What is held under a key tells what was written there. -/
private theorem Store.Holds.reflects {store : Store τ} {kind : Keeping}
    {batches : List (τ × Batch τ)} (holds : store.Holds kind batches)
    (mapped : ∀ entry ∈ batches, entry.2.Mapped) (key : String) {record : Record τ}
    (held : store.record? key = some record) :
    kind.Reflects key (keyWrites batches key) record := by
  rw [holds.records] at held
  have written : keyWrites batches key ≠ [] := by
    intro none
    rw [none] at held
    cases held
  have unique : ∀ write ∈ keyWrites batches key, (OrderedMap.keys write.record.data).Nodup := by
    intro write member
    obtain ⟨batch, inside, member⟩ := List.mem_flatMap.mp member
    obtain ⟨record, own, rfl⟩ := List.mem_map.mp member
    obtain ⟨entry, filed, picked⟩ := List.mem_filterMap.mp own
    split at picked
    · cases picked
      exact mapped batch inside entry filed
    · cases picked
  obtain ⟨told, found, reflects⟩ : ∃ told, kind.recordFrom key (keyWrites batches key) = some told ∧
      kind.Reflects key (keyWrites batches key) told := Keeping.recordFrom_reflects written unique
  cases held.symm.trans found
  exact reflects

theorem Store.Holds.shows {store : Store τ} {kind : Keeping} {batches : List (τ × Batch τ)}
    (holds : store.Holds kind batches) (mapped : ∀ entry ∈ batches, entry.2.Mapped) (now : τ) :
    store.Shows kind batches now fun key => (store.record? key).filter (·.isLive now) where
  exposed key := by
    constructor
    · intro shown
      obtain ⟨record, shown⟩ := Option.isSome_iff_exists.mp shown
      obtain ⟨held, live⟩ := Option.filter_eq_some_iff.mp shown
      obtain ⟨last, ended, _, deadline⟩ := (holds.reflects mapped key held).last
      exact ⟨last, ended, by simpa [Record.isLive, Keeping.Lives, deadline] using live⟩
    · rintro ⟨last, ended, lives⟩
      have written : ∃ record, store.record? key = some record := by
        obtain ⟨earlier, writes⟩ := List.getLast?_eq_some_iff.mp ended
        rw [holds.records, writes, Keeping.recordFrom_snoc]
        exact ⟨_, rfl⟩
      obtain ⟨record, held⟩ := written
      obtain ⟨last', ended', _, deadline⟩ := (holds.reflects mapped key held).last
      cases ended.symm.trans ended'
      rw [Keeping.Lives, ← deadline] at lives
      simp [held, Option.filter_some, Record.isLive, lives]
  reflects key record shown :=
    holds.reflects mapped key (Option.filter_eq_some_iff.mp shown).1
  cut key record i earlier later shown here next gone field value told :=
    (holds.reflects mapped key (Option.filter_eq_some_iff.mp shown).1).cut here next gone told
  lookup key := by
    rw [lookup_shows holds.ready, holds.indices]
    cases kind.lastEntry? batches key <;> rfl
  find := by
    refine ⟨store.heldKeys, holds.unique, fun key shown => ?_, fun typeName identifier => ?_⟩
    · obtain ⟨record, shown⟩ := Option.isSome_iff_exists.mp shown
      rw [mem_heldKeys, (Option.filter_eq_some_iff.mp shown).1]
      rfl
    · rw [find_shows holds.ready holds.unique, List.filter_filterMap, List.filter_filterMap]
      congr 1
      refine List.filterMap_congr fun key _ => ?_
      rw [Option.filter_filter]
      simp only [Bool.and_comm]

/-- What is read after a run of writes, clears and clock moves is told by what was written
since everything was dropped last. -/
theorem World.reads_reflect_writes (kind : Keeping) (start : τ) (changes : List (Change τ))
    (mapped : ∀ batch, Change.write batch ∈ changes → batch.Mapped) :
    ∃ world, (World.mk kind.empty start).run changes = .ok world ∧
      ∀ now, ∃ shown?, world.store.Shows kind (batchesSince [] start changes) now shown? := by
  have holds : (World.mk kind.empty start).store.Holds kind [] := Store.holds_empty kind
  obtain ⟨world, ran, final⟩ := World.run_holds holds changes
  refine ⟨world, ran, fun now => ⟨_, final.shows (fun entry member => ?_) now⟩⟩
  obtain before | written := mem_batchesSince member
  · cases before
  · exact mapped entry.2 written

/-- A country is written with its capital, and again without it when the first record has
expired; then the clock goes back. -/
private def rewrittenCountry : List (Change Int) :=
  [.write ⟨[("country--1", ⟨"country--1", "country", "1",
      [("name", .string "Peru"), ("capital", .string "Lima")], false, some 10⟩)], []⟩,
    .clock 10,
    .write ⟨[("country--1", ⟨"country--1", "country", "1", [("name", .string "Perú")], false,
      none⟩)], []⟩,
    .clock 0]

/-- The country is shown, but the capital that had expired when the country was written again
is not. -/
theorem World.reads_reflect_country :
    ∃ world, (World.mk (.tables (some .empty)) 0).run rewrittenCountry = .ok world ∧
      ∃ shown?, world.store.Shows .tables (batchesSince [] 0 rewrittenCountry) 0 shown? ∧
        ∃ record, shown? "country--1" = some record ∧
          OrderedMap.get? record.data "capital" = none := by
  obtain ⟨world, ran, reads⟩ := World.reads_reflect_writes .tables 0 rewrittenCountry (by
    intro batch member
    simp only [rewrittenCountry, List.mem_cons, Change.write.injEq, reduceCtorEq, List.not_mem_nil,
      or_false, false_or] at member
    obtain rfl | rfl := member <;> simp [Batch.Mapped, OrderedMap.keys])
  obtain ⟨shown?, shows⟩ := reads 0
  obtain ⟨record, shown⟩ := Option.isSome_iff_exists.mp
    ((shows.exposed "country--1").mpr ⟨_, rfl, rfl⟩)
  refine ⟨world, ran, shown?, shows, record, shown, ?_⟩
  by_contra visible
  obtain ⟨value, told⟩ := Option.ne_none_iff_exists'.mp visible
  obtain ⟨write, member, carries⟩ := shows.cut _ record 0 _ _ shown rfl rfl
    (by simp [Keeping.Lives, hasExpired, Keeping.keeps, Instant.reached, Instant.kept]) _ _ told
  obtain rfl := List.mem_singleton.mp member
  simp [OrderedMap.get?] at carries

end GraphCache
