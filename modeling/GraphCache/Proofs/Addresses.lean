import GraphCache.Proofs.Filings
import GraphCache.Proofs.LowerTypes

/-! Records stand under the keys that their types and identifiers make, and an index names only
keys under which a record stands. Filing answers keeps it so, whichever names the caller maps
to which, and so do writes over what is held: tables never change the type and the identifier
of a row, but both are told by its key. So every live record is found by its type and
identifier, and it alone. -/
namespace GraphCache

variable {τ : Type}

/-- A record under the key of its type and identifier, with a type in lower case. -/
structure Record.Addressed (record : Record τ) : Prop where
  key : record.key = entityKey record.typeName record.entityId
  lower : Text.Lowered record.typeName

/-! ## Filing -/

theorem Prototype.LowerTyped.occurrences {prototype : Prototype} (typed : prototype.LowerTyped)
    (data : OrderedMap String Json) :
    ∀ occurrence ∈ prototype.occurrences data, occurrence.node.LowerTyped :=
  occurrences_inherit (fun _ _ _ lower _ written => lower.inside written) typed data

/-- A label that is in lower case if it is a text. -/
def Label.Lowered (label : Label) : Prop := ∀ name, label = .text name → Text.Lowered name

theorem Node.LowerTyped.label {node : Node} (typed : node.LowerTyped) : node.typeLabel.Lowered :=
  fun _ label => typed.typeLabel label

namespace Filing

/-- A filing that maps names to names in lower case only. -/
structure Lowered (filing : Filing τ) : Prop where
  fields : ∀ entry ∈ filing.fieldMap, Text.Lowered entry.2
  types : ∀ entry ∈ filing.typeMap, Text.Lowered entry.2

private theorem lowered_lowerNames (map : OrderedMap String Json) :
    ∀ entry ∈ lowerNames map, Text.Lowered entry.2 := by
  intro entry member
  obtain none | written := OrderedMap.mem_of_mem_overlay member
  · cases none
  · obtain ⟨own, _, rfl⟩ := List.mem_map.mp written
    exact Text.lowered_lowercase _

private theorem lowered_label {map : OrderedMap String String}
    (lower : ∀ entry ∈ map, Text.Lowered entry.2) {name : String} {label : Label}
    (found : OrderedMap.get? (labels map) name = some label) : label.Lowered := by
  rw [labels, OrderedMap.get?_map map (fun _ => Label.text), Option.map_eq_some_iff] at found
  obtain ⟨value, held, rfl⟩ := found
  intro text same
  cases same
  exact lower (name, value) (OrderedMap.mem_of_get?_eq_some held)

private theorem lowered_choice {first second : Option Label} {fallback : Label}
    (one : ∀ label, first = some label → label.Lowered)
    (two : ∀ label, second = some label → label.Lowered) (otherwise : fallback.Lowered) :
    ((first <|> second).getD fallback).Lowered := by
  cases first with
  | some label => exact one label rfl
  | none =>
    cases second with
    | some label => exact two label rfl
    | none => exact otherwise

/-- A category that is a text is in lower case: it is a lower-cased key, the type of the node,
or a name from one of the maps. -/
theorem Lowered.categoryOf {filing : Filing τ} (lower : filing.Lowered) {node : Node}
    (typed : node.LowerTyped) {fieldKey : String} {label : Label}
    (categorized : filing.categoryOf fieldKey node = .ok label) : label.Lowered := by
  simp only [Filing.categoryOf, category, bind, except_bind_ok] at categorized
  obtain ⟨type, hashed, chosen, picked, result⟩ := categorized
  have ofKey : (Label.text (Text.lowercase fieldKey)).Lowered := by
    intro name same
    cases same
    exact Text.lowered_lowercase fieldKey
  have ofField : type.Lowered := by
    rw [Label.eq_of_hashable hashed]
    split
    · exact ofKey
    · exact typed.label
  have ofMap (name : String) {label : Label}
      (mapped : mappedLabel? (labels filing.fieldMap) name = some label) : label.Lowered :=
    lowered_label lower.fields (Option.filter_eq_some_iff.mp mapped).1
  have ofChoice : chosen.Lowered := by
    rw [Label.eq_of_hashable picked]
    refine lowered_choice (fun label mapped => ?_) (fun label => ofMap _)
      (Label.eq_of_hashable hashed ▸ ofField)
    cases type with
    | displaced mark => cases mapped
    | text name => exact ofMap name mapped
  cases chosen with
  | displaced mark =>
    cases result
    exact ofChoice
  | text name =>
    cases result
    cases found : OrderedMap.get? (labels filing.typeMap) name with
    | none => exact ofChoice
    | some label => exact lowered_label lower.types found

/-- The record of an object is addressed. -/
theorem Lowered.recordOf? {filing : Filing τ} (lower : filing.Lowered) {occurrence : Occurrence}
    (typed : occurrence.node.LowerTyped) {record : Record τ}
    (found : filing.recordOf? occurrence = some record) : record.Addressed := by
  unfold Filing.recordOf? at found
  split at found
  · rename_i name categorized
    obtain ⟨identifier, _, rfl⟩ := Option.map_eq_some_iff.mp found
    exact ⟨rfl, lower.categoryOf typed categorized name rfl⟩
  · cases found

/-- Records stay addressed when those of more objects are put to them. -/
theorem Lowered.filed {filing : Filing τ} (lower : filing.Lowered) {occurrences : List Occurrence}
    (typed : ∀ occurrence ∈ occurrences, occurrence.node.LowerTyped)
    {entities : OrderedMap String (Record τ)} (addressed : ∀ entry ∈ entities, entry.2.Addressed) :
    ∀ entry ∈ filing.filed entities occurrences, entry.2.Addressed := by
  have records : ∀ record ∈ occurrences.filterMap filing.recordOf?, record.Addressed := by
    intro record member
    obtain ⟨occurrence, inside, found⟩ := List.mem_filterMap.mp member
    exact lower.recordOf? (typed occurrence inside) found
  unfold Filing.filed
  generalize occurrences.filterMap filing.recordOf? = left at records ⊢
  induction left generalizing entities with
  | nil => exact addressed
  | cons record rest ih =>
    obtain ⟨own, others⟩ := List.forall_mem_cons.mp records
    refine ih (fun entry member => ?_) others
    obtain old | rfl := OrderedMap.mem_of_mem_insert member
    · exact addressed entry old
    · cases found : OrderedMap.get? entities record.key with
      | none => exact own
      | some existing =>
        obtain ⟨key, lower⟩ := addressed _ (OrderedMap.mem_of_get?_eq_some found)
        exact ⟨key, lower⟩

end Filing

/-- A batch of addressed records, each under its own key, whose index names no others. -/
structure Batch.Addressed (batch : Batch τ) : Prop where
  keyed : batch.Keyed
  records : ∀ entry ∈ batch.entities, entry.2.Addressed
  indices : ∀ entry ∈ batch.queries, ∀ name ∈ entry.entityKeys,
    (OrderedMap.get? batch.entities name).isSome

variable [Instant τ]

/-- An answer is filed in such a batch if its prototype was compiled from a document, whatever
its data are and whatever the names are mapped to. -/
theorem Deposit.batchAt_addressed {deposit : Deposit τ} (compiled : deposit.prototype.Compiled)
    {settings : StoreSettings τ} {now : τ} {batch : Batch τ}
    (made : deposit.batchAt settings now = .ok batch) : batch.Addressed := by
  have lower : (deposit.filing settings now).Lowered :=
    ⟨Filing.lowered_lowerNames _, Filing.lowered_lowerNames _⟩
  obtain ⟨fields, _, entities, holds, all⟩ := Filing.exists_batchOf_filed made
  refine ⟨holds.keyed, ?_, fun entry member name named => holds.names all member named⟩
  rw [entities]
  exact lower.filed (compiled.lowerTyped.occurrences fields) (by simp)

/-! ## Writing -/

namespace Keeping

/-- What is held under a key stays addressed when addressed records are written there, also
where a table keeps the type and the identifier that came first. -/
theorem recordAfter_addressed (kind : Keeping) {key : String} {now : τ} {records : List (Record τ)}
    (own : ∀ record ∈ records, record.key = key ∧ record.Addressed) (held : Option (Record τ))
    (before : ∀ record, held = some record → record.key = key ∧ record.Addressed) :
    ∀ record, kind.recordAfter key now held records = some record →
      record.key = key ∧ record.Addressed := by
  refine kind.recordAfter_induction (fun record member held before => ?_) before
  obtain ⟨keyed, addressed⟩ := own record member
  cases kind with
  | memory => exact ⟨keyed, addressed.key, addressed.lower⟩
  | tables =>
    cases held with
    | none => exact ⟨rfl, keyed ▸ addressed.key, addressed.lower⟩
    | some first =>
      obtain ⟨key, addressed⟩ := before first rfl
      exact ⟨rfl, key ▸ addressed.key, addressed.lower⟩

theorem recordAfter_isSome (kind : Keeping) (key : String) (now : τ) {held : Option (Record τ)}
    {records : List (Record τ)} (some : held.isSome ∨ records ≠ []) :
    (kind.recordAfter key now held records).isSome := by
  induction records generalizing held with
  | nil => exact some.resolve_right (fun absent => absent rfl)
  | cons record rest ih => exact ih (.inl rfl)

end Keeping

namespace Store

/-- A store that holds addressed records, one under each key, and an index that names no other
keys. -/
structure Addressed (store : Store τ) : Prop where
  ready : store.Open
  unique : store.heldKeys.Nodup
  records : ∀ key record, store.record? key = some record → record.key = key ∧ record.Addressed
  indices : ∀ label index, store.index? label = some index → ∀ name ∈ index.entityKeys,
    (store.record? name).isSome

theorem addressed_empty (kind : Keeping) : (kind.empty : Store τ).Addressed where
  ready := kind.open_empty
  unique := (holds_empty kind).unique
  records := by cases kind <;> rintro _ _ ⟨⟩
  indices := by cases kind <;> rintro _ _ ⟨⟩

/-- Writing such a batch keeps a store so. -/
theorem Addressed.write {store after : Store τ} (addressed : store.Addressed) {batch : Batch τ}
    (filed : batch.Addressed) {now : τ} (written : store.write now batch = .ok after) :
    after.Addressed where
  ready := addressed.ready.write written
  unique := heldKeys_write addressed.unique written
  records := by
    intro key record held
    rw [record?_write written] at held
    refine store.kind.recordAfter_addressed (fun record member => ?_) _ (addressed.records key) record
      held
    obtain ⟨entry, inside, picked⟩ := List.mem_filterMap.mp member
    split at picked
    · rename_i same
      cases picked
      exact ⟨(filed.keyed entry inside).trans same, filed.records entry inside⟩
    · cases picked
  indices := by
    intro label index indexed name named
    rw [record?_write written]
    apply Keeping.recordAfter_isSome
    rw [index?_write_kept written] at indexed
    cases found : store.entryFor? batch.queries label with
    | some entry =>
      rw [found] at indexed
      cases indexed
      have member := List.mem_reverse.mp (List.mem_of_find?_eq_some found)
      obtain ⟨record, held⟩ := Option.isSome_iff_exists.mp (filed.indices entry member name named)
      refine .inr (List.ne_nil_of_mem (a := record) (List.mem_filterMap.mpr ?_))
      exact ⟨_, OrderedMap.mem_of_get?_eq_some held, by simp⟩
    | none =>
      rw [found] at indexed
      exact .inl (addressed.indices label index indexed name named)

end Store

/-- Every event keeps a store so that files answers to compiled prototypes only. -/
theorem World.after_addressed {world : World τ} (addressed : world.store.Addressed)
    (settings : StoreSettings τ) {event : FilingEvent τ}
    (compiled : ∀ deposit, event = .file deposit → deposit.prototype.Compiled) :
    (world.after settings event).store.Addressed := by
  obtain ⟨deposit, batch, store, filing, made, written, same⟩ | ⟨_, _, _, _, same⟩ | ⟨_, same⟩ |
    ⟨_, _, same⟩ := World.after_cases addressed.ready settings event
  · rw [same]
    exact addressed.write (Deposit.batchAt_addressed (compiled deposit filing) made) written
  · rwa [same]
  · rw [same]
    exact Store.addressed_empty _
  · rwa [same]

theorem World.afterAll_addressed {world : World τ} (addressed : world.store.Addressed)
    (settings : StoreSettings τ) {events : List (FilingEvent τ)}
    (compiled : ∀ deposit, .file deposit ∈ events → deposit.prototype.Compiled) :
    (world.afterAll settings events).store.Addressed := by
  induction events generalizing world with
  | nil => exact addressed
  | cons event rest ih =>
    refine ih (World.after_addressed addressed settings fun deposit same => ?_)
      fun deposit member => compiled deposit (List.mem_cons_of_mem _ member)
    exact compiled deposit (same ▸ List.mem_cons_self)

/-! ## Reading -/

omit [Instant τ] in
private theorem filterMap_single {keys : List String} (unique : keys.Nodup) {key : String}
    (member : key ∈ keys) (value : Record τ) {read : String → Option (Record τ)}
    (own : read key = some value) (others : ∀ other ∈ keys, other ≠ key → read other = none) :
    keys.filterMap read = [value] := by
  induction keys with
  | nil => cases member
  | cons first rest ih =>
    obtain ⟨fresh, tail⟩ := List.nodup_cons.mp unique
    by_cases same : first = key
    · subst same
      have none : rest.filterMap read = [] := by
        rw [List.filterMap_eq_nil_iff]
        intro other inside
        exact others other (List.mem_cons_of_mem _ inside) fun equal => fresh (equal ▸ inside)
      rw [List.filterMap_cons, own, none]
    · have inside := (List.mem_cons.mp member).resolve_left (Ne.symm same)
      rw [List.filterMap_cons, others first List.mem_cons_self same]
      exact ih tail inside fun other later => others other (List.mem_cons_of_mem _ later)

namespace Store

/-- A live record is what its type and its identifier are found by, and nothing else is. -/
theorem Addressed.find_eq {store : Store τ} (addressed : store.Addressed) {key : String}
    {record : Record τ} (held : store.record? key = some record) {now : τ}
    (live : record.isLive now = true) :
    store.find now record.typeName (some record.entityId) = .ok [record] := by
  have member : key ∈ store.heldKeys := (store.mem_heldKeys key).mpr (by simp [held])
  obtain ⟨keyed, own, lower⟩ := addressed.records key record held
  rw [find_shows addressed.ready addressed.unique, List.filter_filterMap,
    filterMap_single addressed.unique member record]
  · have same : record.typeName = Text.lowercase record.typeName := lower.symm
    simp [held, Option.filter_some, ← same, live]
  · intro other _ different
    cases found : store.record? other with
    | none => rfl
    | some second =>
      obtain ⟨named, two, _⟩ := addressed.records other second found
      rw [Option.filter_some, if_neg]
      intro matched
      simp only [Bool.and_eq_true, beq_iff_eq, Option.all_some] at matched
      obtain ⟨⟨type, identifier⟩, _⟩ := matched
      rw [lower] at type
      exact different (by rw [← named, two, type, identifier, ← own, keyed])

private theorem mem_memory_lookup {state : Memory τ} {now : τ} {label : Label} {record : Record τ}
    (member : record ∈ state.lookup now label) :
    ∃ name, OrderedMap.get? state.entities name = some record ∧ record.isLive now = true := by
  unfold Memory.lookup at member
  split at member
  · cases member
  · split at member
    · obtain ⟨inside, live⟩ := List.mem_filter.mp member
      obtain ⟨name, _, held⟩ := List.mem_filterMap.mp inside
      exact ⟨name, held, live⟩
    · cases member

private theorem mem_table_lookup {state : Table τ} {now : τ} {key : String} {record : Record τ}
    (member : record ∈ state.lookup now key) :
    ∃ name, (OrderedMap.get? state.entities name).map (Table.toRecord name) = some record ∧
      record.isLive now = true := by
  unfold Table.lookup at member
  split at member
  · cases member
  · split at member
    · cases member
    · obtain ⟨name, _, shown⟩ := List.mem_filterMap.mp member
      split at shown
      · rename_i row held
        split at shown
        · cases shown
        · rename_i live
          cases shown
          exact ⟨name, by rw [held, Option.map_some], by simpa [Record.isLive, Table.toRecord] using live⟩
      · cases shown

/-- What is looked up under any label is held, and live. -/
theorem mem_recall {store : Store τ} {now : τ} {label : Label} {records : List (Record τ)}
    (found : store.recall now label = .ok records) {record : Record τ} (member : record ∈ records) :
    ∃ name, store.record? name = some record ∧ record.isLive now = true := by
  match store with
  | .memory state =>
    have looked : ∃ probe, records = state.lookup now probe := by
      cases label with
      | text key => cases found; exact ⟨_, rfl⟩
      | displaced mark =>
        simp only [Store.recall, bind, except_bind_ok, pure, Except.pure, Except.ok.injEq] at found
        obtain ⟨probe, _, rfl⟩ := found
        exact ⟨probe, rfl⟩
    obtain ⟨probe, rfl⟩ := looked
    exact mem_memory_lookup member
  | .tables (some state) =>
    have looked : ∃ key, records = state.lookup now key := by
      cases label with
      | text key => cases found; exact ⟨_, rfl⟩
      | displaced mark =>
        simp only [Store.recall] at found
        split at found <;> cases found
        exact ⟨_, rfl⟩
    obtain ⟨key, rfl⟩ := looked
    exact mem_table_lookup member
  | .tables none => cases label <;> cases found

/-- What a store promises that holds addressed records: under every key stands the record of
its type and identifier, a type in lower case; an index names no other keys; and whatever is
live, or looked up, is exactly what its type and identifier are found by. -/
structure Findable (store : Store τ) : Prop where
  records : ∀ key record, store.record? key = some record → key = record.key ∧
    record.key = entityKey record.typeName record.entityId ∧
    Text.lowercase record.typeName = record.typeName
  indices : ∀ label index, store.index? label = some index → ∀ name ∈ index.entityKeys,
    ∃ record, store.record? name = some record
  live : ∀ now key record, store.record? key = some record → record.isLive now = true →
    store.find now record.typeName (some record.entityId) = .ok [record]
  looked : ∀ now key, ∃ records, store.lookup now key = .ok records ∧ ∀ record ∈ records,
    store.find now record.typeName (some record.entityId) = .ok [record]
  recalled : ∀ now label records, store.recall now label = .ok records → ∀ record ∈ records,
    store.find now record.typeName (some record.entityId) = .ok [record]

theorem Addressed.findable {store : Store τ} (addressed : store.Addressed) : store.Findable where
  records := by
    intro key record held
    obtain ⟨keyed, own, lower⟩ := addressed.records key record held
    exact ⟨keyed.symm, own, lower⟩
  indices := by
    intro label index indexed name named
    exact Option.isSome_iff_exists.mp (addressed.indices label index indexed name named)
  live := fun now key record held live => addressed.find_eq held live
  looked := by
    intro now key
    have found : store.recall now (.text key) = (store.lookup now key).mapError .failure := by
      cases store <;> rfl
    have recalled : ∃ records, store.recall now (.text key) = .ok records :=
      recall_ok addressed.ready rfl
    obtain ⟨records, recalled⟩ := recalled
    refine ⟨records, except_mapError_ok.mp (found.symm.trans recalled), fun record member => ?_⟩
    obtain ⟨name, held, live⟩ := mem_recall recalled member
    exact addressed.find_eq held live
  recalled := by
    intro now label records recalled record member
    obtain ⟨name, held, live⟩ := mem_recall recalled member
    exact addressed.find_eq held live

end Store

/-- Whatever answers to compiled prototypes are filed, with clears and clock moves in between:
everything a store holds can be found by what it is. -/
theorem World.run_findable (kind : Keeping) (settings : StoreSettings τ) (start : τ)
    (events : List (FilingEvent τ))
    (compiled : ∀ deposit, .file deposit ∈ events → deposit.prototype.Compiled) :
    ((World.mk kind.empty start).afterAll settings events).store.Findable :=
  (World.afterAll_addressed (Store.addressed_empty kind) settings compiled).findable

/-- A list in which one country stands twice is filed under another name, and read when the
clock has moved on. -/
private def mappedCountries : List (FilingEvent Int) :=
  [.file ⟨Countries.document.expanded none, .object [("countries", Countries.value)],
    [("Countries", .string "Nation")], [], false, none, none⟩, .clock 10]

/-- The country is found by the name it was filed under, whatever the case of that name. -/
theorem World.run_findable_countries :
    ∃ store, ((World.mk Keeping.tables.empty 0).afterAll ⟨600, none⟩ mappedCountries).store = store ∧
      store.Findable ∧ ∃ record, store.lookup 10 "countries" = .ok [record, record] ∧
        store.find 10 "NATION" (some "1") = .ok [record] := by
  have findable := World.run_findable .tables ⟨600, none⟩ (0 : Int) mappedCountries (by
    intro deposit member
    simp only [mappedCountries, List.mem_cons, FilingEvent.file.injEq, reduceCtorEq,
      List.not_mem_nil, or_false] at member
    subst member
    exact ⟨Countries.document, none, .inr rfl⟩)
  refine ⟨_, rfl, findable, ⟨"nation--1", "nation", "1",
    [("id", .int 1), ("name", .string "Republic of Peru")], false, some 600⟩, ?_, ?_⟩
  · exact except_ok_of_toOption (by decide +kernel)
  · exact except_ok_of_toOption (by decide +kernel)

end GraphCache
