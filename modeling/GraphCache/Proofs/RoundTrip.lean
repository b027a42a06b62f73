import GraphCache.Proofs.Calls
import Mathlib

/-! A call finds again what the same call has filed. Within the lifetime of an answer the
lookup of each of its roots gives one record for every object that can be addressed, in
the order of the answer, whatever the store held before. The record has each field that
was requested of the object and carried by it. As one entity may be met many times, the
value is that of the last object filed under the same key. -/
namespace GraphCache

/-- The objects of a value that have an identifier, under the node of their field. -/
def Node.identified (fieldKey : String) (node : Node) (custom : Option String) (value : Json) :
    List Occurrence :=
  ((objectsOf value).filter fun object => (entityIdOf object custom).isSome).map fun object =>
    ⟨fieldKey, node, object⟩

section Plain
variable {τ : Type}

/-- An object is found again in what is shown under its key. Every field that was requested
of it and carried by it is there, with the value that was filed last. -/
structure Filing.Keeps (filing : Filing τ) (occurrences : List Occurrence)
    (occurrence : Occurrence) (content : Content τ) : Prop where
  key : filing.keyOf? occurrence = some content.key
  fields : ∀ field, (occurrence.carried? field).isSome →
    (OrderedMap.get? content.data field).isSome ∧
      OrderedMap.get? content.data field = filing.lastCarried? occurrences content.key field

end Plain

variable {τ : Type} [Instant τ]

/-! ## What is shown of a batch -/

/-- A record hides whatever was held under its key, field by field. -/
theorem Record.get?_over (record : Record τ) (unique : (OrderedMap.keys record.data).Nodup)
    (now : τ) (held : Option (Content τ)) {field : String} {value : Json}
    (carried : OrderedMap.get? record.data field = some value) :
    OrderedMap.get? (record.over now held).data field = some value := by
  cases held with
  | none => exact carried
  | some held =>
    rw [Record.over]
    split
    · exact carried
    · simp [OrderedMap.get?_overlay_of_nodup unique, carried]

theorem Record.over_key (record : Record τ) (now : τ) (held : Option (Content τ)) :
    (record.over now held).key = record.key := by
  cases held with
  | none => rfl
  | some held => rw [Record.over]; split <;> rfl

theorem Record.over_expiresAt (record : Record τ) (now : τ) (held : Option (Content τ)) :
    (record.over now held).expiresAt = record.expiresAt := by
  cases held with
  | none => rfl
  | some held => rw [Record.over]; split <;> rfl

/-- After the write every filed object is kept in the content under its key. -/
theorem Filing.Holds.keeps {filing : Filing τ} {occurrences : List Occurrence}
    {entities : OrderedMap String (Record τ)} (holds : filing.Holds occurrences entities)
    {occurrence : Occurrence} (met : occurrence ∈ occurrences) {key : String}
    (filed : filing.keyOf? occurrence = some key) (now : τ) (held : Option (Content τ)) :
    ∃ content, contentAfter now entities key held = some content ∧
      content.expiresAt = filing.expiresAt ∧ filing.Keeps occurrences occurrence content := by
  obtain ⟨record, found⟩ := Option.isSome_iff_exists.mp (holds.present occurrence met key filed)
  have member := OrderedMap.mem_of_get?_eq_some found
  have own : record.key = key := holds.keyed _ member
  refine ⟨record.over now held, ?_, ?_, ?_⟩
  · rw [contentAfter_eq holds.unique, found]
  · rw [record.over_expiresAt, holds.expires _ member]
  · refine ⟨by rw [record.over_key, own, filed], fun field carried => ?_⟩
    have left : (filing.left? key field occurrence).isSome := by simpa [left?, filed] using carried
    obtain ⟨value, last⟩ := Option.isSome_iff_exists.mp (filing.lastCarried?_isSome met left)
    have carries := holds.carries key field
    rw [found, Option.bind_some, last] at carries
    rw [record.get?_over (holds.fields _ member) now held carries, record.over_key, own, last]
    exact ⟨rfl, rfl⟩

private theorem shown_keeps {filing : Filing τ} {occurrences : List Occurrence}
    {fieldKey : String} {node : Node} {content? : String → Option (Content τ)} {now : τ}
    (objects : List (OrderedMap String Json))
    (addressed : ∀ object ∈ objects, (filing.keyOf? ⟨fieldKey, node, object⟩).isSome =
      (entityIdOf object filing.custom).isSome)
    (kept : ∀ object ∈ objects, ∀ key, filing.keyOf? ⟨fieldKey, node, object⟩ = some key →
      ∃ content, content? key = some content ∧ hasExpired content.expiresAt now = false ∧
        filing.Keeps occurrences ⟨fieldKey, node, object⟩ content) :
    List.Forall₂ (filing.Keeps occurrences)
      ((objects.filter fun object => (entityIdOf object filing.custom).isSome).map fun object =>
        ⟨fieldKey, node, object⟩)
      (((objects.filterMap fun object => filing.keyOf? ⟨fieldKey, node, object⟩).filterMap
        content?).filter fun content => !hasExpired content.expiresAt now) := by
  induction objects with
  | nil => exact .nil
  | cons object rest ih =>
    obtain ⟨own, others⟩ := List.forall_mem_cons.mp addressed
    obtain ⟨first, later⟩ := List.forall_mem_cons.mp kept
    have tail := ih others later
    cases keyed : filing.keyOf? ⟨fieldKey, node, object⟩ with
    | none =>
      rw [keyed] at own
      simpa [← own, keyed] using tail
    | some key =>
      rw [keyed] at own
      obtain ⟨content, found, live, keeps⟩ := first key keyed
      have shown := List.Forall₂.cons keeps tail
      simpa [← own, keyed, found, live] using shown

/-! ## What is found of a deposit -/

omit [Instant τ] in
/-- A root whose objects were filed has a key that can be looked up. -/
theorem Node.queryKey_hashable {filing : Filing τ} {fieldKey : String} {node : Node}
    {category key : Label} (categorized : filing.categoryOf fieldKey node = .ok category)
    {custom : Option String} (named : node.queryKey custom = .ok key) :
    key.hashable = .ok key := by
  have typed : node.typeLabel.hashable = .ok node.typeLabel := by
    cases typed : node.typeLabel with
    | text name => rfl
    | displaced mark =>
      simp only [Filing.categoryOf, GraphCache.category, typed, bind, except_bind_ok] at categorized
      obtain ⟨label, hashable, _⟩ := categorized
      cases mark <;> first | rfl | cases hashable
  simp only [queryKey, bind, except_bind_ok, pure, Except.pure] at named
  obtain ⟨filters, _, own, keyed, rest⟩ := named
  have hashable : own.hashable = .ok own := by
    simp only [cacheKey] at keyed
    split at keyed
    · cases keyed
      exact typed
    · cases made : node.typeLabel.entityKey node.identifier.display with
      | error fault => simp_all [Except.map]
      | ok text => simp_all [Except.map]; subst keyed; rfl
  split at rest
  · cases rest
    exact hashable
  · split at rest
    · cases rest
      rfl
    · cases rest

private theorem entry_of_root {α β : Type} {related : α → β → Prop} {before rest : List α}
    {root : α} {entries : List β} (all : List.Forall₂ related (before ++ root :: rest) entries) :
    ∃ early entry late, entries = early ++ entry :: late ∧ related root entry ∧
      List.Forall₂ related rest late := by
  induction before generalizing entries with
  | nil =>
    cases all with
    | cons own others => exact ⟨[], _, _, rfl, own, others⟩
  | cons first before ih =>
    cases all with
    | cons _ others =>
      obtain ⟨early, entry, late, rfl, own, tail⟩ := ih others
      exact ⟨_ :: early, entry, late, rfl, own, tail⟩

omit [Instant τ] in
/-- Where the later roots that are filed under the label of an entry name the same entities, the
last entry of that label names them. -/
private theorem entryFor?_last {filing : Filing τ} {store : Store τ} {key : Label}
    {rest : List (String × Node × Json)} (early : List (IndexEntry τ)) {late : List (IndexEntry τ)}
    {entry : IndexEntry τ} (others : List.Forall₂ filing.Indexes rest late) (own : entry.key = key)
    (expires : entry.expiresAt = filing.expiresAt)
    (last : ∀ other ∈ rest, ∀ label, other.2.1.queryKey filing.custom = .ok label →
      store.filedAs label = store.filedAs key →
      filing.keysOf other.1 other.2.1 other.2.2 = entry.entityKeys) :
    ∃ found, store.entryFor? (early ++ entry :: late) key = some found ∧
      found.entityKeys = entry.entityKeys ∧ found.expiresAt = filing.expiresAt := by
  have alike : ∀ other ∈ late, store.filedAs other.key = store.filedAs key →
      other.entityKeys = entry.entityKeys ∧ other.expiresAt = filing.expiresAt := by
    intro other member same
    obtain ⟨root, inside, indexed⟩ := exists_related others member
    exact ⟨indexed.entityKeys.trans (last root inside _ indexed.key same), indexed.expires⟩
  rw [Store.entryFor?, List.reverse_append, List.reverse_cons, List.append_assoc, List.find?_append]
  cases met : late.reverse.find? fun other =>
      decide (store.filedAs other.key = store.filedAs key) with
  | some other =>
    have member := List.mem_reverse.mp (List.mem_of_find?_eq_some met)
    have same : store.filedAs other.key = store.filedAs key := by
      simpa using List.find?_some met
    exact ⟨other, rfl, alike other member same⟩
  | none => exact ⟨entry, by simp [own], rfl, expires⟩

section Exact
variable [LinearOrder τ] [Add τ] [Instant.Exact τ]

/-- Of the roots filed under one label the last one is found, until it expires, and so is every
root that names the same entities as all later ones of its label. -/
theorem Store.deposit_shows {store after : Store τ} {settings : StoreSettings τ} {now later : τ}
    {deposit : Deposit τ} {batch : Batch τ} {data : OrderedMap String Json}
    (filed : store.deposit settings now deposit = .ok (after, batch))
    (object : deposit.data = .object data)
    (soon : later < now + deposit.lifetime.getD settings.lifetime)
    {before rest : List (String × Node × Json)} {root : String} {node : Node} {value : Json}
    (place : deposit.prototype.carriedRoots data = before ++ (root, node, value) :: rest)
    {key : Label} (named : node.queryKey (deposit.filing settings now).custom = .ok key)
    (last : ∀ other ∈ rest, ∀ label,
      other.2.1.queryKey (deposit.filing settings now).custom = .ok label →
      store.filedAs label = store.filedAs key →
      (deposit.filing settings now).keysOf other.1 other.2.1 other.2.2 =
        (deposit.filing settings now).keysOf root node value) :
    key.hashable = .ok key ∧
      List.Forall₂ ((deposit.filing settings now).Keeps (deposit.prototype.occurrences data))
        (node.identified root (deposit.filing settings now).custom value)
        (shownBy after.content? later (after.index? key)) := by
  obtain ⟨made, written⟩ := Store.deposit_writes filed
  rw [object] at made
  obtain ⟨holds, all⟩ := Filing.batchOf_holds rfl made
  rw [place] at all
  obtain ⟨early, entry, late, queries, indexed, others⟩ := entry_of_root all
  have same : entry.key = key := Except.ok.inj (indexed.key.symm.trans named)
  obtain ⟨shown, met, keys, expires⟩ := entryFor?_last early others same indexed.expires
    fun other member label named alike => (last other member label named alike).trans
      indexed.entityKeys.symm
  have found : after.index? key = some shown.index := by
    rw [Store.index?_write written, queries, met]
    rfl
  have live : hasExpired (deposit.filing settings now).expiresAt later = false := by
    have fresh : ¬now + deposit.lifetime.getD settings.lifetime ≤ later := not_le.mpr soon
    rw [← Instant.Exact.after_eq, ← Instant.Exact.reached_iff] at fresh
    simpa [Deposit.filing, hasExpired] using fresh
  refine ⟨Node.queryKey_hashable indexed.category named, ?_⟩
  simp only [found, shownBy, IndexEntry.index, expires, live, keys, indexed.entityKeys,
    Bool.false_eq_true, ↓reduceIte]
  refine shown_keeps (objectsOf value) indexed.addressed fun inner member key filed => ?_
  have met : ⟨root, node, inner⟩ ∈ deposit.prototype.occurrences data := by
    simp only [Prototype.occurrences, place, Node.occurrences, List.mem_flatMap]
    exact ⟨(root, node, value), by simp, inner, member, by simp⟩
  obtain ⟨content, written?, expires, keeps⟩ := holds.keeps met filed now (store.content? key)
  exact ⟨content, by rw [Store.content?_write holds.keyed written, written?], by rw [expires, live],
    keeps⟩

/-! ## Two calls -/

/-- How a call files the data of its answer. -/
def Client.filingOf (client : Client τ) (settings : Settings) (call : Call) (document : Document)
    (data : OrderedMap String Json) (now : τ) : Filing τ :=
  (deposit settings call (document.expanded settings.cache.custom) false (.object data)).filing
    client.filing now

omit [LinearOrder τ] [Add τ] [Instant.Exact τ] in
/-- What a store answers for, it answers for after every write and at every time. -/
theorem Store.recall_ok_after {store after : Store τ} {early now later : τ} {batch : Batch τ}
    {label : Label} {records : List (Record τ)} (found : store.recall early label = .ok records)
    (written : store.write now batch = .ok after) :
    ∃ records, after.recall later label = .ok records := by
  obtain ⟨state, rfl, rfl⟩ | ⟨state, rfl, rfl⟩ | ⟨rfl, _⟩ := Store.write_cases written
  · cases label with
    | text key => exact ⟨_, rfl⟩
    | displaced mark =>
      simp only [Store.recall, bind, except_bind_ok, except_mapError_ok] at found
      obtain ⟨label, hashable, _⟩ := found
      exact ⟨(state.write now batch).lookup later label, by
        simp [Store.recall, hashable, Except.mapError, bind, Except.bind, pure, Except.pure]⟩
  · cases label with
    | text key => exact ⟨_, rfl⟩
    | displaced mark =>
      cases column : (Label.displaced mark).rowKey? with
      | none => simp [Store.recall, column] at found
      | some key => exact ⟨(state.write now batch).lookup later key, by simp [Store.recall, column]⟩
  · cases label <;> cases found

namespace Client

omit [LinearOrder τ] [Add τ] [Instant.Exact τ] in
/-- When a call has returned, the lookups of the same call made again fail nowhere, because the
first ones did not. -/
theorem looks_again {client : Client τ} {call : Call} {settings : Settings} {document : Document}
    (queries : client.Queries call settings document) {store : Store τ} {early now : τ}
    {opening : Opening τ} {delivery : Delivery} {returned : Answer}
    (begun : (client.begin call store early).result = .ok opening)
    (finished : (client.finish opening delivery store now).result = .ok returned) (later : τ) :
    ∃ cached, lookupRoots (client.finish opening delivery store now).store later
      (client.lookupName settings) (document.expanded settings.cache.custom) = .ok cached := by
  obtain ⟨first, looked, rfl⟩ := (begin_ok_iff queries).mp begun
  obtain ⟨_, _, _, filed, _⟩ := finish_ok finished
  refine lookupRoots_ok fun root member => ?_
  obtain ⟨key, named, found⟩ :=
    lookupRoots_finds (Document.expanded_keys_nodup queries.eligible) looked root member
  obtain ⟨records, recalled⟩ := Store.recall_ok_after found (Store.deposit_writes filed).2
  exact ⟨records, key, named, recalled⟩

/-- What the same call finds for a root, made again within the lifetime of the answer: one record
for each object of the answer that can be addressed, which keeps it, unless a later root that
is filed under the same label names other entities. -/
theorem root_found_again {client : Client τ} {call : Call} {settings : Settings}
    {document : Document} (queries : client.Queries call settings document) {store : Store τ}
    {early now later : τ} {opening : Opening τ} {delivery : Delivery} {answer returned : Answer}
    {data : OrderedMap String Json}
    (begun : (client.begin call store early).result = .ok opening)
    (delivered : delivery.answer opening.request.endpoint = .ok answer)
    (object : dataOf answer = .object data)
    (finished : (client.finish opening delivery store now).result = .ok returned)
    (soon : later < now + Instant.ofSeconds settings.cache.lifetime)
    {cached : OrderedMap String (List (Record τ))}
    (second : lookupRoots (client.finish opening delivery store now).store later
      (client.lookupName settings) (document.expanded settings.cache.custom) = .ok cached)
    {before rest : List (String × Node × Json)} {root : String} {node : Node} {value : Json}
    (place : (document.expanded settings.cache.custom).carriedRoots data =
      before ++ (root, node, value) :: rest)
    (last : ∀ other ∈ rest, ∀ key label, node.queryKey (client.lookupName settings) = .ok key →
      other.2.1.queryKey (client.lookupName settings) = .ok label →
      store.filedAs label = store.filedAs key →
      (client.filingOf settings call document data now).keysOf other.1 other.2.1 other.2.2 =
        (client.filingOf settings call document data now).keysOf root node value) :
    List.Forall₂
      ((client.filingOf settings call document data now).Keeps
        ((document.expanded settings.cache.custom).occurrences data))
      (node.identified root (client.lookupName settings) value)
      (((OrderedMap.get? cached root).getD []).map Record.content) := by
  obtain ⟨first, looked, rfl⟩ := (begin_ok_iff queries).mp begun
  obtain ⟨answer', batch, delivered', filed, _⟩ := finish_ok finished
  cases Except.ok.inj (delivered'.symm.trans delivered)
  rw [object] at filed
  have carried : (root, node, value) ∈
      (document.expanded settings.cache.custom).carriedRoots data := by
    rw [place]
    simp
  obtain ⟨key, named, recalled⟩ := lookupRoots_finds
    (Document.expanded_keys_nodup queries.eligible) second (root, node)
    (Prototype.mem_of_carried carried)
  obtain ⟨hashable, shown⟩ := Store.deposit_shows filed rfl soon place named
    fun other later label labelled same => last other later key label named labelled same
  rw [Store.recall_shows hashable recalled]
  exact shown

/-- When a call has returned, the same call made again within the lifetime of the answer finds
every object of the answer that can be addressed. For each root with a value, unless a later
root with a value is filed under the same label, it finds one record for each such object in
the order of the answer, and every record keeps its object. -/
theorem second_call_finds_answer {client : Client τ} {call : Call} {settings : Settings}
    {document : Document} (queries : client.Queries call settings document) {store : Store τ}
    {early now later : τ} {opening : Opening τ} {delivery : Delivery} {answer returned : Answer}
    {data : OrderedMap String Json}
    (begun : (client.begin call store early).result = .ok opening)
    (delivered : delivery.answer opening.request.endpoint = .ok answer)
    (object : dataOf answer = .object data)
    (finished : (client.finish opening delivery store now).result = .ok returned)
    (soon : later < now + Instant.ofSeconds settings.cache.lifetime) :
    ∃ cached,
      (client.begin call (client.finish opening delivery store now).store later).result =
        .ok ⟨request settings call "POST", queryPlan settings call document cached⟩ ∧
      ∀ before root node value rest,
        (document.expanded settings.cache.custom).carriedRoots data =
          before ++ (root, node, value) :: rest →
        (∀ other ∈ rest, ∀ key label, node.queryKey (client.lookupName settings) = .ok key →
          other.2.1.queryKey (client.lookupName settings) = .ok label →
          store.filedAs label ≠ store.filedAs key) →
        List.Forall₂
          ((client.filingOf settings call document data now).Keeps
            ((document.expanded settings.cache.custom).occurrences data))
          (node.identified root (client.lookupName settings) value)
          (((OrderedMap.get? cached root).getD []).map Record.content) := by
  obtain ⟨cached, second⟩ := looks_again queries begun finished later
  refine ⟨cached, (begin_ok_iff queries).mpr ⟨cached, second, rfl⟩, ?_⟩
  intro before root node value rest place last
  exact root_found_again queries begun delivered object finished soon second place
    fun other later key label named labelled same =>
      absurd same (last other later key label named labelled)

end Client
end Exact

/-! ## A list in which one entity stands twice -/

def Client.standard : Client Int := ⟨.standard, ⟨"", []⟩, ⟨600, none⟩, .memory⟩

namespace Countries

def call : Call :=
  ⟨"https://api.example.test/graphql", "\x7b countries \x7b id name \x7d \x7d", [], [], [], []⟩

def operation : Operation :=
  ⟨.query, none, [], [], [.relation ⟨none, "countries", [], []⟩
    [.leaf ⟨none, "id", [], []⟩, .leaf ⟨none, "name", [], []⟩]]⟩

def document : Document := ⟨[.operation operation]⟩

def node : Node :=
  [("id", .requested), ("name", .requested), ("__id", .literal .null),
   ("__type", .literal (.string "countries")), ("__alias", .literal .null),
   ("__args", .literal .null)]

def value : Json :=
  .array [.object [("id", .int 1), ("name", .string "Peru")],
    .object [("id", .int 1), ("name", .string "Republic of Peru")]]

def delivery : Delivery :=
  .answered 200 (Json.print Json.bodyStyle (.object [("data", .object [("countries", value)])]))

/-- A store with an older record that is still live. -/
def store : Store Int :=
  .memory ⟨[("countries--1", ⟨"countries--1", "countries", "1", [("capital", .string "Lima")], false,
    some 100⟩)], []⟩

def opening : Opening Int :=
  ⟨Client.request .standard call "POST", Client.queryPlan .standard call document []⟩

set_option maxRecDepth 4000 in
theorem queries : Client.standard.Queries call .standard document := ⟨rfl, by cbv, by decide⟩

theorem begun : (Client.standard.begin call store 0).result = .ok opening :=
  (Client.begin_ok_iff queries).mpr ⟨[], except_ok_of_toOption (by decide +kernel), rfl⟩

theorem delivered : delivery.answer opening.request.endpoint =
    .ok [("data", .object [("countries", value)])] :=
  except_ok_of_toOption (by decide +kernel)

theorem finished : (Client.standard.finish opening delivery store 1).result =
    .ok [("data", .object [("countries", value)])] :=
  except_ok_of_toOption (by decide +kernel)

end Countries

open Countries in
theorem Client.second_call_finds_countries :
    ∃ cached,
      (Client.standard.begin call (Client.standard.finish opening delivery store 1).store 600).result =
        .ok ⟨request .standard call "POST", queryPlan .standard call document cached⟩ ∧
      List.Forall₂
        ((Client.standard.filingOf .standard call document [("countries", value)] 1).Keeps
          ((document.expanded none).occurrences [("countries", value)]))
        (node.identified "countries" none value)
        (((OrderedMap.get? cached "countries").getD []).map Record.content) := by
  obtain ⟨cached, again, found⟩ := second_call_finds_answer queries begun delivered rfl finished
    (show (600 : Int) < 1 + 600 by decide)
  exact ⟨cached, again, found [] "countries" node value [] rfl (by simp)⟩

end GraphCache
