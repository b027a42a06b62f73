import GraphCache.Exchange.Basic
import GraphCache.Proofs.Occurrences
import GraphCache.Proofs.StoreContents
import GraphCache.Proofs.Translation

/-! One call with a document that can be cached. Its first step reads the store once for
every root and changes nothing; its second step writes the batch of the answer and
completes the answer from what was read. -/
namespace GraphCache

/-- The settings and the document of a call that goes through the cache. -/
structure Client.Queries {τ : Type} (client : Client τ) (call : Call) (settings : Settings)
    (document : Document) : Prop where
  options : client.settings.withOptions client.homes call.options = .ok settings
  reads : readQuery call.query = .ok document
  eligible : (document.compile settings.cache.custom).route = .query

/-- The roots of a document with all fragments inlined. -/
def Document.expanded (document : Document) (custom : Option String) : Prototype :=
  Prototype.expand (document.compile custom).prototype (document.compile custom).fragments

namespace Document

/-- Only a document without an obstacle goes through the cache. -/
theorem clear_of_route {document : Document} {custom : Option String}
    (eligible : ∀ reason, (document.compile custom).route ≠ .pass reason) :
    (document.compile custom).obstacle = none := by
  cases met : (document.compile custom).obstacle with
  | none => rfl
  | some obstacle => exact absurd (by simp [Compilation.route, met]) (eligible obstacle.reason.name)

/-- Every root has a response key of its own. -/
theorem expanded_keys_nodup_of_clear {document : Document} {custom : Option String}
    (clear : (document.compile custom).obstacle = none) :
    (OrderedMap.keys (document.expanded custom)).Nodup := by
  have same : OrderedMap.keys (document.expanded custom) =
      OrderedMap.keys (document.translatedRoots custom) := by
    rw [← (compiled_trees clear).1]
    simp [expanded, Prototype.expand, OrderedMap.keys, Function.comp_def]
  rw [same]
  exact OrderedMap.keys_ofList_nodup _

theorem expanded_keys_nodup {document : Document} {custom : Option String}
    (eligible : (document.compile custom).route = .query) :
    (OrderedMap.keys (document.expanded custom)).Nodup :=
  expanded_keys_nodup_of_clear (clear_of_route (by simp [eligible]))

end Document

namespace Client

variable {τ : Type} [Instant τ]

/-! ## The first step -/

/-- What is found under a root when it is looked up. -/
def Finds (store : Store τ) (now : τ) (custom : Option String) (node : Node)
    (records : List (Record τ)) : Prop :=
  ∃ key, node.queryKey custom = .ok key ∧ store.recall now key = .ok records

private theorem lookupRoots_keys {store : Store τ} {now : τ} {custom : Option String}
    {prototype : Prototype} {cached : OrderedMap String (List (Record τ))}
    (found : lookupRoots store now custom prototype = .ok cached) :
    ∀ root ∈ OrderedMap.keys cached, root ∈ OrderedMap.keys prototype := by
  induction prototype generalizing cached with
  | nil => cases found; simp [OrderedMap.keys]
  | cons entry rest ih =>
    simp only [lookupRoots, bind, except_bind_ok, pure, Except.pure, Except.ok.injEq] at found
    obtain ⟨key, _, records, _, others, later, rfl⟩ := found
    intro root member
    by_cases empty : records.isEmpty = true
    · simp only [empty, ↓reduceIte] at member
      exact List.mem_cons_of_mem _ (ih later root member)
    · simp only [empty, Bool.false_eq_true, ↓reduceIte, OrderedMap.keys, List.map_cons,
        List.mem_cons] at member
      rcases member with rfl | member
      · exact List.mem_cons_self ..
      · exact List.mem_cons_of_mem _ (ih later root member)

/-- Where every root has a key of its own, the records of each are what it finds. -/
theorem lookupRoots_finds {store : Store τ} {now : τ} {custom : Option String}
    {prototype : Prototype} {cached : OrderedMap String (List (Record τ))}
    (unique : (OrderedMap.keys prototype).Nodup)
    (found : lookupRoots store now custom prototype = .ok cached) :
    ∀ root ∈ prototype, Finds store now custom root.2 ((OrderedMap.get? cached root.1).getD []) := by
  induction prototype generalizing cached with
  | nil => simp
  | cons entry rest ih =>
    obtain ⟨fresh, tail⟩ := List.nodup_cons.mp unique
    simp only [lookupRoots, bind, except_bind_ok, except_mapError_ok, pure, Except.pure,
      Except.ok.injEq] at found
    obtain ⟨key, named, records, recalled, others, later, rfl⟩ := found
    intro root member
    rcases List.mem_cons.mp member with rfl | member
    · have absent : OrderedMap.get? others root.1 = none :=
        (OrderedMap.get?_eq_none_iff others root.1).mpr fun inside =>
          fresh (lookupRoots_keys later _ inside)
      refine ⟨key, named, ?_⟩
      cases records <;> simp [OrderedMap.get?, absent, recalled]
    · have other : entry.1 ≠ root.1 := fun same =>
        fresh (same ▸ List.mem_map_of_mem (f := Prod.fst) member)
      cases records <;> simpa [OrderedMap.get?, other] using ih tail later root member

/-- The roots are looked up when each of them finds something. -/
theorem lookupRoots_ok {store : Store τ} {now : τ} {custom : Option String}
    {prototype : Prototype}
    (found : ∀ root ∈ prototype, ∃ records, Finds store now custom root.2 records) :
    ∃ cached, lookupRoots store now custom prototype = .ok cached := by
  induction prototype with
  | nil => exact ⟨[], rfl⟩
  | cons entry rest ih =>
    obtain ⟨⟨records, key, named, recalled⟩, others⟩ := List.forall_mem_cons.mp found
    obtain ⟨cached, later⟩ := ih others
    exact ⟨if records.isEmpty then cached else (entry.1, records) :: cached, by
      simp [lookupRoots, named, recalled, later, Except.mapError, bind, Except.bind, pure,
        Except.pure]⟩

/-- The plan of a call that goes through the cache. -/
def queryPlan (settings : Settings) (call : Call) (document : Document)
    (cached : OrderedMap String (List (Record τ))) : Plan τ :=
  let prototype := document.expanded settings.cache.custom
  .query (deposit settings call prototype false) prototype settings.cache.custom cached

variable {client : Client τ} {call : Call} {settings : Settings} {document : Document}

theorem begin_of_query (queries : client.Queries call settings document) (store : Store τ)
    (now : τ) : client.begin call store now =
      client.openQuery settings call (document.compile settings.cache.custom) store now := by
  simp [begin, queries.options, queries.reads, queries.eligible]

theorem begin_of_mutation
    (options : client.settings.withOptions client.homes call.options = .ok settings)
    (reads : readQuery call.query = .ok document)
    (mutation : (document.compile settings.cache.custom).route = .mutation) (store : Store τ)
    (now : τ) : client.begin call store now =
      client.openMutation settings call (document.compile settings.cache.custom) store := by
  simp [begin, options, reads, mutation]

/-- The first step of such a call is the lookup of its roots. -/
theorem begin_ok_iff (queries : client.Queries call settings document) {store : Store τ} {now : τ}
    {opening : Opening τ} :
    (client.begin call store now).result = .ok opening ↔
      ∃ cached, lookupRoots store now (client.lookupName settings)
          (document.expanded settings.cache.custom) = .ok cached ∧
        opening = ⟨request settings call "POST", queryPlan settings call document cached⟩ := by
  rw [begin_of_query queries, openQuery, ← Document.expanded]
  cases found : lookupRoots store now (client.lookupName settings)
      (document.expanded settings.cache.custom) with
  | error cause => simp
  | ok cached => simp [queryPlan, eq_comm]

/-- The first step of such a call leaves the store as it is. -/
theorem begin_store (queries : client.Queries call settings document) (store : Store τ) (now : τ) :
    (client.begin call store now).store = store := by
  rw [begin_of_query queries, openQuery]
  split <;> rfl

/-! ## The second step -/

/-- What the second step of such a call does when it returns. -/
theorem finish_ok {request : Request} {cached : OrderedMap String (List (Record τ))}
    {delivery : Delivery} {store : Store τ} {now : τ} {returned : Answer}
    (finished : (client.finish ⟨request, queryPlan settings call document cached⟩ delivery store
      now).result = .ok returned) :
    ∃ answer batch, delivery.answer request.endpoint = .ok answer ∧
      store.deposit client.filing now (deposit settings call
          (document.expanded settings.cache.custom) false (dataOf answer)) =
        .ok ((client.finish ⟨request, queryPlan settings call document cached⟩ delivery store
          now).store, batch) ∧
      complete (document.expanded settings.cache.custom) settings.cache.custom cached answer =
        .ok returned := by
  cases delivered : delivery.answer request.endpoint with
  | error cause => simp [finish, delivered] at finished
  | ok answer =>
    simp only [finish, delivered, carryOut, queryPlan, file] at finished ⊢
    cases filed : store.deposit client.filing now (deposit settings call
        (document.expanded settings.cache.custom) false (dataOf answer)) with
    | error cause => simp [filed] at finished
    | ok result =>
      obtain ⟨after, batch⟩ := result
      simp only [filed, except_mapError_ok] at finished
      exact ⟨answer, batch, rfl, filed, finished⟩

end Client

/-! ## Answers that say nothing -/

/-- What is answered to a request by a server that has nothing to say. -/
def Delivery.silence : Delivery := .answered 200 "\x7b\"data\": null\x7d"

theorem Delivery.silence_answer (endpoint : String) :
    silence.answer endpoint = .ok [("data", .null)] := by
  have body : Json.readBody "\x7b\"data\": null\x7d" = .ok (.object [("data", .null)]) :=
    except_ok_of_toOption (by decide +kernel)
  simp [silence, Delivery.answer, isErrorStatus, readAnswer, body]

/-- Of an answer that says nothing, nothing is filed. -/
theorem Filing.batchOf_null {τ : Type} (filing : Filing τ) (prototype : Prototype) :
    filing.batchOf prototype .null = .ok .empty := by
  have roots : filing.fileRoots [] prototype .empty = .ok .empty := by
    induction prototype with
    | nil => rfl
    | cons root rest ih => exact ih
  rw [Filing.batchOf]
  split
  · rfl
  · exact roots

theorem Store.deposit_null {τ : Type} [Instant τ] (store : Store τ) (settings : StoreSettings τ)
    (now : τ) {deposit : Deposit τ} (null : deposit.data = .null) :
    store.deposit settings now deposit = .ok (store, .empty) := by
  rw [Store.deposit, null, Filing.batchOf_null]
  rfl

/-- A call that goes through the cache returns when nothing is said to it: its answer is completed
from what was found. -/
theorem Client.finish_silence {τ : Type} [Instant τ] (client : Client τ) (settings : Settings)
    (call : Call) (document : Document) (cached : OrderedMap String (List (Record τ)))
    (request : Request) (store : Store τ) (now : τ) :
    ∃ returned, (client.finish ⟨request, queryPlan settings call document cached⟩
      Delivery.silence store now).result = .ok returned := by
  have kept := Store.deposit_null store client.filing now (show (deposit settings call
    (document.expanded settings.cache.custom) false .null : Deposit τ).data = .null from rfl)
  have data : dataOf [("data", .null)] = .null := rfl
  obtain ⟨returned, completed⟩ : ∃ returned, complete (document.expanded settings.cache.custom)
      settings.cache.custom cached [("data", .null)] = .ok returned := by
    rw [complete]
    split
    · exact ⟨_, rfl⟩
    · exact ⟨_, rfl⟩
  exact ⟨returned, by
    simp [finish, Delivery.silence_answer, carryOut, queryPlan, file, data, kept, completed,
      Except.mapError]⟩

end GraphCache
